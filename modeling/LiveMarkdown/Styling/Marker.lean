import LiveMarkdown.Text.Span

/-!
# Markers

The characters with which list items and quoted lines begin.  They are found by
looking at the text of a node alone.
-/

namespace LiveMarkdown

/-- The number of characters of the marker at the start of a list item: a bullet and a
space, possibly with a box and a space, or digits and a full stop with the space after
it, if any.  It is zero if there is no marker. -/
def markerLength (cs : List Char) : Nat :=
  match cs with
  | '-' :: ' ' :: '[' :: c :: ']' :: ' ' :: _ => if c = ' ' ∨ c = 'x' ∨ c = 'X' then 6 else 2
  | '-' :: ' ' :: _ => 2
  | '*' :: ' ' :: _ => 2
  | '+' :: ' ' :: _ => 2
  | _ =>
    let digits := (cs.takeWhile Char.isDigit).length
    if digits = 0 then 0
    else
      match cs.drop digits with
      | '.' :: ' ' :: _ => digits + 2
      | '.' :: _ => digits + 1
      | _ => 0

/-- The markers of quoted lines in a text that starts at byte `position`, after the
markers `found`, the last one first.  Only spaces, tabs and markers precede the text on
its line if `leading` holds. -/
def scanQuotes (leading : Bool) (position : Nat) (found : List Span) : List Char → List Span
  | [] => found.reverse
  | '>' :: ' ' :: rest =>
    if leading then scanQuotes true (position + 2) (⟨position, position + 2⟩ :: found) rest
    else scanQuotes false (position + 2) found rest
  | '>' :: rest =>
    if leading then scanQuotes true (position + 1) (⟨position, position + 1⟩ :: found) rest
    else scanQuotes false (position + 1) found rest
  | c :: rest =>
    scanQuotes (c == '\n' || (leading && (c == ' ' || c == '\t'))) (position + c.utf8Size) found
      rest

/-- The bytes of the markers of quoted lines: every `>` that only spaces, tabs and other
markers precede on its line, with the space after it, if any. -/
def quoteMarkers (cs : List Char) : List Span :=
  scanQuotes true 0 [] cs

end LiveMarkdown
