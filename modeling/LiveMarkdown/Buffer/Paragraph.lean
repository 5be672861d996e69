import LiveMarkdown.Buffer.Basic

/-!
# Parts of the text

The text of a span of a buffer, and the paragraphs around a span.  A paragraph ends
with its separator; a carriage return and the line feed after it are one separator.
-/

namespace LiveMarkdown

/-- The position after the first paragraph separator of a text that starts at position
`n`, or the end of the text. -/
def paragraphStop (n : Nat) : List Char → Nat
  | [] => n
  | c :: cs =>
    if isParagraphSeparator c then
      if c = '\r' ∧ cs.head? = some '\n' then n + 2 else n + 1
    else paragraphStop (n + unitLength c) cs

namespace Place

/-- The position after the last paragraph separator before a place, or the start of the
text. -/
def paragraphStart (p : Place) : Nat :=
  units (p.before.dropWhile fun c => !isParagraphSeparator c)

/-- The place before the character that precedes a place. -/
def back (p : Place) : Place :=
  match p.before with
  | [] => p
  | c :: cs => ⟨cs, c :: p.after⟩

end Place

namespace Buffer

/-- The text of a span, unless it is out of order or out of bounds.  A cut inside a
character is made before it. -/
def textIn? (b : Buffer) (span : Span) : Option (List Char) :=
  if span.start ≤ span.stop ∧ span.stop ≤ b.length then
    let p := Place.ofUnits span.start b.chars
    some (Place.ofUnits (span.stop - p.offset) p.after).before.reverse
  else none

/-- The paragraphs that share a character with a span, or for an empty span the one that
its position is in. -/
def paragraphSpan (b : Buffer) (span : Span) : Span :=
  let first := Place.ofUnits (min span.start b.length) b.chars
  let last := Place.ofUnits (min span.stop b.length) b.chars
  let final := if first.offset < last.offset then last.back else first
  ⟨first.paragraphStart, paragraphStop final.offset final.after⟩

end Buffer

end LiveMarkdown
