import LiveMarkdown.Text.Table
import LiveMarkdown.Markdown.EntityNames
import LiveMarkdown.Markdown.Source

/-!
# Character references

A character reference names a character by a word or by its code in decimal or
hexadecimal notation.  The escapes of a destination are undone by `unescape`: a
backslash before a punctuation character disappears and a reference becomes the
characters it stands for.
-/

namespace LiveMarkdown.Markdown

/-- The named character references. -/
def entityTable : Std.HashMap String (List Char) :=
  Table.readImages entityNames

/-- The character with a given code; the code zero stands for the replacement
character. -/
def charOfCode? (n : Nat) : Option Char :=
  if n == 0 then some '\ufffd'
  else if n.isValidChar then some (Char.ofNat n)
  else none

namespace Source

/-- The position after the character reference that begins with `&` at position `i`,
and what it stands for. -/
def entity? (s : Source) (i : Nat) : Option (Nat × String) := do
  if s.is (i + 1) '#' then
    let hexadecimal := s.is (i + 2) 'x' || s.is (i + 2) 'X'
    let (base, limit, first) := if hexadecimal then (16, 6, i + 3) else (10, 7, i + 2)
    let last := (s.upTo (first + limit)).skipWhile (fun c => (digitValue? base c).isSome) first
    guard (first < last && s.is last ';')
    let n ← readDigits? base (s.slice first last).toList
    let c ← charOfCode? n
    return (last + 1, c.toString)
  else
    let last := s.skipWhile isAlphanum (i + 1)
    guard (s.is last ';')
    let text ← entityTable[s.slice (i + 1) last]?
    return (last + 1, String.ofList text)

/-- The text between two positions with its escapes undone.  In a table a pair of
backslashes before a vertical bar disappears. -/
def unescape (s : Source) (inTable : Bool) (i stop : Nat) : String :=
  go i i []
where
  /-- The text from `mark` on is still to be copied; `parts` holds what is done, the
  last part first. -/
  go (mark i : Nat) (parts : List String) : String :=
    if _h : i < min stop s.limit then
      let s' := s.upTo stop
      match s'.get? i with
      | some '\\' =>
        if inTable && s'.is (i + 1) '\\' && s'.is (i + 2) '|' then
          go (i + 2) (i + 3) (s.slice mark i :: parts)
        else if (s'.get? (i + 1)).any isAsciiPunctuation then
          go (i + 1) (i + 2) (s.slice mark i :: parts)
        else go mark (i + 1) parts
      | some '&' =>
        match s'.entity? i with
        | some (j, text) =>
          go (i + 1 + (j - (i + 1))) (i + 1 + (j - (i + 1))) (text :: s.slice mark i :: parts)
        | none => go mark (i + 1) parts
      | some '\r' => go (i + 1) (i + 1) (s.slice mark i :: parts)
      | _ => go mark (i + 1) parts
    else String.join (s.slice mark stop :: parts).reverse
  termination_by min stop s.limit - i

end Source

end LiveMarkdown.Markdown
