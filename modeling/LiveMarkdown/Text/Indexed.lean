import LiveMarkdown.Text.Offsets

/-!
# Indexed texts

A text with its table of offsets and the means to cut out a span of bytes at once.  A
span of bytes can be cut out when it is in order and both its ends lie between two
characters.
-/

namespace LiveMarkdown

/-- A text that is addressed by bytes. -/
structure IndexedText where
  /-- The characters. -/
  chars : Array Char
  /-- The number of characters that end before or at each byte position. -/
  charsBefore : Array Nat
  /-- The table of offsets. -/
  table : OffsetTable

namespace IndexedText

/-- Appends the entries for the bytes of one more character. -/
def pushChar (charsBefore : Array Nat) (c : Char) : Array Nat :=
  let n := charsBefore.back?.getD 0
  (OffsetTable.pushCopies charsBefore n (c.utf8Size - 1)).push (n + 1)

/-- A text with its index. -/
def ofText (cs : List Char) : IndexedText :=
  ⟨cs.toArray, cs.foldl pushChar #[0], OffsetTable.ofText cs⟩

/-- The number of characters before a byte position that lies between two characters. -/
def charIndex? (t : IndexedText) (byte : Nat) : Option Nat :=
  match byte with
  | 0 => some 0
  | previous + 1 =>
    t.charsBefore[previous + 1]?.bind fun n =>
      if t.charsBefore[previous]? = some n then none else some n

/-- The indices of the first character of a span of bytes and of the one after it, if the
span can be cut out. -/
def cut? (t : IndexedText) (span : Span) : Option Span :=
  if span.start ≤ span.stop then
    (t.charIndex? span.start).bind fun first =>
      (t.charIndex? span.stop).map fun last => ⟨first, last⟩
  else none

/-- The characters of a span of bytes, if it can be cut out. -/
def slice? (t : IndexedText) (span : Span) : Option (List Char) :=
  (t.cut? span).map fun s => (t.chars.extract s.start s.stop).toList

end IndexedText

end LiveMarkdown
