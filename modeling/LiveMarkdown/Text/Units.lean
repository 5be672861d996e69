/-!
# Code units

A host addresses its text by UTF-16 code units: a character outside the basic plane
takes two of them, every other character one.  This module measures lists of
characters in code units, cuts them at a code unit position and encodes them.  A
position between the two units of a character is not a boundary; a cut there is made
before the character.

Three characters end a paragraph: line feed, carriage return and the paragraph
separator.
-/

namespace LiveMarkdown

/-- The number of code units that encode a character. -/
def unitLength (c : Char) : Nat :=
  if c.val < 0x10000 then 1 else 2

theorem unitLength_pos (c : Char) :
  0 < unitLength c
  := by
  unfold unitLength
  split <;> decide

/-- The number of code units that encode a text. -/
def units (cs : List Char) : Nat :=
  cs.foldl (fun n c => n + unitLength c) 0

theorem units_foldl (n : Nat) (cs : List Char) :
  cs.foldl (fun n c => n + unitLength c) n = n + units cs
  := by
  induction cs generalizing n with
  | nil => rfl
  | cons c cs ih =>
    simp only [units, List.foldl_cons]
    rw [ih, ih]
    omega

@[simp] theorem units_nil :
  units [] = 0
  := rfl

@[simp] theorem units_cons (c : Char) (cs : List Char) :
  units (c :: cs) = unitLength c + units cs
  := by
  simp only [units, List.foldl_cons]
  rw [units_foldl, units_foldl]
  omega

@[simp] theorem units_append (cs ds : List Char) :
  units (cs ++ ds) = units cs + units ds
  := by
  induction cs with
  | nil => simp
  | cons c cs ih => simp only [List.cons_append, units_cons, ih]; omega

@[simp] theorem units_reverse (cs : List Char) :
  units cs.reverse = units cs
  := by
  induction cs with
  | nil => rfl
  | cons c cs ih => simp only [List.reverse_cons, units_append, units_cons, units_nil, ih]; omega

/-- The code units that encode a character. -/
def encodeChar (c : Char) : List UInt16 :=
  if c.val < 0x10000 then
    [c.val.toUInt16]
  else
    let v := c.val - 0x10000
    [(0xD800 + v / 0x400).toUInt16, (0xDC00 + v % 0x400).toUInt16]

/-- The code units that encode a text. -/
def encode16 (cs : List Char) : List UInt16 :=
  cs.flatMap encodeChar

theorem length_encodeChar (c : Char) :
  (encodeChar c).length = unitLength c
  := by
  rw [encodeChar, unitLength]
  split
  · rfl
  · rfl

@[simp] theorem encode16_nil :
  encode16 [] = []
  := rfl

@[simp] theorem encode16_cons (c : Char) (cs : List Char) :
  encode16 (c :: cs) = encodeChar c ++ encode16 cs
  := List.flatMap_cons

@[simp] theorem encode16_append (cs ds : List Char) :
  encode16 (cs ++ ds) = encode16 cs ++ encode16 ds
  := List.flatMap_append

@[simp] theorem length_encode16 (cs : List Char) :
  (encode16 cs).length = units cs
  := by
  induction cs with
  | nil => rfl
  | cons c cs ih => rw [encode16_cons, List.length_append, length_encodeChar, units_cons, ih]

/-- A text seen from a place inside it: the characters before the place, the nearest
first, and the characters after it. -/
structure Place where
  /-- The characters before the place, the nearest first. -/
  before : List Char
  /-- The characters after the place. -/
  after : List Char
deriving Repr, Inhabited

namespace Place

/-- Moves right over as many characters as fit into `n` code units. -/
def advance (n : Nat) (before : List Char) : List Char → Place
  | [] => ⟨before, []⟩
  | c :: cs =>
    if unitLength c ≤ n then advance (n - unitLength c) (c :: before) cs
    else ⟨before, c :: cs⟩

/-- The place at code unit `n` of a text, or before the character that holds it. -/
def ofUnits (n : Nat) (cs : List Char) : Place :=
  advance n [] cs

/-- The code unit position of a place. -/
def offset (p : Place) : Nat :=
  units p.before

/-- The text around a place. -/
def text (p : Place) : List Char :=
  p.before.reverse ++ p.after

theorem text_advance (n : Nat) (before cs : List Char) :
  (advance n before cs).text = before.reverse ++ cs
  := by
  induction cs generalizing n before with
  | nil => rfl
  | cons c cs ih =>
    unfold advance
    split
    · rw [ih]
      simp
    · rfl

@[simp] theorem text_ofUnits (n : Nat) (cs : List Char) :
  (ofUnits n cs).text = cs
  := text_advance n [] cs

theorem offset_add_units (n : Nat) (cs : List Char) :
  (ofUnits n cs).offset + units (ofUnits n cs).after = units cs
  := by
  have h := congrArg units (text_ofUnits n cs)
  simpa [text, offset] using h

end Place

/-- Whether code unit position `n` lies between two characters of a text, or at one of
its ends. -/
def isBoundary (cs : List Char) (n : Nat) : Bool :=
  (Place.ofUnits n cs).offset == n

/-- The characters that end a paragraph. -/
def isParagraphSeparator (c : Char) : Bool :=
  c == '\n' || c == '\r' || c == '\u2029'

/-- Whether a text holds the end of a paragraph. -/
def containsParagraphBreak (cs : List Char) : Bool :=
  cs.any isParagraphSeparator

end LiveMarkdown
