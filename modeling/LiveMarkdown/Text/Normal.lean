import LiveMarkdown.Text.NormalTable
import LiveMarkdown.Text.CharClass

/-!
# Composed form

Texts that look the same may be made of different characters: a letter with an accent
is one character, or a letter and a mark.  The composed form of a text takes all
characters apart, sorts the marks after each letter by their class, and puts together
what can be put together.  Syllables of Hangul are taken apart by arithmetic.
-/

namespace LiveMarkdown.Normal

/-- The class of a mark, or zero. -/
def combiningClass (c : Char) : Nat :=
  combiningClasses[c.toNat]?.getD 0

/-- Whether a character is a mark. -/
def isMark (c : Char) : Bool :=
  inIntervals markIntervals c.toNat 0 markIntervals.size

/-- The first and the last syllable of Hangul. -/
def hangulSyllables : Nat × Nat :=
  (0xAC00, 0xD7A3)

/-- The parts of a syllable of Hangul. -/
def hangulParts (n : Nat) : List Char :=
  let index := n - hangulSyllables.1
  let final := index % 28
  let parts := [Char.ofNat (0x1100 + index / 588), Char.ofNat (0x1161 + index % 588 / 28)]
  if final = 0 then parts else parts ++ [Char.ofNat (0x11A7 + final)]

/-- The parts of a character, where parts are taken apart `depth` times. -/
def parts (c : Char) : Nat → List Char
  | 0 => [c]
  | depth + 1 =>
    if hangulSyllables.1 ≤ c.toNat ∧ c.toNat ≤ hangulSyllables.2 then hangulParts c.toNat
    else
      match decompositions[c.toNat]? with
      | some cs => cs.flatMap fun c => parts c depth
      | none => [c]

/-- Puts a mark behind the other marks of at most its class, where the list starts with
the last character. -/
def insertMark (c : Char) : List Char → List Char
  | [] => [c]
  | last :: rest =>
    if combiningClass c < combiningClass last then last :: insertMark c rest else c :: last :: rest

/-- Adds a character to a text in reverse whose marks are sorted. -/
def pushSorted (reversed : List Char) (c : Char) : List Char :=
  if combiningClass c = 0 then c :: reversed else insertMark c reversed

/-- The text with its characters taken apart and its marks sorted. -/
def decompose (cs : List Char) : List Char :=
  ((cs.flatMap fun c => parts c 8).foldl pushSorted []).reverse

/-- The characters that are composed of two others. -/
def compositions : Std.HashMap (Nat × Nat) Nat :=
  decompositions.fold (fun table n cs =>
    match cs with
    | [a, b] =>
      if inIntervals decomposedOnly n 0 decomposedOnly.size then table
      else table.insert (a.toNat, b.toNat) n
    | _ => table) ∅

/-- The character that is composed of two others. -/
def compose? (a b : Char) : Option Char :=
  let n := a.toNat
  let m := b.toNat
  if 0x1100 ≤ n ∧ n < 0x1113 ∧ 0x1161 ≤ m ∧ m < 0x1176 then
    some (Char.ofNat (hangulSyllables.1 + ((n - 0x1100) * 21 + (m - 0x1161)) * 28))
  else if hangulSyllables.1 ≤ n ∧ n ≤ hangulSyllables.2 ∧ (n - hangulSyllables.1) % 28 = 0 ∧
      0x11A8 ≤ m ∧ m < 0x11C3 then
    some (Char.ofNat (n + (m - 0x11A7)))
  else (compositions[(n, m)]?).map Char.ofNat

/-- A text that is being composed. -/
structure Composition where
  /-- What precedes the last letter, in reverse. -/
  before : List Char
  /-- The last letter, with the marks that have been joined to it. -/
  letter : Option Char
  /-- The marks after it that have not, in reverse. -/
  marks : List Char

namespace Composition

/-- The whole text, in reverse. -/
def reversed (t : Composition) : List Char :=
  t.marks ++ (t.letter.toList ++ t.before)

/-- Adds a character, which joins the last letter if no mark between them keeps it away. -/
def push (t : Composition) (c : Char) : Composition :=
  let cls := combiningClass c
  let near := match t.marks with
    | [] => true
    | last :: _ => combiningClass last < cls
  match (if near then t.letter else none).bind (compose? · c) with
  | some letter => { t with letter := some letter }
  | none =>
    if cls = 0 then ⟨t.reversed, some c, []⟩
    else { t with marks := c :: t.marks }

end Composition

/-- The composed form of a text. -/
def composed (cs : List Char) : List Char :=
  ((decompose cs).foldl Composition.push ⟨[], none, []⟩).reversed.reverse

end LiveMarkdown.Normal
