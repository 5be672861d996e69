import Std.Data.HashMap
import LiveMarkdown.Text.Digits

/-!
# Tables of characters

Large tables of characters are written as lists of lines, each with entries that are
separated by a space.  Codes are written in hexadecimal.  An interval of codes is its
first and its last code with a hyphen between them, or one code alone.  In a table of
images an entry is a key, an equals sign, and the codes of the characters that the key
stands for with plus signs between them; in one of character images the key is an
interval, whose characters go in order to the character given and those after it, and
a slash after the interval leaves out every other character.
-/

namespace LiveMarkdown.Table

/-- The entries of a table. -/
def entries (lines : List String) : List String :=
  lines.flatMap (·.splitOn " ")

/-- A code. -/
def readCode? (word : String) : Option Nat :=
  readDigits? 16 word.toList

/-- The characters with the given codes. -/
def readChars (word : String) : List Char :=
  ((word.splitOn "+").filterMap readCode?).map Char.ofNat

/-- An interval of codes. -/
def readInterval? (word : String) : Option (Nat × Nat) :=
  match word.splitOn "-" with
  | [one] => (readCode? one).map fun n => (n, n)
  | [first, last] => (readCode? first).bind fun n => (readCode? last).map fun m => (n, m)
  | _ => none

/-- A table of intervals. -/
def readIntervals (lines : List String) : Array (Nat × Nat) :=
  ((entries lines).filterMap readInterval?).toArray

/-- A table of images whose keys are words. -/
def readImages (lines : List String) : Std.HashMap String (List Char) :=
  (entries lines).foldl (fun table entry =>
    match entry.splitOn "=" with
    | [key, image] => table.insert key (readChars image)
    | _ => table) ∅

/-- Adds the images of `n` characters, where the codes are `step` apart. -/
def insertRun (table : Std.HashMap Nat (List Char)) (step : Nat) (image : List Char) (code : Nat) :
    Nat → Std.HashMap Nat (List Char)
  | 0 => table
  | n + 1 =>
    let next := image.map fun c => Char.ofNat (c.toNat + step)
    insertRun (table.insert code image) step next (code + step) n

/-- A table of images whose keys are characters, given by their codes. -/
def readCharImages (lines : List String) : Std.HashMap Nat (List Char) :=
  (entries lines).foldl (fun table entry =>
    match entry.splitOn "=" with
    | [key, image] =>
      let (interval, step) := match key.splitOn "/" with
        | [interval, _] => (interval, 2)
        | _ => (key, 1)
      match readInterval? interval with
      | some (first, last) =>
        insertRun table step (readChars image) first ((last - first) / step + 1)
      | none => table
    | _ => table) ∅

end LiveMarkdown.Table
