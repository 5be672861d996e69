import LiveMarkdown.Text.Digits

/-!
# Reading numbers

Whole numbers in a base up to sixteen, and decimals with an optional fraction and an
optional exponent, which are rounded to double precision.
-/

namespace LiveMarkdown

/-- The number that at least one digit writes. -/
def readNumber? (base : Nat) (cs : List Char) : Option Nat :=
  if cs.isEmpty then none else readDigits? base cs

/-- The decimal `digits · 10 ^ exponent`, unless it is too large for double precision. -/
def roundDecimal? (digits : Nat) (exponent : Int) : Option Float :=
  let magnitude := (Nat.toDigits 10 digits).length + exponent
  if digits = 0 ∨ magnitude < -330 then some 0
  else if 310 < magnitude then none
  else
    let x := Float.ofScientific digits (exponent < 0) exponent.natAbs
    if x.isFinite then some x else none

/-- The exponent that some characters write, if any. -/
def readExponent? : List Char → Option Int
  | [] => some 0
  | c :: cs =>
    if c = 'e' ∨ c = 'E' then
      match cs with
      | '-' :: digits => (readNumber? 10 digits).map fun n => -(n : Int)
      | '+' :: digits => (readNumber? 10 digits).map fun n => (n : Int)
      | digits => (readNumber? 10 digits).map fun n => (n : Int)
    else none

/-- The decimal that some characters write without a sign. -/
def readDecimal? (cs : List Char) : Option Float :=
  let whole := cs.takeWhile Char.isDigit
  let (fraction, rest) := match cs.dropWhile Char.isDigit with
    | '.' :: cs => (cs.takeWhile Char.isDigit, cs.dropWhile Char.isDigit)
    | cs => ([], cs)
  match readNumber? 10 (whole ++ fraction), readExponent? rest with
  | some digits, some exponent => roundDecimal? digits (exponent - fraction.length)
  | _, _ => none

/-- The decimal that some characters write, perhaps with a sign. -/
def readSignedDecimal? : List Char → Option Float
  | '-' :: cs => (readDecimal? cs).map (-·)
  | '+' :: cs => readDecimal? cs
  | cs => readDecimal? cs

end LiveMarkdown
