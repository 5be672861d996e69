/-!
# Decimal text of single precision numbers

A finite number of single precision is `m · 2 ^ e` with a natural number `m`.  The
real numbers that are rounded to it form an interval around it, whose ends belong to
it exactly when `m` is even.  Its decimal is the one in that interval that has the
fewest digits, and of those the nearest one.  Two layouts write such a decimal: the
plain one never uses an exponent, and the scientific one does so for large and small
numbers.
-/

namespace LiveMarkdown

/-- What a single precision number is. -/
inductive Real32 where
  /-- Not a number. -/
  | nan
  /-- An infinity, with whether it is negative. -/
  | infinite (negative : Bool)
  /-- The number `mantissa · 2 ^ exponent`, with whether it is negated. -/
  | finite (negative : Bool) (mantissa : Nat) (exponent : Int)
deriving DecidableEq, Repr

/-- What a pattern of bits stands for: a sign, eight bits of exponent, and 23 bits of
fraction. -/
def Real32.ofBits (bits : UInt32) : Real32 :=
  let negative := bits >>> 31 == 1
  let exponent := (bits >>> 23 &&& 0xFF).toNat
  let fraction := (bits &&& 0x7FFFFF).toNat
  if exponent = 0xFF then
    if fraction = 0 then .infinite negative else .nan
  else if exponent = 0 then .finite negative fraction (-149)
  else .finite negative (0x800000 + fraction) (exponent - 150)

/-- The number `digits · 10 ^ exponent`. -/
structure Decimal where
  /-- The digits, as a number. -/
  digits : Nat
  /-- The power of ten that the last digit counts. -/
  exponent : Int
deriving DecidableEq, Repr

namespace Decimal

/-- The positive rational numbers that are rounded to a number, all over a common
denominator. -/
structure Interval where
  /-- The number itself. -/
  value : Nat
  /-- The lower end. -/
  low : Nat
  /-- The upper end. -/
  high : Nat
  /-- The common denominator. -/
  denominator : Nat
  /-- Whether the ends belong to the interval. -/
  closed : Bool

/-- The interval of `mantissa · 2 ^ exponent`.  Its ends lie half way to the two
neighbours; below a power of two the neighbour is half as far away, unless the number
has the least exponent. -/
def interval (mantissa : Nat) (exponent : Int) : Interval :=
  let scale := exponent - 2
  let below := if mantissa = 0x800000 ∧ -149 < exponent then 1 else 2
  let factor := Nat.pow 2 scale.toNat
  ⟨4 * mantissa * factor, (4 * mantissa - below) * factor, (4 * mantissa + 2) * factor,
    Nat.pow 2 (-scale).toNat, mantissa % 2 == 0⟩

namespace Interval

/-- Whether `n / d` lies in the interval. -/
def contains (i : Interval) (n d : Nat) : Bool :=
  let x := n * i.denominator
  if i.closed then i.low * d ≤ x && x ≤ i.high * d
  else i.low * d < x && x < i.high * d

/-- The point `n · 10 ^ exponent` as a fraction. -/
def point (n : Nat) (exponent : Int) : Nat × Nat :=
  (n * Nat.pow 10 exponent.toNat, Nat.pow 10 (-exponent).toNat)

/-- The nearer of the two neighbours of the number on the grid of multiples of
`10 ^ exponent`, as far as they lie in the interval; the upper one if they are equally
near. -/
def onGrid? (i : Interval) (exponent : Int) : Option Nat :=
  let (one, d) := point 1 exponent
  let lower := i.value * d / (i.denominator * one)
  let inside (n : Nat) : Bool := i.contains (n * one) d
  match 0 < lower && inside lower, inside (lower + 1) with
  | true, true =>
    let here := i.value * d
    let down := here - lower * one * i.denominator
    let up := (lower + 1) * one * i.denominator - here
    some (if down < up then lower else lower + 1)
  | true, false => some lower
  | false, true => some (lower + 1)
  | false, false => none

/-- The first hit on the grids of `10 ^ exponent`, `10 ^ (exponent - 1)`, and so on. -/
def search (i : Interval) (exponent : Int) : Nat → Option Decimal
  | 0 => none
  | fuel + 1 =>
    match i.onGrid? exponent with
    | some n => some ⟨n, exponent⟩
    | none => i.search (exponent - 1) fuel

end Interval

/-- The number of decimal digits of a natural number; zero has one. -/
def width (n : Nat) : Nat :=
  (Nat.toDigits 10 n).length

/-- How many times a positive number below `bound` must be multiplied by ten to reach
`bound`, or `fuel` if that is less. -/
def stepsTo (bound n : Nat) : Nat → Nat
  | 0 => 0
  | fuel + 1 => if bound ≤ n then 0 else stepsTo bound (10 * n) fuel + 1

/-- The decimal with the fewest digits that is rounded to the positive number
`mantissa · 2 ^ exponent`.  The search begins above the largest power of ten that the
number reaches; nine digits always suffice. -/
def shortest (mantissa : Nat) (exponent : Int) : Decimal :=
  let i := interval mantissa exponent
  let top : Int :=
    if i.denominator ≤ i.value then (width (i.value / i.denominator) : Int) - 1
    else -(stepsTo i.denominator i.value 64 : Int)
  (i.search (top + 1) 20).getD ⟨0, 0⟩

/-- The digits of a number, the most significant one first. -/
def digitList (d : Decimal) : List Char :=
  Nat.toDigits 10 d.digits

/-- The decimal without an exponent. -/
def plain (d : Decimal) : List Char :=
  let cs := d.digitList
  if 0 ≤ d.exponent then cs ++ List.replicate d.exponent.toNat '0'
  else
    let places := (-d.exponent).toNat
    if places < cs.length then cs.take (cs.length - places) ++ '.' :: cs.drop (cs.length - places)
    else '0' :: '.' :: List.replicate (places - cs.length) '0' ++ cs

/-- The decimal with at least one place, and with an exponent if it has more than 13
digits before the point or more than five zeros after it. -/
def scientific (d : Decimal) : List Char :=
  let cs := d.digitList
  let point : Int := cs.length + d.exponent
  if 0 ≤ d.exponent ∧ point ≤ 13 then d.plain ++ ['.', '0']
  else if d.exponent < 0 ∧ -5 ≤ point ∧ point ≤ 13 then d.plain
  else
    let places := if cs.length = 1 then cs else cs.take 1 ++ '.' :: cs.drop 1
    places ++ 'e' :: (if point ≤ 0 then [] else ['+']) ++ (toString (point - 1)).toList

end Decimal

/-- A sign and an unsigned text. -/
def signed (negative : Bool) (cs : List Char) : String :=
  String.ofList (if negative then '-' :: cs else cs)

/-- The plain text of a number: no exponent, and no point in a whole number. -/
def plainText (x : Float32) : String :=
  match Real32.ofBits x.toBits with
  | .nan => "NaN"
  | .infinite negative => signed negative ['i', 'n', 'f']
  | .finite negative m e =>
    signed negative (if m = 0 then ['0'] else (Decimal.shortest m e).plain)

/-- The text of a number with at least one place or an exponent, if it is finite. -/
def scientificText? (x : Float32) : Option String :=
  match Real32.ofBits x.toBits with
  | .finite negative m e =>
    some (signed negative (if m = 0 then ['0', '.', '0'] else (Decimal.shortest m e).scientific))
  | _ => none

end LiveMarkdown
