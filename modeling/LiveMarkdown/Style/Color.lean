import LiveMarkdown.Text.CharClass
import LiveMarkdown.Text.Digits

/-!
# Colors

A color has a red, a green, a blue and an opacity channel of eight bits each.  It is
written as a number sign and two hexadecimal digits for each channel, where the
opacity is left out if it is full.  A color is read with or without number signs and
amid white space; each channel is a number in base sixteen of two characters, the
first of which may be a plus sign.
-/

namespace LiveMarkdown

/-- A color. -/
structure Color where
  /-- Red. -/
  red : UInt8
  /-- Green. -/
  green : UInt8
  /-- Blue. -/
  blue : UInt8
  /-- Opacity. -/
  alpha : UInt8 := 255
deriving DecidableEq, Repr, Inhabited

/-- Why a text is no color.  Both causes give the text without the white space around
it and the number signs before it. -/
inductive ColorError where
  /-- The text is not of six or eight ASCII characters. -/
  | format (text : String)
  /-- A channel is not a number in base sixteen. -/
  | digit (text : String)
deriving DecidableEq, Repr

/-- The wording of a cause. -/
def ColorError.message : ColorError → String
  | .format text => "Invalid color format: " ++ text
  | .digit text => text ++ ": invalid digit found in string"

namespace Color

/-- The characters without the white space at both ends and the number signs at the
start of the rest. -/
def stripped (cs : List Char) : List Char :=
  let rest := (cs.dropWhile isBlank).reverse.dropWhile isBlank
  rest.reverse.dropWhile (· == '#')

/-- The channel that two characters write. -/
def channel? (first second : Char) : Option UInt8 :=
  let digits := if first = '+' then [second] else [first, second]
  (readDigits? 16 digits).map Nat.toUInt8

/-- The color that a text writes. -/
def ofText (text : String) : Except ColorError Color :=
  let cs := stripped text.toList
  let body := String.ofList cs
  let channel (first second : Char) : Except ColorError UInt8 :=
    match channel? first second with
    | some n => .ok n
    | none => .error (.digit body)
  if cs.all (·.val < 0x80) then
    match cs with
    | [a, b, c, d, e, f] => do
      .ok ⟨← channel a b, ← channel c d, ← channel e f, 255⟩
    | [a, b, c, d, e, f, g, h] => do
      .ok ⟨← channel a b, ← channel c d, ← channel e f, ← channel g h⟩
    | _ => .error (.format body)
  else .error (.format body)

/-- The two hexadecimal digits of a channel. -/
def channelDigits (n : UInt8) : List Char :=
  [Nat.digitChar (n.toNat / 16), Nat.digitChar (n.toNat % 16)]

/-- The text of a color. -/
def toText (c : Color) : String :=
  let solid := '#' :: (channelDigits c.red ++ channelDigits c.green ++ channelDigits c.blue)
  String.ofList (if c.alpha = 255 then solid else solid ++ channelDigits c.alpha)

end Color

end LiveMarkdown
