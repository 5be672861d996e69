import LiveMarkdown.Text.Digits

/-!
# Percent encoding

A byte is encoded as a percent sign and two hexadecimal digits.  A part of a URL
encodes the control characters, everything beyond ASCII, and the characters of a set
of its own.
-/

namespace LiveMarkdown.Url

/-- The control characters. -/
def isControl (c : Char) : Bool :=
  c.val < 0x20 || c.val == 0x7F

/-- The characters that a fragment encodes. -/
def inFragmentSet (c : Char) : Bool :=
  c == ' ' || c == '"' || c == '<' || c == '>' || c == '\x60'

/-- The characters that a path encodes. -/
def inPathSet (c : Char) : Bool :=
  inFragmentSet c || c == '#' || c == '?' || c == '\x7b' || c == '\x7d'

/-- The characters that a user name or password encodes. -/
def inUserSet (c : Char) : Bool :=
  inPathSet c || c == '/' || c == ':' || c == ';' || c == '=' || c == '@' || c == '[' ||
    c == '\\' || c == ']' || c == '^' || c == '|'

/-- The characters that a query encodes. -/
def inQuerySet (c : Char) : Bool :=
  c == ' ' || c == '"' || c == '#' || c == '<' || c == '>'

/-- The encoding of a byte. -/
def encodeByte (b : UInt8) : List Char :=
  let digit (n : Nat) : Char := (Nat.digitChar n).toUpper
  ['%', digit (b.toNat / 16), digit (b.toNat % 16)]

/-- The encoding of a character in a part that encodes the characters of `set`. -/
def encodeChar (set : Char → Bool) (c : Char) : List Char :=
  if c.val < 0x80 && !isControl c && !set c then [c]
  else c.toString.toUTF8.toList.flatMap encodeByte

/-- The encoding of a text in a part that encodes the characters of `set`. -/
def encode (set : Char → Bool) (cs : List Char) : List Char :=
  cs.flatMap (encodeChar set)

/-- The bytes of a text, where every encoded byte stands for itself. -/
def decodeBytes : List Char → List UInt8
  | '%' :: a :: b :: rest =>
    match digitValue? 16 a, digitValue? 16 b with
    | some high, some low => (16 * high + low).toUInt8 :: decodeBytes rest
    | _, _ => '%'.val.toUInt8 :: decodeBytes (a :: b :: rest)
  | c :: rest => c.toString.toUTF8.toList ++ decodeBytes rest
  | [] => []

/-- The text with its encoded bytes decoded, unless that is no text. -/
def decode? (cs : List Char) : Option (List Char) :=
  (String.fromUTF8? ⟨(decodeBytes cs).toArray⟩).map String.toList

end LiveMarkdown.Url
