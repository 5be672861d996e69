import LiveMarkdown.Text.CharClass

/-!
# Source text

The grammar of Markdown is a matter of ASCII characters, and the positions it reports
count bytes.  A source is the UTF-8 encoding of a text, read byte by byte up to a
limit; a byte is presented as the character with that code, so that the bytes of the
characters beyond ASCII appear as characters that no rule of the grammar mentions.

The scanners of this module take a position and return the position after what they
recognise.
-/

namespace LiveMarkdown.Markdown

/-- The UTF-8 encoding of a text, readable up to position `limit`. -/
structure Source where
  /-- The encoded text. -/
  bytes : ByteArray
  /-- The position at which reading stops. -/
  limit : Nat

namespace Source

/-- A text as a source, readable to its end. -/
def ofString (text : String) : Source :=
  ⟨text.toUTF8, text.toUTF8.size⟩

/-- The source readable up to position `n` at most. -/
def upTo (s : Source) (n : Nat) : Source :=
  ⟨s.bytes, min n s.limit⟩

/-- The source readable to the end of the text. -/
def whole (s : Source) : Source :=
  ⟨s.bytes, s.bytes.size⟩

/-- The byte at position `i` as a character. -/
def get? (s : Source) (i : Nat) : Option Char :=
  if i < s.limit then
    if h : i < s.bytes.size then some (Char.ofUInt8 s.bytes[i]) else none
  else none

/-- Whether the byte at position `i` is the character `c`. -/
def is (s : Source) (i : Nat) (c : Char) : Bool :=
  s.get? i == some c

/-- Whether the text at position `i` begins with the ASCII characters `cs`. -/
def startsWith (s : Source) (i : Nat) : List Char → Bool
  | [] => true
  | c :: cs => s.is i c && startsWith s (i + 1) cs

/-- Whether the text at position `i` begins with the lower case letters `cs`, in
either case. -/
def startsWithFolded (s : Source) (i : Nat) : List Char → Bool
  | [] => true
  | c :: cs => (s.get? i).any (fun d => d.toLower == c) && startsWithFolded s (i + 1) cs

/-- The first position from `i` on whose byte does not satisfy `p`. -/
def skipWhile (s : Source) (p : Char → Bool) (i : Nat) : Nat :=
  if _h : i < s.limit then
    if (s.get? i).any p then skipWhile s p (i + 1) else i
  else i
termination_by s.limit - i

/-- The number of consecutive bytes from position `i` on that satisfy `p`. -/
def count (s : Source) (p : Char → Bool) (i : Nat) : Nat :=
  s.skipWhile p i - i

/-- The number of consecutive bytes that end before position `i`, begin at `low` or
later and satisfy `p`. -/
def countBack (s : Source) (p : Char → Bool) (low : Nat) : Nat → Nat
  | 0 => 0
  | i + 1 => if low ≤ i && (s.get? i).any p then countBack s p low i + 1 else 0

/-- The first position from `i` on that holds the character `c`. -/
def find? (s : Source) (c : Char) (i : Nat) : Option Nat :=
  let j := s.skipWhile (· != c) i
  if s.is j c then some j else none

/-- The text between two positions, as far as it is well formed. -/
def slice (s : Source) (i j : Nat) : String :=
  (String.fromUTF8? (s.bytes.extract i j)).getD ""

/-- The character of the text that begins at position `i`. -/
def charAt? (s : Source) (i : Nat) : Option Char :=
  if i < s.limit then s.bytes.utf8DecodeChar? i else none

/-- The character of the text that ends before position `i`. -/
def charBefore? (s : Source) (i : Nat) : Option Char :=
  let back := s.countBack (fun c => 0x80 ≤ c.toNat && c.toNat < 0xC0) (i - 4) i
  if back < i then s.bytes.utf8DecodeChar? (i - 1 - back) else none

/-- The ASCII characters that separate words within and between lines. -/
def isSpace (c : Char) : Bool :=
  c == ' ' || ('\t' ≤ c && c ≤ '\r')

/-- The ASCII characters that separate words within a line. -/
def isLineSpace (c : Char) : Bool :=
  c == ' ' || c == '\t' || c == '\x0b' || c == '\x0c'

/-- The characters of letters and digits. -/
def isAlphanum (c : Char) : Bool :=
  c.isAlpha || c.isDigit

/-- The position after the separators within a line. -/
def skipLineSpace (s : Source) (i : Nat) : Nat :=
  s.skipWhile isLineSpace i

/-- The position after a line ending, which the end of the text is, too. -/
def lineEnd? (s : Source) (i : Nat) : Option Nat :=
  match s.get? i with
  | none => some i
  | some '\n' => some (i + 1)
  | some '\r' => some (if s.is (i + 1) '\n' then i + 2 else i + 1)
  | some _ => none

/-- The position after the rest of a line, if that is blank. -/
def blankLine? (s : Source) (i : Nat) : Option Nat :=
  s.lineEnd? (s.skipLineSpace i)

/-- Whether the rest of a line is blank. -/
def atBlankLine (s : Source) (i : Nat) : Bool :=
  (s.blankLine? i).isSome

/-- The position after the next line feed. -/
def nextLine (s : Source) (i : Nat) : Nat :=
  let j := s.skipWhile (· != '\n') i
  if j < s.limit then j + 1 else j

end Source

end LiveMarkdown.Markdown
