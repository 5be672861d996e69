/-!
# Reading YAML

The characters of YAML, and a reader that knows how many lines and columns it has passed
over.  A stream is read with the ends of its lines made equal: a carriage return, the
line feed after it and a next line character all become one line feed.  The line and the
paragraph separator also end a line, but remain what they are.
-/

namespace LiveMarkdown.Yaml

/-- The characters that a stream may contain. -/
def isAllowed (c : Char) : Bool :=
  let n := c.toNat
  c == '\t' || c == '\n' || c == '\r' || (0x20 ≤ n && n ≤ 0x7E) || n == 0x85 ||
    (0xA0 ≤ n && n ≤ 0xFFFD) || 0x10000 ≤ n

/-- The characters of a stream with equal ends of lines. -/
def equalBreaks : List Char → List Char
  | '\r' :: '\n' :: cs => '\n' :: equalBreaks cs
  | c :: cs => (if c == '\r' || c == '\u0085' then '\n' else c) :: equalBreaks cs
  | [] => []

/-- The characters that separate words in a line. -/
def isSeparator (c : Char) : Bool :=
  c == ' ' || c == '\t'

/-- The characters that end a line. -/
def isBreak (c : Char) : Bool :=
  c == '\n' || c == '\u2028' || c == '\u2029'

/-- The characters of names. -/
def isNameChar (c : Char) : Bool :=
  c.isAlphanum || c == '_' || c == '-'

/-- Whether a word ends before some characters. -/
def endsWord : List Char → Bool
  | [] => true
  | c :: _ => isSeparator c || isBreak c

/-- Whether some characters begin with three equal marks and then a word ends. -/
def isTripled (mark : Char) : List Char → Bool
  | a :: b :: c :: rest => a == mark && b == mark && c == mark && endsWord rest
  | _ => false

/-- Whether some characters that begin a line begin or end a document. -/
def isDocumentMark (cs : List Char) : Bool :=
  isTripled '-' cs || isTripled '.' cs

/-- A position in a stream. -/
structure Position where
  /-- The number of lines before its line. -/
  line : Nat
  /-- The number of characters before it in its line. -/
  column : Nat
deriving DecidableEq, Repr, Inhabited

namespace Position

/-- The position after `n` characters that do not end the line. -/
def advance (p : Position) (n : Nat) : Position :=
  { p with column := p.column + n }

/-- The position after a character that does not end the line. -/
def next (p : Position) : Position :=
  p.advance 1

/-- The position after the end of the line. -/
def nextLine (p : Position) : Position :=
  ⟨p.line + 1, 0⟩

end Position

/-- A position and the characters after it. -/
structure Reader where
  /-- The position. -/
  position : Position
  /-- The characters after it. -/
  rest : List Char
deriving Inhabited

namespace Reader

/-- The start of a stream. -/
def ofText (cs : List Char) : Reader :=
  ⟨⟨0, 0⟩, cs⟩

/-- Passes over `n` characters that do not end the line. -/
def skip (r : Reader) (n : Nat) : Reader :=
  ⟨r.position.advance n, r.rest.drop n⟩

/-- Passes over all characters that satisfy `p`, none of which end the line. -/
def skipWhile (r : Reader) (p : Char → Bool) : Reader :=
  ⟨r.position.advance (r.rest.takeWhile p).length, r.rest.dropWhile p⟩

/-- Passes over spaces and tabs. -/
def skipSeparators (r : Reader) : Reader :=
  r.skipWhile isSeparator

/-- Whether the next character is the given one. -/
def isAt (r : Reader) (c : Char) : Bool :=
  r.rest.head? == some c

/-- Passes over the rest of a line, which may hold a comment, and its end. -/
def finishLine? (r : Reader) : Option Reader :=
  let r := r.skipSeparators
  let r := if r.isAt '#' then r.skipWhile (fun c => !isBreak c) else r
  match r.rest with
  | [] => some r
  | c :: cs => if isBreak c then some ⟨r.position.nextLine, cs⟩ else none

end Reader

end LiveMarkdown.Yaml
