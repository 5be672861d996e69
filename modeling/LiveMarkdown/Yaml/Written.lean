import LiveMarkdown.Yaml.Value

/-!
# Writing YAML

A text is written as the value of an entry that is not indented.  It is written plain if
it then stands for itself; a text of several lines is written as a literal block.  Where
that is not possible it is put between single quotation marks, and between double ones if
it has characters that cannot be seen, or if spaces and ends of lines meet.
-/

namespace LiveMarkdown.Yaml

/-- The characters that can be seen, and the line feed. -/
def isVisible (c : Char) : Bool :=
  let n := c.toNat
  c == '\n' || (0x20 ≤ n && n ≤ 0x7E) || (0xA0 ≤ n && n ≤ 0xFFFD && n != 0xFEFF) ||
    0x10000 ≤ n

/-- The characters that cannot begin a plain text. -/
def isMark (c : Char) : Bool :=
  c == '#' || c == ',' || c == '[' || c == ']' || c == '\x7b' || c == '\x7d' || c == '&' ||
    c == '*' || c == '!' || c == '|' || c == '>' || c == '\x27' || c == '"' || c == '%' ||
    c == '@' || c == '\x60'

/-- Whether a colon ends a word or a number sign begins one. -/
def hasInnerMark (startsWord : Bool) : List Char → Bool
  | [] => false
  | c :: cs =>
    (c == ':' && endsWord cs) || (c == '#' && startsWord) ||
      hasInnerMark (isSeparator c || isBreak c) cs

/-- Whether some characters would be read as marks. -/
def hasMark (cs : List Char) : Bool :=
  ['-', '-', '-'].isPrefixOf cs || ['.', '.', '.'].isPrefixOf cs ||
    (match cs with
      | [] => false
      | c :: rest => isMark c || ((c == '?' || c == '-') && endsWord rest)) ||
    hasInnerMark true cs

/-- Whether a character that satisfies `p` is followed by one that satisfies `q`. -/
def meet (p q : Char → Bool) : List Char → Bool
  | a :: b :: cs => (p a && q b) || meet p q (b :: cs)
  | _ => false

/-- Whether some characters begin or end with one that satisfies `p`. -/
def hasEdge (p : Char → Bool) (cs : List Char) : Bool :=
  cs.head?.any p || cs.getLast?.any p

/-- Whether some characters can be written between single quotation marks. -/
def canQuote (cs : List Char) : Bool :=
  cs.all isVisible && !meet (· == ' ') isBreak cs && !meet isBreak (· == ' ') cs

/-- Whether some characters can be written plain, as far as marks are concerned. -/
def canBePlain (cs : List Char) : Bool :=
  cs.all isVisible && !cs.any isBreak && !hasEdge (· == ' ') cs && !hasMark cs

/-- Whether some characters can be written as a literal block. -/
def canBeLiteral (cs : List Char) : Bool :=
  cs.all isVisible && !meet (· == ' ') isBreak cs && cs.getLast? != some ' '

/-- How a text is written. -/
def styleOf (text : String) : ScalarStyle :=
  let cs := text.toList
  if cs.contains '\n' then
    if canBeLiteral cs then .literal else .doubleQuoted
  else if !isAmbiguous text && canBePlain cs then .plain
  else if canQuote cs then .singleQuoted
  else .doubleQuoted

/-- Writes characters of an indented text; `startsLine` tells whether a line starts. -/
def indented (write : Char → List Char) (startsLine : Bool) : List Char → List Char
  | [] => []
  | c :: cs =>
    if isBreak c then c :: indented write true cs
    else if startsLine then ' ' :: ' ' :: (write c ++ indented write false cs)
    else write c ++ indented write false cs

/-- The text between single quotation marks.  Each of them inside is written twice. -/
def singleQuoted (cs : List Char) : List Char :=
  let body := indented (fun c => if c = '\x27' then [c, c] else [c]) false cs
  let indent := if cs.getLast?.any isBreak then [' ', ' '] else []
  '\x27' :: (body ++ indent ++ ['\x27'])

/-- The last hexadecimal digits of a number. -/
def hexDigits (n : Nat) : Nat → List Char
  | 0 => []
  | width + 1 => hexDigits (n / 16) width ++ [(Nat.digitChar (n % 16)).toUpper]

/-- A character between double quotation marks. -/
def escaped (c : Char) : List Char :=
  if c == '"' || c == '\\' then ['\\', c]
  else if isVisible c && !isBreak c then [c]
  else
    match c with
    | '\x00' => ['\\', '0']
    | '\x07' => ['\\', 'a']
    | '\x08' => ['\\', 'b']
    | '\t' => ['\\', 't']
    | '\n' => ['\\', 'n']
    | '\x0b' => ['\\', 'v']
    | '\x0c' => ['\\', 'f']
    | '\r' => ['\\', 'r']
    | '\x1b' => ['\\', 'e']
    | '\u0085' => ['\\', 'N']
    | '\u2028' => ['\\', 'L']
    | '\u2029' => ['\\', 'P']
    | c =>
      let n := c.toNat
      if n < 0x100 then '\\' :: 'x' :: hexDigits n 2
      else if n < 0x10000 then '\\' :: 'u' :: hexDigits n 4
      else '\\' :: 'U' :: hexDigits n 8

/-- The text between double quotation marks. -/
def doubleQuoted (cs : List Char) : List Char :=
  '"' :: (cs.flatMap escaped ++ ['"'])

/-- The marks of a literal block: its indentation, if the first line does not show it, and
what becomes of the ends of lines at its end. -/
def literalMarks (cs : List Char) : List Char :=
  let indent := if cs.head?.any (fun c => c == ' ' || isBreak c) then ['2'] else []
  let chomping :=
    match cs.reverse with
    | [] => ['-']
    | last :: before =>
      if !isBreak last then ['-'] else if before.head?.all isBreak then ['+'] else []
  '|' :: (indent ++ chomping)

/-- The text as a literal block. -/
def literal (cs : List Char) : List Char :=
  literalMarks cs ++ '\n' :: indented (fun c => [c]) true cs

/-- The text as the value of an entry that is not indented, with the end of its last
line. -/
def writeText (text : String) : String :=
  let cs := text.toList
  match styleOf text with
  | .literal =>
    let written := literal cs
    String.ofList (if cs.getLast?.any isBreak then written else written ++ ['\n'])
  | .singleQuoted => String.ofList (singleQuoted cs ++ ['\n'])
  | .doubleQuoted => String.ofList (doubleQuoted cs ++ ['\n'])
  | _ => text ++ "\n"

end LiveMarkdown.Yaml
