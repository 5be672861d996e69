import LiveMarkdown.Text.Digits
import LiveMarkdown.Yaml.Reader

/-!
# Scalars

The five styles of scalars: plain, between single or double quotation marks, and the two
block styles, of which one keeps its lines and the other one folds them.  In the first
three styles, and in the last one, the end of a line counts as a space, and further
empty lines count as ends of lines.
-/

namespace LiveMarkdown.Yaml

/-- How a scalar is written. -/
inductive ScalarStyle where
  /-- Without any marks. -/
  | plain
  /-- Between single quotation marks. -/
  | singleQuoted
  /-- Between double quotation marks. -/
  | doubleQuoted
  /-- As a block whose lines are kept. -/
  | literal
  /-- As a block whose lines are folded. -/
  | folded
deriving DecidableEq, Repr, Inhabited

/-- What lies between two words of a scalar. -/
structure Gap where
  /-- The spaces and tabs, in reverse. -/
  separators : List Char := []
  /-- Whether a line ends. -/
  broken : Bool := false
  /-- The first end of a line, unless it was escaped. -/
  first : Option Char := none
  /-- The other ends of lines, in reverse. -/
  others : List Char := []

namespace Gap

/-- Whether nothing lies between. -/
def isEmpty (g : Gap) : Bool :=
  g.separators.isEmpty && !g.broken

/-- The gap with one more space or tab.  At the start of a line it does not count. -/
def separate (g : Gap) (c : Char) : Gap :=
  if g.broken then g else { g with separators := c :: g.separators }

/-- The gap with one more end of a line. -/
def endLine (g : Gap) (c : Char) : Gap :=
  if g.broken then { g with others := c :: g.others }
  else { separators := [], broken := true, first := some c, others := [] }

/-- An escaped end of a line. -/
def escapedBreak : Gap :=
  { broken := true }

/-- Adds what a gap stands for to a text.  Both are in reverse. -/
def close (g : Gap) (text : List Char) : List Char :=
  if g.broken then
    match g.first with
    | some '\n' => if g.others.isEmpty then ' ' :: text else g.others ++ text
    | first => g.others ++ first.toList ++ text
  else g.separators ++ text

end Gap

/-- A scalar that has been read. -/
structure ScannedScalar where
  /-- Its text. -/
  text : String
  /-- Whether a line ended after it. -/
  broken : Bool := false
  /-- The place after it. -/
  reader : Reader

/-- The scalar with a text that is given in reverse. -/
def ScannedScalar.ofReversed (text : List Char) (r : Reader) : ScannedScalar :=
  { text := String.ofList text.reverse, reader := r }

/-! ## Plain scalars -/

/-- Whether a plain scalar ends before a character.  Inside brackets more characters end
it. -/
def endsPlain (inFlow : Bool) (c : Char) (after : List Char) : Bool :=
  (c == ':' && endsWord after) ||
    (inFlow && (c == ',' || c == '[' || c == ']' || c == '\x7b' || c == '\x7d'))

/-- Whether a colon inside brackets is ambiguous. -/
def isAmbiguousColon (c : Char) (after : List Char) : Bool :=
  c == ':' && (after.head?.any fun d =>
    d == ',' || d == '?' || d == '[' || d == ']' || d == '\x7b' || d == '\x7d')

/-- Reads on in a plain scalar.  Its lines start at column `indent` or after it, unless it
is inside brackets. -/
def scanPlain (inFlow : Bool) (indent : Nat) (p : Position) (text : List Char) (g : Gap) :
    List Char → Option ScannedScalar
  | [] => some { ScannedScalar.ofReversed text ⟨p, []⟩ with broken := g.broken }
  | c :: cs =>
    let finished : ScannedScalar :=
      { ScannedScalar.ofReversed text ⟨p, c :: cs⟩ with broken := g.broken }
    if isSeparator c then
      if g.broken && p.column < indent && c == '\t' then none
      else scanPlain inFlow indent p.next text (g.separate c) cs
    else if isBreak c then
      scanPlain inFlow indent p.nextLine text (g.endLine c) cs
    else if !g.isEmpty && (c == '#' || (!inFlow && p.column < indent) ||
        (p.column == 0 && isDocumentMark (c :: cs))) then some finished
    else if inFlow && isAmbiguousColon c cs then none
    else if endsPlain inFlow c cs then some finished
    else scanPlain inFlow indent p.next (c :: g.close text) {} cs

/-! ## Quoted scalars -/

/-- Reads on in a scalar between single quotation marks.  Two of them stand for one. -/
def scanSingleQuoted (p : Position) (text : List Char) (g : Gap) :
    List Char → Option ScannedScalar
  | [] => none
  | '\x27' :: '\x27' :: cs => scanSingleQuoted (p.advance 2) ('\x27' :: g.close text) {} cs
  | c :: cs =>
    if p.column == 0 && isDocumentMark (c :: cs) then none
    else if isSeparator c then scanSingleQuoted p.next text (g.separate c) cs
    else if isBreak c then scanSingleQuoted p.nextLine text (g.endLine c) cs
    else if c == '\x27' then some (.ofReversed (g.close text) ⟨p.next, cs⟩)
    else scanSingleQuoted p.next (c :: g.close text) {} cs

/-- The character that an escape sequence of one letter stands for. -/
def escapeImage? : Char → Option Char
  | '0' => some '\x00'
  | 'a' => some '\x07'
  | 'b' => some '\x08'
  | 't' => some '\t'
  | '\t' => some '\t'
  | 'n' => some '\n'
  | 'v' => some '\x0b'
  | 'f' => some '\x0c'
  | 'r' => some '\r'
  | 'e' => some '\x1b'
  | ' ' => some ' '
  | '"' => some '"'
  | '/' => some '/'
  | '\\' => some '\\'
  | 'N' => some '\u0085'
  | '_' => some '\u00a0'
  | 'L' => some '\u2028'
  | 'P' => some '\u2029'
  | _ => none

/-- The number of hexadecimal digits after a letter that begins an escape sequence. -/
def escapeWidth? : Char → Option Nat
  | 'x' => some 2
  | 'u' => some 4
  | 'U' => some 8
  | _ => none

/-- The character whose code is written in a fixed number of hexadecimal digits. -/
def codeImage? (width : Nat) (cs : List Char) : Option Char :=
  let digits := cs.take width
  if digits.length = width then
    match readDigits? 16 digits with
    | some n => if n.isValidChar then some (Char.ofNat n) else none
    | none => none
  else none

/-- Reads on in a scalar between double quotation marks. -/
def scanDoubleQuoted (p : Position) (text : List Char) (g : Gap) (cs : List Char) :
    Option ScannedScalar :=
  match cs with
  | [] => none
  | c :: cs =>
    if p.column == 0 && isDocumentMark (c :: cs) then none
    else if isSeparator c then scanDoubleQuoted p.next text (g.separate c) cs
    else if isBreak c then scanDoubleQuoted p.nextLine text (g.endLine c) cs
    else if c == '"' then some (.ofReversed (g.close text) ⟨p.next, cs⟩)
    else if c == '\\' then
      match cs with
      | [] => none
      | letter :: rest =>
        if isBreak letter then
          scanDoubleQuoted p.nextLine (g.close text) Gap.escapedBreak rest
        else
          match escapeImage? letter, escapeWidth? letter with
          | some image, _ => scanDoubleQuoted (p.advance 2) (image :: g.close text) {} rest
          | none, some width =>
            match codeImage? width rest with
            | some image =>
              scanDoubleQuoted (p.advance (2 + width)) (image :: g.close text) {}
                (rest.drop width)
            | none => none
          | none, none => none
    else scanDoubleQuoted p.next (c :: g.close text) {} cs
termination_by cs.length
decreasing_by all_goals (simp only [List.length_cons, List.length_drop]; omega)

/-! ## Block scalars -/

/-- What becomes of the ends of lines at the end of a block. -/
inductive Chomping where
  /-- All of them are dropped. -/
  | strip
  /-- The first one is kept. -/
  | clip
  /-- All of them are kept. -/
  | keep
deriving DecidableEq, Repr

/-- The first line of a block: the chomping, and the indentation in addition to that of
the block around it, if it is given. -/
structure BlockHeader where
  /-- The chomping. -/
  chomping : Chomping := .clip
  /-- The indentation. -/
  indent : Option Nat := none

namespace BlockHeader

/-- The chomping that a character asks for. -/
def chomping? : Char → Option Chomping
  | '+' => some .keep
  | '-' => some .strip
  | _ => none

/-- Reads a digit that gives the indentation, which must not be zero. -/
def readIndent? (h : BlockHeader) (r : Reader) : Option (BlockHeader × Reader) :=
  match r.rest with
  | [] => some (h, r)
  | c :: _ =>
    if !c.isDigit then some (h, r)
    else if c == '0' then none
    else some ({ h with indent := some (c.toNat - '0'.toNat) }, r.skip 1)

/-- Reads the first line of a block from behind its mark. -/
def ofReader? (r : Reader) : Option (BlockHeader × Reader) :=
  match r.rest.head?.bind chomping? with
  | some chomping =>
    (readIndent? { chomping } (r.skip 1)).bind fun (h, r) => r.finishLine?.map fun r => (h, r)
  | none =>
    (readIndent? {} r).bind fun (h, r) =>
      match h.indent, r.rest.head?.bind chomping? with
      | some _, some chomping => (r.skip 1).finishLine?.map fun r => ({ h with chomping }, r)
      | _, _ => r.finishLine?.map fun r => (h, r)

end BlockHeader

/-- The lines of a block that have been read. -/
structure BlockText where
  /-- Whether lines are kept. -/
  literal : Bool
  /-- The text, in reverse. -/
  text : List Char := []
  /-- The end of the last line that was not empty. -/
  lastBreak : Option Char := none
  /-- The ends of the empty lines after it, in reverse. -/
  emptyLines : List Char := []
  /-- Whether the last line that was not empty began with a space or tab. -/
  indented : Bool := false

namespace BlockText

/-- The text in reverse with all ends of lines. -/
def withBreaks (b : BlockText) : List Char :=
  b.emptyLines ++ b.lastBreak.toList ++ b.text

/-- Begins a line that is not empty.  Two lines that do not begin with a space or tab are
folded into one. -/
def startLine (b : BlockText) (c : Char) : BlockText :=
  let before :=
    if !b.literal && b.lastBreak == some '\n' && !b.indented && !isSeparator c then
      if b.emptyLines.isEmpty then ' ' :: b.text else b.emptyLines ++ b.text
    else b.withBreaks
  { literal := b.literal, text := c :: before, indented := isSeparator c }

/-- The text in reverse after the chomping. -/
def chomp (b : BlockText) : Chomping → List Char
  | .strip => b.text
  | .clip => b.lastBreak.toList ++ b.text
  | .keep => b.withBreaks

end BlockText

/-- The indentation of a block, as far as it is known. -/
inductive BlockIndent where
  /-- It is known. -/
  | known (column : Nat)
  /-- It is that of the first line that is not empty, but at least `least`, and not less
  than that of the empty lines, which is `widest` so far. -/
  | unknown (least widest : Nat)

namespace BlockIndent

/-- Whether a space in a column belongs to the indentation. -/
def includes (i : BlockIndent) (column : Nat) : Bool :=
  match i with
  | .known n => column < n
  | .unknown .. => true

/-- Takes note of the column where the spaces of a line end. -/
def widen (i : BlockIndent) (column : Nat) : BlockIndent :=
  match i with
  | .known n => .known n
  | .unknown least widest => .unknown least (max widest column)

/-- The column, once a line that is not empty has been found. -/
def column (i : BlockIndent) : Nat :=
  match i with
  | .known n => n
  | .unknown least widest => max least widest

end BlockIndent

/-- Reads on in the lines of a block. -/
def scanBlockLines (chomping : Chomping) (indent : BlockIndent) (inLine : Bool) (p : Position)
    (b : BlockText) : List Char → Option ScannedScalar
  | [] => some (.ofReversed (b.chomp chomping) ⟨p, []⟩)
  | c :: cs =>
    if inLine then
      if isBreak c then
        scanBlockLines chomping indent false p.nextLine { b with lastBreak := some c } cs
      else scanBlockLines chomping indent true p.next { b with text := c :: b.text } cs
    else if c == ' ' && indent.includes p.column then
      scanBlockLines chomping indent false p.next b cs
    else if c == '\t' && indent.includes p.column then none
    else if isBreak c then
      scanBlockLines chomping (indent.widen p.column) false p.nextLine
        { b with emptyLines := c :: b.emptyLines } cs
    else
      let column := (indent.widen p.column).column
      if p.column = column then
        scanBlockLines chomping (.known column) true p.next (b.startLine c) cs
      else some (.ofReversed (b.chomp chomping) ⟨p, c :: cs⟩)

/-- Reads a block from behind its mark.  The lines of the block around it start at column
`level - 1`; there is none if `level` is zero. -/
def scanBlock (literal : Bool) (level : Nat) (r : Reader) : Option ScannedScalar :=
  (BlockHeader.ofReader? r).bind fun (header, r) =>
    let indent := match header.indent with
      | some n => BlockIndent.known (level - 1 + n)
      | none => BlockIndent.unknown (max level 1) 0
    scanBlockLines header.chomping indent false r.position { literal } r.rest

end LiveMarkdown.Yaml
