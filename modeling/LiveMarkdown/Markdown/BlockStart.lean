import LiveMarkdown.Markdown.Cursor
import LiveMarkdown.Markdown.Html

/-!
# How blocks begin

The first characters of a line, after the marks of the containers and up to three
columns of indentation, decide which block it opens: a thematic break, a heading, a
code fence, a list item, a block quote or raw HTML.  The same tests tell which lines
interrupt a paragraph.
-/

namespace LiveMarkdown.Markdown

/-- The mark of a list item. -/
structure ListMark where
  /-- The bullet, or the character after the number. -/
  delimiter : Char
  /-- The columns by which the content of the item is indented. -/
  indent : Nat
deriving Repr

/-- A list is ordered unless its delimiter is a bullet. -/
def isBullet (c : Char) : Bool :=
  c == '-' || c == '+' || c == '*'

namespace Source

/-- The position after the line of a thematic break. -/
def thematicBreak? (s : Source) (i : Nat) : Option Nat := do
  let c ← s.get? i
  guard (c == '*' || c == '-' || c == '_')
  let j := s.skipWhile (fun d => d == c || d == ' ' || d == '\t') i
  let next ← s.lineEnd? j
  let marks := (List.range (j - i)).countP fun k => s.is (i + k) c
  guard (3 ≤ marks)
  return next

/-- The level of the heading that number signs open. -/
def headingLevel? (s : Source) (i : Nat) : Option Nat :=
  let level := s.count (· == '#') i
  if 1 ≤ level && level ≤ 6 && (s.get? (i + level)).all isSpace then some level else none

/-- The level of the heading that a line of underlines makes of the paragraph before
it, and the position after that line. -/
def underline? (s : Source) (i : Nat) : Option (Nat × Nat) := do
  let c ← s.get? i
  let level ← if c == '=' then some 1 else if c == '-' then some 2 else none
  let next ← s.blankLine? (s.skipWhile (· == c) i)
  return (level, next)

/-- The character and the length of a code fence. -/
def codeFence? (s : Source) (i : Nat) : Option (Char × Nat) := do
  let c ← s.get? i
  guard (c == '\x60' || c == '~')
  let n := s.count (· == c) i
  guard (3 ≤ n)
  if c == '\x60' then
    let stop := s.nextLine (i + n)
    guard ((s.upTo stop).find? '\x60' (i + n)).isNone
  return (c, n)

/-- The position after the fence that closes a code block, its line ending excluded. -/
def closingFence? (s : Source) (c : Char) (n i : Nat) : Option Nat :=
  if s.limit ≤ i then some i
  else
    let j := s.skipWhile (· == c) i
    let k := s.skipWhile (· == ' ') j
    if n ≤ j - i && (s.lineEnd? k).isSome then some k else none

/-- Whether the mark of a list item begins at position `i` that may interrupt a
paragraph.  Unless any item may, only a bullet or the number one may, and the rest
of its line must not be blank. -/
def interruptingListMark (s : Source) (anyItem : Bool) (i : Nat) : Bool :=
  match s.get? i with
  | none => false
  | some c =>
    if isBullet c then content (i + 1) true
    else if c.isDigit then
      let j := (s.upTo (i + 9)).skipWhile Char.isDigit i
      if s.is j '.' || s.is j ')' then
        content (j + 1) (readNumber i j == 1)
      else false
    else false
where
  /-- The number written between two positions. -/
  readNumber (i j : Nat) : Nat :=
    (List.range (j - i)).foldl
      (fun n k => 10 * n + ((s.get? (i + k)).getD '0').toNat - '0'.toNat) 0
  /-- The mark is followed by white space, and its item is not empty. -/
  content (j : Nat) (mayInterrupt : Bool) : Bool :=
    let separated := match s.get? j with
      | none => true
      | some d => d == ' ' || d == '\t' || d == '\n' || d == '\r'
    separated && (anyItem || (mayInterrupt && !s.atBlankLine j))

/-- Whether the line at position `i` interrupts a paragraph.  With `anyItem` every list
item does. -/
def interruptsParagraph (s : Source) (anyItem : Bool) (i : Nat) : Bool :=
  (s.lineEnd? i).isSome || (s.thematicBreak? i).isSome || (s.headingLevel? i).isSome ||
    (s.codeFence? i).isSome || s.is i '>' || s.interruptingListMark anyItem i ||
    (s.is i '<' && ((s.htmlEndText? (i + 1)).isSome || s.startsNamedHtml (i + 1)))

end Source

/-- Completes a list mark after its delimiter: the indentation of the content counts
the columns up to its first character, unless these are more than four or the line is
blank. -/
private def finishListMark (s : Source) (delimiter : Char) (indent : Nat) (c : Cursor) :
    ListMark × Cursor :=
  if s.atBlankLine c.pos then (⟨delimiter, indent⟩, c)
  else
    let (extra, c') := c.indent s 4
    if extra < 4 then (⟨delimiter, indent + extra⟩, c') else (⟨delimiter, indent⟩, c)

/-- The mark of a list item whose line is indented by `outer` columns. -/
def listMark? (s : Source) (outer : Nat) (c : Cursor) : Option (ListMark × Cursor) := do
  let d ← s.get? c.pos
  if isBullet d then
    guard (s.thematicBreak? c.pos).isNone
    let (space, c) := { c with pos := c.pos + 1 }.columns s 1
    guard (space || c.atLineEnd s)
    return finishListMark s d (outer + 2) c
  else
    guard d.isDigit
    let j := (s.upTo (c.pos + 9)).skipWhile Char.isDigit c.pos
    let d ← s.get? j
    guard (d == '.' || d == ')')
    let width := j + 1 - c.pos
    let (space, c) := { c with pos := j + 1 }.columns s 1
    guard (space || c.atLineEnd s)
    return finishListMark s d (outer + 1 + width) c

/-- Passes over the box of a task. -/
def taskMark? (s : Source) (c : Cursor) : Option Cursor := do
  let c ← (c.indent s 3).2.char? s '['
  let mark ← s.get? c.pos
  guard (Source.isLineSpace mark || mark == 'x' || mark == 'X')
  let c ← { c with pos := c.pos + 1 }.char? s ']'
  guard ((s.get? c.pos).any Source.isLineSpace)
  return c

/-- The number of columns of a table and the position after the line that separates
its head from its body: hyphens in every column, with a colon at either end for the
alignment. -/
def tableRule? (s : Source) (i : Nat) : Option (Nat × Nat) :=
  let (indent, c) := (Cursor.ofLine i).indent s 4
  if indent > 3 || s.limit ≤ c.pos then none
  else go (if s.is c.pos '|' then c.pos + 1 else c.pos) 0 true false false
where
  /-- `start` says that nothing has been seen in the current column, `hyphen` that it
  has a hyphen and `any` that some column has one. -/
  go (i columns : Nat) (start hyphen any : Bool) : Option (Nat × Nat) :=
    if _h : i < s.limit then
      match s.get? i with
      | none => none
      | some c =>
        if c == ' ' then go (i + 1) columns start hyphen any
        else if c == ':' then go (i + 1) columns false hyphen any
        else if c == '-' then go (i + 1) columns false true true
        else if c == '|' then
          if hyphen then go (i + 1) (columns + 1) true false any else none
        else
          match s.lineEnd? i with
          | some next => finish next columns start hyphen any
          | none => none
    else finish i columns start hyphen any
  termination_by s.limit - i
  /-- The columns counted at the end of the line. -/
  finish (next columns : Nat) (start hyphen any : Bool) : Option (Nat × Nat) :=
    if !start && !hyphen then none
    else if any then some (if start then columns else columns + 1, next)
    else none

/-- The number of columns in the head of a table that begins at position `i`, from the
number of its vertical bars and the place of the last one. -/
def headColumns (s : Source) (bars i lastBar : Nat) : Nat :=
  let bars := if s.is (s.skipLineSpace i) '|' then bars - 1 else bars
  if s.atBlankLine (lastBar + 1) then bars else bars + 1

end LiveMarkdown.Markdown
