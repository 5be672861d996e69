import LiveMarkdown.Markdown.Source

/-!
# Columns at the start of a line

Indentation is measured in columns: a tab reaches to the next column that is a
multiple of four, counted from the start of the line or from the tab before it.  A
cursor is a place near the start of a line; when only some of the columns of a tab
have been used, the rest of them is kept as spare columns.
-/

namespace LiveMarkdown.Markdown

/-- A place near the start of a line. -/
structure Cursor where
  /-- The position of the next byte. -/
  pos : Nat
  /-- The position from which the columns of the next tab are counted. -/
  tabStart : Nat
  /-- The columns of the last tab that have not been used. -/
  spare : Nat
deriving Repr

namespace Cursor

/-- The start of a line. -/
def ofLine (i : Nat) : Cursor :=
  ⟨i, i, 0⟩

/-- Uses up to `n` columns of white space, and tells how many of them were missing. -/
def useColumns (s : Source) (n : Nat) (c : Cursor) : Nat × Cursor :=
  if _h : n = 0 then (0, c)
  else
    match s.get? c.pos with
    | some ' ' => useColumns s (n - 1) { c with pos := c.pos + 1 }
    | some '\t' =>
      let width := 3 - (c.pos - c.tabStart) % 4
      useColumns s (n - (min width (n - 1) + 1))
        ⟨c.pos + 1, c.pos + 1, width + 1 - min (width + 1) n⟩
    | _ => (n, c)
termination_by n

/-- Uses up to `n` columns, the spare ones first, and tells how many were missing. -/
def missing (s : Source) (n : Nat) (c : Cursor) : Nat × Cursor :=
  let k := min c.spare n
  useColumns s (n - k) { c with spare := c.spare - k }

/-- Uses up to `n` columns and tells how many were used. -/
def indent (s : Source) (n : Nat) (c : Cursor) : Nat × Cursor :=
  let (rest, c) := c.missing s n
  (n - rest, c)

/-- Uses up to `n` columns and tells whether there were that many. -/
def columns (s : Source) (n : Nat) (c : Cursor) : Bool × Cursor :=
  let (rest, c) := c.missing s n
  (rest == 0, c)

/-- Passes over all spaces and tabs. -/
def skipBlanks (s : Source) (c : Cursor) : Cursor :=
  { c with pos := s.skipWhile (fun d => d == ' ' || d == '\t') c.pos, spare := 0 }

/-- Whether the line ends at the cursor. -/
def atLineEnd (s : Source) (c : Cursor) : Bool :=
  match s.get? c.pos with
  | none => true
  | some d => d == '\n' || d == '\r'

/-- Passes over the character `d`, if it is the next one. -/
def char? (s : Source) (d : Char) (c : Cursor) : Option Cursor :=
  if s.is c.pos d then some { c with pos := c.pos + 1 } else none

end Cursor

/-- A block that can hold other blocks and marks each of its lines. -/
inductive Container where
  /-- A block quote, whose lines begin with `>`. -/
  | quote
  /-- A list item, whose lines are indented by the given number of columns. -/
  | item (indent : Nat)
deriving Repr, DecidableEq

/-- Passes over the mark of a block quote line. -/
def quoteMark? (s : Source) (c : Cursor) : Option Cursor := do
  let c ← (c.indent s 3).2.char? s '>'
  return (c.columns s 1).2

/-- Passes over what a container requires of each of its lines. -/
def Container.continue? (s : Source) (c : Cursor) : Container → Option Cursor
  | .quote => quoteMark? s c
  | .item n =>
    let (enough, c) := c.columns s n
    if enough || c.atLineEnd s then some c else none

/-- Passes over the marks of as many of the containers, outermost first, as a line
continues, and tells how many these are. -/
def continueContainers (s : Source) : List Container → Cursor → Nat × Cursor
  | [], c => (0, c)
  | b :: bs, c =>
    match b.continue? s c with
    | none => (0, c)
    | some c =>
      let (n, c) := continueContainers s bs c
      (n + 1, c)

/-- The place in the line at position `i` after the marks of the containers that it
continues, and whether it continues all of them. -/
def enterLine (s : Source) (containers : List Container) (i : Nat) : Bool × Cursor :=
  let (n, c) := continueContainers s containers (Cursor.ofLine i)
  (n == containers.length, c)

end LiveMarkdown.Markdown
