import LiveMarkdown.Text.Span
import LiveMarkdown.Text.Units

/-!
# Offsets

A parser counts the bytes of a text, a host its code units.  The table of a text says
for each byte at which code unit its character starts, and for each line at which byte
it starts.  A line ends with a line feed.
-/

namespace LiveMarkdown

/-- A place in a text: its line and its byte in that line, both counted from one. -/
structure Location where
  /-- The line. -/
  line : Nat
  /-- The byte in the line. -/
  column : Nat
deriving DecidableEq, Repr

/-- The byte and line positions of a text in code units. -/
structure OffsetTable where
  /-- The code unit at which the character of each byte starts, and at the end the
  number of code units of the text. -/
  unitOfByte : Array Nat
  /-- The byte at which each line starts. -/
  lineStarts : Array Nat
deriving DecidableEq, Repr

namespace OffsetTable

/-- The table of the characters read so far, without the entry for the end, and their
number of code units. -/
structure Partial where
  /-- The code unit at which the character of each byte starts. -/
  unitOfByte : Array Nat
  /-- The byte at which each line starts. -/
  lineStarts : Array Nat
  /-- The number of code units. -/
  length : Nat

/-- Appends `n` copies of an entry. -/
def pushCopies (as : Array Nat) (a : Nat) : Nat → Array Nat
  | 0 => as
  | n + 1 => pushCopies (as.push a) a n

/-- Takes one more character into account. -/
def Partial.push (t : Partial) (c : Char) : Partial :=
  let unitOfByte := pushCopies t.unitOfByte t.length c.utf8Size
  ⟨unitOfByte, if c = '\n' then t.lineStarts.push unitOfByte.size else t.lineStarts,
    t.length + unitLength c⟩

/-- The table of a text. -/
def ofText (cs : List Char) : OffsetTable :=
  let all := cs.foldl Partial.push ⟨#[], #[0], 0⟩
  ⟨all.unitOfByte.push all.length, all.lineStarts⟩

/-- The number of bytes of the text. -/
def bytes (t : OffsetTable) : Nat :=
  t.unitOfByte.size - 1

/-- The number of code units of the text. -/
def length (t : OffsetTable) : Nat :=
  t.unitOfByte[t.bytes]?.getD 0

/-- The number of lines of the text.  There is a line, possibly empty, after the last
line feed. -/
def lineCount (t : OffsetTable) : Nat :=
  t.lineStarts.size

/-- The byte at which a line starts, where lines are counted from zero. -/
def lineStart? (t : OffsetTable) (line : Nat) : Option Nat :=
  t.lineStarts[line]?

/-- The code unit at which the character of a byte starts.  The byte after the last one
stands for the end of the text. -/
def unitAt? (t : OffsetTable) (byte : Nat) : Option Nat :=
  t.unitOfByte[byte]?

/-- The byte at a location.  It may lie on a later line, but not beyond the end. -/
def byteAt? (t : OffsetTable) (l : Location) : Option Nat :=
  if l.line = 0 ∨ l.column = 0 then none
  else (t.lineStart? (l.line - 1)).bind fun start =>
    let byte := start + (l.column - 1)
    if byte ≤ t.bytes then some byte else none

/-- The code unit at a location. -/
def unitAtLocation? (t : OffsetTable) (l : Location) : Option Nat :=
  (t.byteAt? l).bind t.unitAt?

/-- The span between two code units, if they are in order and at most `limit`. -/
def within? (limit start stop : Nat) : Option Span :=
  if start ≤ stop ∧ stop ≤ limit then some ⟨start, stop⟩ else none

/-- The code units of a span of bytes, if they end at `limit` or before. -/
def unitSpan? (t : OffsetTable) (span : Span) (limit : Nat) : Option Span :=
  (t.unitAt? span.start).bind fun start =>
    (t.unitAt? span.stop).bind fun stop => within? limit start stop

/-- The code units between two locations, if they end at `limit` or before. -/
def unitSpanOfLocations? (t : OffsetTable) (first last : Location) (limit : Nat) : Option Span :=
  (t.unitAtLocation? first).bind fun start =>
    (t.unitAtLocation? last).bind fun stop => within? limit start stop

/-- The code units of the lines from `first` up to `last`, where lines are counted from
zero and `last` may lie beyond the last line. -/
def lineWindow? (t : OffsetTable) (first last : Nat) : Option Span :=
  (t.lineStart? first).bind fun start =>
    (t.unitAt? start).bind fun start =>
      (t.unitAt? ((t.lineStart? last).getD t.bytes)).bind fun stop =>
        if start ≤ stop then some ⟨start, stop⟩ else none

end OffsetTable

end LiveMarkdown
