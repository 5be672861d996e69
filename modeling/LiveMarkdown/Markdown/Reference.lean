import LiveMarkdown.Text.Fold
import LiveMarkdown.Markdown.Entity

/-!
# Links and their definitions

A link is written with its destination in parentheses, or with a label whose
definition stands elsewhere in the text.  This module scans labels, destinations and
titles, and reads definitions.  Two labels agree when they are equal up to case and
white space; the first definition of a label counts.
-/

namespace LiveMarkdown.Markdown

/-- The destinations of the labels that a text defines, by the fold of the label. -/
abbrev Definitions := Std.HashMap String String

/-- Adds a definition, unless the label has one. -/
def Definitions.define (ds : Definitions) (label destination : String) : Definitions :=
  ds.insertIfNew (foldCase label) destination

/-- The destination that a label has been given. -/
def Definitions.destination? (ds : Definitions) (label : String) : Option String :=
  ds[foldCase label]?

/-- The progress of the scan of a label. -/
private structure LabelScan where
  /-- The number of characters seen. -/
  seen : Nat
  /-- The finished parts of the label, the last one first. -/
  parts : List String
  /-- Where the part in progress begins. -/
  mark : Nat
  /-- Whether only white space has been seen. -/
  blank : Bool

namespace Source

/-- Passes over white space in a label, with one line ending at most.  The second
component tells whether it is anything but a single space. -/
private def labelSpace? (s : Source) (newLine : Nat → Option Nat) (i : Nat) :
    Option (Nat × Bool) :=
  let j := s.skipLineSpace i
  match s.get? j with
  | some '\n' | some '\r' => do
    let k ← newLine ((s.lineEnd? j).getD (j + 1))
    let k := s.skipLineSpace k
    match s.get? k with
    | some '\n' | some '\r' => none
    | _ => return (k, true)
  | _ => some (j, !(j == i + 1 && s.is i ' '))

/-- Scans a label whose opening bracket stands before position `i`: the position after
its closing bracket, and its text with every stretch of white space replaced by one
space.  A label has fewer than a thousand characters, of which one is not white space.
The function `newLine` passes over what precedes the text in a new line, or refuses to
go on. -/
def label? (s : Source) (newLine : Nat → Option Nat) (i : Nat) : Option (Nat × String) :=
  go ⟨0, [], i, true⟩ i
where
  /-- Scans on from position `i`. -/
  go (st : LabelScan) (i : Nat) : Option (Nat × String) :=
    if _h : i < s.limit ∧ st.seen < 1000 then
      match s.get? i with
      | none => none
      | some c =>
        if c == '[' then none
        else if c == ']' then
          if st.blank then none
          else
            let text := String.join (s.slice st.mark i :: st.parts).reverse
            some (i + 1, (text.trimAsciiStart.trimAsciiEnd).toString)
        else if c == '\\' then
          go { st with seen := st.seen + 2, blank := false } (i + 2)
        else if isSpace c then
          match s.labelSpace? newLine i with
          | none => none
          | some (j, uneven) =>
            let j := i + 1 + (j - (i + 1))
            if uneven then
              go ⟨st.seen + (j - i), " " :: s.slice st.mark i :: st.parts, j, st.blank⟩ j
            else go { st with seen := st.seen + 1 } j
        else
          let counts := c.toNat < 0x80 || 0xC0 ≤ c.toNat
          go { st with seen := if counts then st.seen + 1 else st.seen, blank := false } (i + 1)
    else none
  termination_by s.limit - i

/-- Scans a destination between angle brackets, from the position after the first. -/
private def pointyDestination? (s : Source) (i : Nat) : Option Nat :=
  if _h : i < s.limit then
    match s.get? i with
    | some '\n' | some '\r' | some '<' | none => none
    | some '>' => some i
    | some '\\' =>
      if (s.get? (i + 1)).any isAsciiPunctuation then pointyDestination? s (i + 2)
      else pointyDestination? s (i + 1)
    | some _ => pointyDestination? s (i + 1)
  else none
termination_by s.limit - i

/-- Scans a destination without angle brackets inside `depth` pairs of parentheses. -/
private def plainDestination? (s : Source) (maxDepth depth i : Nat) : Option Nat :=
  if _h : i < s.limit then
    match s.get? i with
    | none => none
    | some c =>
      if c ≤ ' ' then if depth == 0 then some i else none
      else if c == '(' then
        if depth > maxDepth then none else plainDestination? s maxDepth (depth + 1) (i + 1)
      else if c == ')' then
        if depth == 0 then some i else plainDestination? s maxDepth (depth - 1) (i + 1)
      else if c == '\\' && (s.get? (i + 1)).any isAsciiPunctuation then
        plainDestination? s maxDepth depth (i + 2)
      else plainDestination? s maxDepth depth (i + 1)
  else if depth == 0 then some (min i s.limit) else none
termination_by s.limit - i

/-- Scans a destination, whose parentheses may be nested `maxDepth + 1` deep: the
position after it and its text with the escapes undone. -/
def destination? (s : Source) (inTable : Bool) (maxDepth i : Nat) : Option (Nat × String) := do
  if s.is i '<' then
    let j ← s.pointyDestination? (i + 1)
    return (j + 1, s.unescape inTable (i + 1) j)
  else
    let j ← s.plainDestination? maxDepth 0 i
    return (j, s.unescape inTable i j)

/-- The character that closes a title. -/
def titleEnd? (c : Char) : Option Char :=
  if c == '"' || c == '\'' then some c else if c == '(' then some ')' else none

/-- Passes over the title of a definition. -/
def definitionTitle? (s : Source) (newLine : Nat → Option Nat) (i : Nat) : Option Nat := do
  let c ← s.get? i
  go (← titleEnd? c) (i + 1)
where
  /-- Goes on to the character that closes the title. -/
  go (close : Char) (i : Nat) : Option Nat :=
    if _h : i < s.limit then
      match s.get? i with
      | none => none
      | some c =>
        if c == close then some (i + 1)
        else if c == '(' && close == ')' then none
        else if c == '\\' then go close (i + 2)
        else if c == '\n' || c == '\r' then
          match newLine ((s.lineEnd? i).getD (i + 1)) with
          | none => none
          | some j =>
            if (s.lineEnd? (s.skipLineSpace j)).isSome then none
            else go close (i + 1 + (j - (i + 1)))
        else go close (i + 1)
    else none
  termination_by s.limit - i

/-- Passes over the white space between the parts of a definition, and tells whether
it holds a line ending. -/
private def definitionSpace? (s : Source) (newLine : Nat → Option Nat) (i : Nat) :
    Option (Nat × Bool) :=
  let j := s.skipLineSpace i
  match s.lineEnd? j with
  | none => some (j, false)
  | some k => do
    let l := s.skipLineSpace (← newLine k)
    if (s.lineEnd? l).isSome then none else return (l, true)

/-- A definition of a label. -/
structure Definition where
  /-- The label, with white space evened out. -/
  label : String
  /-- The destination. -/
  destination : String
  /-- The position after the definition. -/
  stop : Nat

/-- Reads the definition that begins at position `i`. -/
def definition? (s : Source) (newLine : Nat → Option Nat) (i : Nat) : Option Definition := do
  guard (s.is i '[')
  let (j, label) ← s.label? newLine (i + 1)
  guard (s.is j ':')
  let (j, _) ← s.definitionSpace? newLine (j + 1)
  let (stop, destination) ← s.destination? false 1 j
  guard (j < stop)
  let bare : Definition := ⟨label, destination, stop⟩
  match s.definitionSpace? newLine stop with
  | none => return bare
  | some (k, newline) =>
    guard (stop < k || newline)
    match s.definitionTitle? newLine k with
    | some l =>
      if s.atBlankLine l then return { bare with stop := l }
      else if newline then return bare
      else none
    | none => if newline then return bare else none

end Source

end LiveMarkdown.Markdown
