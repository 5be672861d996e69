import LiveMarkdown.Buffer.Attributes
import LiveMarkdown.Text.Span
import LiveMarkdown.Text.Units

/-!
# Buffers

A buffer holds a text together with a set of attributes for each of its code units.
The host edits the text, and styling edits the attributes.  A buffer numbers the
revisions of its text and notes every edit.  While a batch of attribute edits is open
they are noted as one edit, over the smallest span that covers them, when the
outermost batch ends.
-/

namespace LiveMarkdown

/-- What an edit changed. -/
inductive EditKind where
  /-- The text. -/
  | characters
  /-- Attributes only. -/
  | attributes
deriving DecidableEq, Repr, Inhabited

/-- The note of an edit. -/
structure Edit where
  /-- What changed. -/
  kind : EditKind
  /-- The code units that are new or changed. -/
  span : Span
  /-- By how many code units the text grew. -/
  growth : Int
deriving DecidableEq, Repr, Inhabited

/-- Applies a function to `n` entries of an array, from index `i` on. -/
def modifyRange {α : Type} (f : α → α) (as : Array α) (i : Nat) : Nat → Array α
  | 0 => as
  | n + 1 => modifyRange f (as.modify i f) (i + 1) n

@[simp] theorem size_modifyRange {α : Type} (f : α → α) (as : Array α) (i n : Nat) :
  (modifyRange f as i n).size = as.size
  := by
  induction n generalizing as i with
  | zero => rfl
  | succ n ih => rw [modifyRange, ih, Array.size_modify]

/-- A text with attributes. -/
structure Buffer where
  /-- The text. -/
  chars : List Char
  /-- The attributes of each code unit. -/
  attributes : Array Attributes
  /-- The number of the current revision of the text. -/
  revision : UInt64
  /-- The number of batches that are open. -/
  depth : Nat
  /-- The smallest span that covers the attribute edits of the open batches. -/
  batch : Option Span
  /-- The edits that have not been taken. -/
  edits : Array Edit
  /-- There is a set of attributes for each code unit. -/
  size_attributes : attributes.size = units chars

namespace Buffer

/-- The number of code units. -/
def length (b : Buffer) : Nat :=
  b.attributes.size

/-- A buffer with the same attributes for every code unit. -/
def ofText (cs : List Char) (a : Attributes) : Buffer where
  chars := cs
  attributes := Array.replicate (units cs) a
  revision := 0
  depth := 0
  batch := none
  edits := #[]
  size_attributes := Array.size_replicate

/-- The edits that have not been taken, which are taken hereby. -/
def takeEdits (b : Buffer) : List Edit × Buffer :=
  (b.edits.toList, { b with edits := #[] })

/-- The attributes that text inserted in place of a span takes: those of the code unit
before it, or at the start of the buffer those of the code unit after the span. -/
def inherited (b : Buffer) (span : Span) : Attributes :=
  let source := if span.start = 0 then span.stop else span.start - 1
  b.attributes[source]?.getD {}

/-- The number of code units when a span between boundaries is replaced. -/
theorem size_splice (cs text : List Char) (as : Array Attributes) (a : Attributes) (span : Span)
    (size : as.size = units cs) (start : isBoundary cs span.start)
    (stop : isBoundary cs span.stop) :
  (as.extract 0 span.start ++ Array.replicate (units text) a ++ as.extract span.stop as.size).size
    = units ((Place.ofUnits span.start cs).before.reverse ++
        (text ++ (Place.ofUnits span.stop cs).after))
  := by
  have first := Place.offset_add_units span.start cs
  have second := Place.offset_add_units span.stop cs
  simp only [isBoundary, beq_iff_eq] at start stop
  simp only [Place.offset] at first second start stop
  simp only [Array.size_append, Array.size_extract, Array.size_replicate, units_append,
    units_reverse]
  omega

/-- Replaces the text in a span.  The text stays as it is if the span is out of order or
out of bounds or cuts a character. -/
def replace? (b : Buffer) (span : Span) (text : List Char) : Option (Edit × Buffer) :=
  if h : span.start ≤ span.stop ∧ isBoundary b.chars span.start ∧ isBoundary b.chars span.stop then
    let inserted := units text
    let edit : Edit :=
      ⟨.characters, ⟨span.start, span.start + inserted⟩, (inserted : Int) - span.length⟩
    some (edit, { b with
      chars := (Place.ofUnits span.start b.chars).before.reverse ++
        (text ++ (Place.ofUnits span.stop b.chars).after)
      attributes := b.attributes.extract 0 span.start ++
        Array.replicate (units text) (b.inherited span) ++
        b.attributes.extract span.stop b.attributes.size
      revision := b.revision + 1
      edits := b.edits.push edit
      size_attributes := size_splice b.chars text b.attributes (b.inherited span) span
        b.size_attributes h.2.1 h.2.2 })
  else none

/-- The part of a span that lies in the buffer, unless that is empty. -/
def clamp? (b : Buffer) (span : Span) : Option Span :=
  Span.nonempty? ⟨min span.start b.length, min span.stop b.length⟩

/-- Notes that attributes changed. -/
def noteAttributes (b : Buffer) (span : Span) : Buffer :=
  if b.depth = 0 then { b with edits := b.edits.push ⟨.attributes, span, 0⟩ }
  else
    { b with batch := some (match b.batch with
        | some pending => pending.hull span
        | none => span) }

/-- Opens a batch. -/
def beginBatch (b : Buffer) : Buffer :=
  { b with depth := b.depth + 1 }

/-- Ends the innermost open batch, if any. -/
def endBatch (b : Buffer) : Buffer :=
  let closed := { b with depth := b.depth - 1 }
  if closed.depth = 0 then
    match closed.batch with
    | some span => { closed with batch := none }.noteAttributes span
    | none => closed
  else closed

/-- Changes the attributes of the code units in a span. -/
def update (b : Buffer) (span : Span) (f : Attributes → Attributes) : Buffer :=
  match b.clamp? span with
  | none => b
  | some inside =>
    { b with
      attributes := modifyRange f b.attributes inside.start inside.length
      size_attributes := by rw [size_modifyRange, b.size_attributes] }.noteAttributes inside

/-- Gives the code units in a span other attributes. -/
def setAttributes (b : Buffer) (span : Span) (a : Attributes) : Buffer :=
  b.update span fun _ => a

/-- Adds an attribute to the code units in a span. -/
def addAttribute (b : Buffer) (span : Span) (a : Attribute) : Buffer :=
  b.update span fun old => old.set a

/-- The least index down to `floor` such that all entries from it up to `i` agree with
`a` on a key. -/
def runStart (as : Array Attributes) (a : Attributes) (key : AttributeKey) (floor : Nat) : Nat → Nat
  | 0 => 0
  | i + 1 =>
    if floor ≤ i ∧ (as[i]?.any fun other => other.agree a key) then runStart as a key floor i
    else i + 1

/-- The greatest index up to `ceiling` such that all entries from `i` up to it agree with
`a` on a key. -/
def runStop (as : Array Attributes) (a : Attributes) (key : AttributeKey) (ceiling i : Nat) : Nat :=
  if i < ceiling ∧ (as[i]?.any fun other => other.agree a key) then
    runStop as a key ceiling (i + 1)
  else i
termination_by ceiling - i
decreasing_by omega

/-- The value of a key at a position, and the longest span inside `limit` around the
position that has the same value everywhere. -/
def attribute? (b : Buffer) (key : AttributeKey) (position : Nat) (limit : Span) :
    Option (Option Attribute × Span) :=
  if position ∈ limit then
    b.attributes[position]?.map fun a =>
      (a.get? key,
        ⟨runStart b.attributes a key limit.start position,
          runStop b.attributes a key (min limit.stop b.length) (position + 1)⟩)
  else none

end Buffer

end LiveMarkdown
