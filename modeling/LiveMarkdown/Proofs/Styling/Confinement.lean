import LiveMarkdown.Proofs.Styling.Characters
import LiveMarkdown.Proofs.Styling.Checked
import LiveMarkdown.Proofs.Styling.Splice

/-!
# Where a walk writes

The strokes of a node are found by cutting its characters out of the text and by taking numbers
from each other.  A node is asked for its strokes only when its characters can be cut out, and
only when it is long enough for its marks something is taken from its ends.  So no document
makes the walk stop, whatever spans its nodes have.  What it writes is inside the text of the
document, inside the buffer and inside the window.
-/

namespace LiveMarkdown

open String (utf8Len)

/-! ### Nodes -/

namespace Canvas

/-- `Canvas.heading`, checked. -/
def checkedHeading (c : Canvas) (level : Nat) (e : Extent) : Except Fault (List Stroke) := do
  let chars ← Checked.slice c.text e.bytes
  let marked := chars.head? = some '#' ∧ level + 1 ≤ e.units.length
  return [.set e.units (.font (c.style.headingFont level)),
    .set e.units (.foreground c.style.profile.heading),
    .layOut e.units (c.style.headingLayout level)] ++
  if marked then [c.markup ⟨e.units.start, e.units.start + (level + 1)⟩] else []

/-- `Canvas.quote`, checked. -/
def checkedQuote (c : Canvas) (depth : Nat) (e : Extent) : Except Fault (List Stroke) := do
  let chars ← Checked.slice c.text e.bytes
  return [.set e.units (.foreground c.style.profile.quote),
    .layOut e.units (c.style.quoteLayout depth)] ++
  (quoteMarkers chars).filterMap fun marker =>
    (c.unitAt? (e.bytes.start + marker.start)).bind fun start =>
      (c.unitAt? (e.bytes.start + marker.stop)).map fun stop => c.markup ⟨start, stop⟩

/-- `Canvas.item`, checked.  The bytes before the marker are those that trimming takes away. -/
def checkedItem (c : Canvas) (depth : Nat) (e : Extent) : Except Fault (List Stroke) := do
  let chars ← Checked.slice c.text e.bytes
  let trimmed := chars.dropWhile fun c => c == ' ' || c == '\t'
  let leading ← Checked.difference (utf8Len chars) (utf8Len trimmed)
  let marker := markerLength trimmed
  return [.layOut e.units (c.style.itemLayout depth)] ++
  if marker = 0 then []
  else
    match c.unitAt? (e.bytes.start + leading) with
    | none => []
    | some start => [c.markup ⟨start, min (start + marker) e.units.stop⟩]

/-- `Canvas.emphasis`, checked. -/
def checkedEmphasis (c : Canvas) (n : Nat) (font : FontTrait) (e : Extent) :
    Except Fault (List Stroke) := do
  let content ← if 2 * n < e.units.length then do
      let stop ← Checked.difference e.units.stop n
      pure [Stroke.addTrait ⟨e.units.start + n, stop⟩ c.style.profile.body font]
    else pure []
  return content ++ (ends n e.units).map c.markup

/-- `Canvas.code`, checked. -/
def checkedCode (c : Canvas) (e : Extent) : Except Fault (List Stroke) := do
  let content ← if 2 < e.units.length then do
      let stop ← Checked.difference e.units.stop 1
      pure [Stroke.set ⟨e.units.start + 1, stop⟩ (.background c.style.profile.codeBackground)]
    else pure []
  return .set e.units (.font c.style.profile.mono) :: content ++ (ends 1 e.units).map c.markup

/-- `Canvas.link`, checked. -/
def checkedLink (c : Canvas) (destination : String) (e : Extent) :
    Except Fault (List Stroke) := do
  let chars ← Checked.slice c.text e.bytes
  match bracket? 0 chars with
  | none => return []
  | some close =>
    match c.unitAt? (e.bytes.start + close) with
    | none => return []
    | some stop =>
      let label : Span := ⟨e.units.start + 1, stop⟩
      return (if 1 < close then
        [.set label (.foreground c.style.profile.link), .set label (.underline .single)] ++
        (match LinkTarget.ofText? destination with
          | some target => [.set label (.link target)]
          | none => [])
      else []) ++
      [c.markup ⟨e.units.start, e.units.start + 1⟩, c.markup ⟨stop, e.units.stop⟩]

/-- `Canvas.own`, checked. -/
def checkedOwn (c : Canvas) (depth : Nat) (kind : NodeKind) (e : Extent) :
    Except Fault (List Stroke) :=
  match kind with
  | .heading level => c.checkedHeading level e
  | .paragraph => return c.paragraph depth e
  | .blockQuote => c.checkedQuote depth e
  | .listItem => c.checkedItem depth e
  | .strong => c.checkedEmphasis 2 .bold e
  | .emphasis => c.checkedEmphasis 1 .italic e
  | .inlineCode => c.checkedCode e
  | .link destination => c.checkedLink destination e
  | _ => return []

/-- What is left when the blanks before a text are taken away. -/
theorem dropWhile_isBlank (cs : List Char) :
  let lead := cs.takeWhile fun c => c == ' ' || c == '\t'
  let rest := cs.dropWhile fun c => c == ' ' || c == '\t'
  Checked.difference (utf8Len cs) (utf8Len rest) = .ok lead.length ∧ cs.drop lead.length = rest
  := by
  intro lead rest
  have parts : lead ++ rest = cs := List.takeWhile_append_dropWhile
  have ascii : ∀ c ∈ lead, c.toNat < 0x80 := by
    intro c hc
    have blank := List.all_eq_true.mp List.all_takeWhile c hc
    simp only [Bool.or_eq_true, beq_iff_eq] at blank
    rcases blank with rfl | rfl <;> decide
  constructor
  · have size : utf8Len cs = lead.length + utf8Len rest := by
      rw [← parts, String.utf8Len_append, (length_of_ascii ascii).1]
    rw [Checked.difference_of_le (by omega), size, Nat.add_sub_cancel]
  · exact parts ▸ List.drop_left

variable {c : Canvas} {e : Extent}

theorem checkedHeading_eq (cut : Checked.slice c.text e.bytes = .ok (c.chars e)) (level : Nat) :
  c.checkedHeading level e = .ok (c.heading level e)
  := by
  rw [checkedHeading, cut]
  rfl

theorem checkedQuote_eq (cut : Checked.slice c.text e.bytes = .ok (c.chars e)) (depth : Nat) :
  c.checkedQuote depth e = .ok (c.quote depth e)
  := by
  rw [checkedQuote, cut]
  rfl

theorem checkedItem_eq (cut : Checked.slice c.text e.bytes = .ok (c.chars e)) (depth : Nat) :
  c.checkedItem depth e = .ok (c.item depth e)
  := by
  obtain ⟨leading, rest⟩ := dropWhile_isBlank (c.chars e)
  rw [checkedItem, cut, Checked.ok_bind]
  dsimp only
  rw [leading, item, rest]
  rfl

theorem checkedLink_eq (cut : Checked.slice c.text e.bytes = .ok (c.chars e))
    (destination : String) :
  c.checkedLink destination e = .ok (c.link destination e)
  := by
  rw [checkedLink, cut, Checked.ok_bind, link]
  cases bracket? 0 (c.chars e) with
  | none => rfl
  | some close =>
    dsimp only
    cases c.unitAt? (e.bytes.start + close) with
    | none => rfl
    | some stop => rfl

theorem checkedEmphasis_eq (n : Nat) (font : FontTrait) :
  c.checkedEmphasis n font e = .ok (c.emphasis n font e)
  := by
  rw [checkedEmphasis, emphasis]
  split
  · rename_i long
    rw [Span.length] at long
    rw [Checked.difference_of_le (by omega)]
    rfl
  · rfl

theorem checkedCode_eq :
  c.checkedCode e = .ok (c.code e)
  := by
  rw [checkedCode, code]
  split
  · rename_i long
    rw [Span.length] at long
    rw [Checked.difference_of_le (by omega)]
    rfl
  · rfl

theorem checkedOwn_eq (cut : Checked.slice c.text e.bytes = .ok (c.chars e)) (depth : Nat)
    (kind : NodeKind) :
  c.checkedOwn depth kind e = .ok (c.own depth kind e)
  := by
  cases kind with
  | heading level => exact checkedHeading_eq cut level
  | blockQuote => exact checkedQuote_eq cut depth
  | listItem => exact checkedItem_eq cut depth
  | strong => exact checkedEmphasis_eq 2 .bold
  | emphasis => exact checkedEmphasis_eq 1 .italic
  | inlineCode => exact checkedCode_eq
  | link destination => exact checkedLink_eq cut destination
  | _ => rfl

/-- The characters of a node that can be found can be cut out. -/
theorem slice_of_extent? {n : Node} (found : c.extent? n = some e) :
  Checked.slice c.text e.bytes = .ok (c.chars e)
  := by
  obtain ⟨span, -, found⟩ := Option.bind_eq_some_iff.mp found
  obtain ⟨cut, hcut, found⟩ := Option.bind_eq_some_iff.mp found
  split at found
  · obtain ⟨units, -, rfl⟩ := Option.map_eq_some_iff.mp found
    obtain ⟨ys, sliced⟩ : ∃ ys, c.text.slice? span = some ys := by
      rw [← Option.isSome_iff_exists, IndexedText.isSome_slice?, hcut]
      rfl
    rw [Checked.slice, chars, sliced]
    rfl
  · cases found

end Canvas

/-! ### Documents -/

namespace Checked

/-- Leaves a node of a kind, inside which `depth` lists and quotes were counted. -/
def leave (kind : NodeKind) (depth : Nat) : Except Fault Nat :=
  match kind with
  | .blockQuote | .unorderedList | .orderedList => difference depth 1
  | _ => return depth

theorem leave_inner (kind : NodeKind) (depth : Nat) :
  leave kind (Canvas.inner kind depth) = .ok depth
  := by
  cases kind <;> rfl

/-- Styles a node itself, checked. -/
def visitOwn (c : Canvas) (depth : Nat) (kind : NodeKind) (extent : Option Extent) (b : Buffer) :
    Except Fault Buffer :=
  match extent with
  | some e => do
    let strokes ← c.checkedOwn depth kind e
    strokes.foldlM (stroke c.window) b
  | none => return b

section

variable (text : IndexedText) (style : Style) (base : Nat) (window : Option Span)

mutual

/-- Styles a node and the nodes inside it, checked.  The buffer is measured at each node, and the
lists and quotes that it is in are counted on the way. -/
def visit (n : Node) (b : Buffer) (depth : Nat) : Except Fault (Buffer × Nat) :=
  match n with
  | ⟨kind, span, children⟩ =>
    let c : Canvas := ⟨text, style, base, b.length, window⟩
    let extent := c.extent? ⟨kind, span, []⟩
    if extent.any c.isHidden then return (b, depth)
    else do
      let depth := Canvas.inner kind depth
      let b ← visitOwn c depth kind extent b
      let (b, depth) ← if kind = .inlineCode then pure (b, depth) else visitList children b depth
      return (b, ← leave kind depth)

/-- Styles some nodes and the nodes inside them, checked. -/
def visitList (ns : List Node) (b : Buffer) (depth : Nat) : Except Fault (Buffer × Nat) :=
  match ns with
  | [] => return (b, depth)
  | n :: ns => do
    let (b, depth) ← visit n b depth
    visitList ns b depth

end

end

end Checked

/-- `Buffer.walk`, checked. -/
def Buffer.checkedWalk (b : Buffer) (text : IndexedText) (style : Style) (base : Nat)
    (window : Option Span) (document : Node) : Except Fault Buffer := do
  let (b, _) ← Checked.visit text style base window document b 0
  return b

theorem Buffer.strokes_append (window : Option Span) (b : Buffer) (ks ls : List Stroke) :
  b.strokes window (ks ++ ls) = (b.strokes window ks).strokes window ls
  := List.foldl_append

namespace Checked

variable {text : IndexedText} {style : Style} {base : Nat} {window : Option Span}

theorem visitOwn_eq (c : Canvas) (depth : Nat) (kind : NodeKind) (n : Node) (b : Buffer) :
  visitOwn c depth kind (c.extent? n) b
    = .ok (b.strokes c.window (match c.extent? n with
        | some e => c.own depth kind e
        | none => []))
  := by
  cases found : c.extent? n with
  | none => rfl
  | some e =>
    rw [visitOwn, Canvas.checkedOwn_eq (Canvas.slice_of_extent? found), ok_bind, strokes_eq]

mutual

/-- No node stops the walk, and its strokes are made. -/
theorem visit_eq (n : Node) (b : Buffer) (depth : Nat) :
  visit text style base window n b depth
    = .ok (b.strokes window (Canvas.strokes ⟨text, style, base, b.length, window⟩ depth n), depth)
  := by
  obtain ⟨kind, span, children⟩ := n
  rw [visit, Canvas.strokes]
  dsimp only
  split
  · rfl
  · rw [visitOwn_eq, ok_bind, Buffer.strokes_append]
    split
    · rw [pure_eq, ok_bind]
      dsimp only
      rw [leave_inner]
      rfl
    · rw [visitList_eq children, ok_bind, Buffer.length_strokes]
      dsimp only
      rw [leave_inner]
      rfl

theorem visitList_eq (ns : List Node) (b : Buffer) (depth : Nat) :
  visitList text style base window ns b depth
    = .ok (b.strokes window (Canvas.strokesOfList ⟨text, style, base, b.length, window⟩ depth ns),
        depth)
  := by
  cases ns with
  | nil =>
    rw [visitList, Canvas.strokesOfList]
    rfl
  | cons n ns =>
    rw [visitList, visit_eq n b depth, ok_bind]
    dsimp only
    rw [visitList_eq ns, Buffer.length_strokes, Canvas.strokesOfList,
      Buffer.strokes_append]

end

end Checked

namespace Buffer

/-- A walk stays inside the part of the buffer where the text of the document is and that the
window shows.  Whatever spans the nodes of the document have, wherever the text is in the buffer
and whatever the window is, no step of it is impossible; no attributes are written outside that
part, and the text of the buffer stays the same. -/
theorem walk_confined (b : Buffer) (cs : List Char) (style : Style) (base : Nat)
    (window : Option Span) (document : Node) :
  let walked := b.walk (IndexedText.ofText cs) style base window document
  b.checkedWalk (IndexedText.ofText cs) style base window document = .ok walked
    ∧ (∀ u, ¬ (base ≤ u ∧ u < base + units cs ∧ u < b.length ∧ Shown window u) →
        walked.attributes[u]? = b.attributes[u]?)
    ∧ walked.chars = b.chars ∧ walked.revision = b.revision ∧ walked.length = b.length
  := by
  intro walked
  have version : walked.version = b.version := version_walk ..
  have length : walked.length = b.length := length_eq_of_version version
  refine ⟨?_, ?_, chars_eq_of_version version, revision_eq_of_version version, length⟩
  · rw [checkedWalk, Checked.visit_eq]
    rfl
  · intro u outside
    by_cases inside : u < b.length
    · apply getElem?_strokes_of_not_mem
      rintro k hk ⟨hu, shown⟩
      obtain ⟨lower, upper⟩ := @Canvas.strokes_within_text cs _ rfl 0 document k hk u hu
      exact outside ⟨lower, upper, inside, shown⟩
    · rw [Array.getElem?_eq_none (Nat.le_of_not_lt inside),
        Array.getElem?_eq_none (length.trans_le (Nat.le_of_not_lt inside))]

end Buffer

end LiveMarkdown
