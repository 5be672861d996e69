import LiveMarkdown.Proofs.Buffer.Equality
import LiveMarkdown.Proofs.Styling.Visits

/-!
# The layout of a paragraph

The layout of a code unit is the one of the last heading, quote, list item or nested
paragraph around it, in the order in which nodes are visited.  How far it is indented
depends on the number of lists and quotes around that node, whether or not these can be
found in the buffer.  A layout is written only where it differs, so this is said up to the
equality of layouts.
-/

namespace LiveMarkdown

/-- The layout that a style gives to a node of some kind inside nodes of given kinds. -/
def Style.layoutFor? (s : Style) (around : List NodeKind) (kind : NodeKind) : Option Layout :=
  let height := s.bodyHeight
  let spacing := s.profile.paragraphSpacing
  let i := s.profile.listIndent
  let d := nesting around
  match kind with
  | .heading level => some ⟨0, 0, s.headingHeight level, s.headingHeight level, spacing⟩
  | .paragraph =>
    if d = 0 then none else some ⟨i * d.toFloat32, i * d.toFloat32 - i, height, height, spacing⟩
  | .blockQuote => some ⟨i * (d + 1).toFloat32, 0, height, height, spacing / 2⟩
  | .listItem => some ⟨i * d.toFloat32, i * d.toFloat32 - i, height, height, spacing / 3⟩
  | _ => none

namespace Style

variable (s : Style) (around : List NodeKind)

theorem layoutFor?_heading (level : Nat) :
  s.layoutFor? around (.heading level) = some (s.headingLayout level)
  := rfl

theorem layoutFor?_paragraph :
  s.layoutFor? around .paragraph
    = if nesting (.paragraph :: around) = 0 then none
      else some (s.nestedLayout (nesting (.paragraph :: around)))
  := by
  rw [nesting_cons]
  rfl

theorem layoutFor?_blockQuote :
  s.layoutFor? around .blockQuote = some (s.quoteLayout (nesting (.blockQuote :: around)))
  := by
  rw [nesting_cons]
  rfl

theorem layoutFor?_listItem :
  s.layoutFor? around .listItem = some (s.itemLayout (nesting (.listItem :: around)))
  := by
  rw [nesting_cons]
  rfl

end Style

namespace Canvas

variable {c : Canvas} {e : Extent}

/-- The layout that a node gives to a code unit, if it is in the node. -/
def layoutAt? (c : Canvas) (u : Nat) (v : Visit) : Option Layout :=
  (c.extent? v.node).bind fun e =>
    if u ∈ e.units then c.style.layoutFor? v.around v.node.kind else none

/-! ### The strokes of each kind of node -/

/-- The layout after strokes of which at least one lays out a span, while the others do the
same or leave the layout alone. -/
theorem layout_of_mem {span : Span} {l : Layout} {ks : List Stroke}
    (each : ∀ k ∈ ks, k = .layOut span l ∨ k.Keeps Attributes.layout)
    (one : .layOut span l ∈ ks) (u : Nat) (a : Attributes) :
  (touches ks u a).layout
    = if u ∈ span then (LayoutEffect.exchange l).apply a.layout else a.layout
  := by
  have does : Stroke.Does Attributes.layout (LayoutEffect.exchange l).apply span
      (.layOut span l) := by
    refine ⟨rfl, ?_⟩
    intro a
    change (a.layOut l).layout = _
    rw [Attributes.layOut, LayoutEffect.apply]
    split <;> rfl
  apply touches_of_does (LayoutEffect.apply_apply (.exchange l)) _ ⟨_, one, does⟩
  intro k hk
  apply (each k hk).imp_left
  rintro rfl
  apply does

/-- What a layout makes of the one that is there, if there is a layout to be given. -/
def exchange? (old new : Option Layout) : Option Layout :=
  match new with
  | some l => (LayoutEffect.exchange l).apply old
  | none => old

theorem layout_heading (around : List NodeKind) (level u : Nat) (a : Attributes) :
  (touches (c.heading level e) u a).layout
    = if u ∈ e.units then exchange? a.layout (c.style.layoutFor? around (.heading level))
      else a.layout
  := by
  rw [Style.layoutFor?_heading]
  apply layout_of_mem
  · intro k hk
    rcases mem_heading hk with rfl | rfl | key
    · right
      apply Stroke.keeps_layout (by simp [Stroke.key, Attribute.key])
    · left
      rfl
    · right
      apply Stroke.keeps_layout (by simp [key])
  · simp [heading]

theorem layout_paragraph (around : List NodeKind) (u : Nat) (a : Attributes) :
  (touches (c.paragraph (nesting (.paragraph :: around)) e) u a).layout
    = if u ∈ e.units then exchange? a.layout (c.style.layoutFor? around .paragraph) else a.layout
  := by
  rw [Style.layoutFor?_paragraph]
  by_cases outermost : nesting (.paragraph :: around) = 0
  · rw [if_pos outermost, paragraph, if_pos outermost, touches_nil, exchange?, ite_self]
  · rw [if_neg outermost]
    apply layout_of_mem
    · intro k hk
      left
      apply (mem_paragraph.mp hk).2
    · rw [mem_paragraph]
      exact ⟨outermost, rfl⟩

theorem layout_quote (around : List NodeKind) (u : Nat) (a : Attributes) :
  (touches (c.quote (nesting (.blockQuote :: around)) e) u a).layout
    = if u ∈ e.units then exchange? a.layout (c.style.layoutFor? around .blockQuote) else a.layout
  := by
  rw [Style.layoutFor?_blockQuote]
  apply layout_of_mem
  · intro k hk
    apply (mem_quote hk).imp_right
    intro key
    apply Stroke.keeps_layout (by simp [key])
  · simp [quote]

theorem layout_item (around : List NodeKind) (u : Nat) (a : Attributes) :
  (touches (c.item (nesting (.listItem :: around)) e) u a).layout
    = if u ∈ e.units then exchange? a.layout (c.style.layoutFor? around .listItem) else a.layout
  := by
  rw [Style.layoutFor?_listItem]
  apply layout_of_mem
  · intro k hk
    apply (mem_item hk).imp_right
    intro key
    apply Stroke.keeps_layout (by simp [key])
  · simp [item]

theorem layout_emphasis (n : Nat) (t : FontTrait) (u : Nat) (a : Attributes) :
  (touches (c.emphasis n t e) u a).layout = a.layout
  := by
  apply touches_of_keeps
  intro k hk
  apply Stroke.keeps_layout
  rcases mem_emphasis hk with rfl | key
  · simp
  · simp [key]

theorem layout_code (u : Nat) (a : Attributes) :
  (touches (c.code e) u a).layout = a.layout
  := by
  apply touches_of_keeps
  intro k hk
  apply Stroke.keeps_layout
  rcases mem_code hk with rfl | key | key
  · simp [Stroke.key, Attribute.key]
  · simp [key]
  · simp [key]

theorem layout_link (destination : String) (u : Nat) (a : Attributes) :
  (touches (c.link destination e) u a).layout = a.layout
  := by
  apply touches_of_keeps
  intro k hk
  apply Stroke.keeps_layout
  rcases mem_link hk with key | key | key <;> simp [key]

/-- What the strokes of a node make of the layout of a code unit in it. -/
theorem layout_own (around : List NodeKind) (kind : NodeKind) (u : Nat) (a : Attributes) :
  (touches (c.own (nesting (kind :: around)) kind e) u a).layout
    = if u ∈ e.units then exchange? a.layout (c.style.layoutFor? around kind) else a.layout
  := by
  cases kind with
  | heading level => exact layout_heading around level u a
  | paragraph => exact layout_paragraph around u a
  | blockQuote => exact layout_quote around u a
  | listItem => exact layout_item around u a
  | strong => exact (layout_emphasis 2 .bold u a).trans (ite_self _).symm
  | emphasis => exact (layout_emphasis 1 .italic u a).trans (ite_self _).symm
  | inlineCode => exact (layout_code u a).trans (ite_self _).symm
  | link destination => exact (layout_link destination u a).trans (ite_self _).symm
  | _ => exact (ite_self _).symm

/-- What the strokes of a node make of the layout of a code unit. -/
theorem layout_strokesAt (v : Visit) (u : Nat) (a : Attributes) :
  (touches (c.strokesAt v) u a).layout = exchange? a.layout (c.layoutAt? u v)
  := by
  rw [strokesAt, layoutAt?]
  cases c.extent? v.node with
  | none => rfl
  | some e =>
    rw [Option.bind_some]
    dsimp only
    rw [layout_own]
    split <;> rfl

end Canvas

/-- Layouts that are given one after the other. -/
def exchangeAll (old : Option Layout) (new : List Layout) : Option Layout :=
  new.foldl (fun old l => (LayoutEffect.exchange l).apply old) old

/-- The last layout counts, if it has no undefined number. -/
theorem exchangeAll_beq_of_getLast? {new : List Layout} {l : Layout} (last : new.getLast? = some l)
    (h : l.HasNumbers) (old : Option Layout) :
  exchangeAll old new == some l
  := by
  obtain ⟨earlier, rfl⟩ := List.getLast?_eq_some_iff.mp last
  rw [exchangeAll, List.foldl_append, List.foldl_cons, List.foldl_nil, LayoutEffect.apply]
  split
  · assumption
  · apply h.beq_self

/-- The layout of a code unit after some nodes have been visited. -/
theorem Canvas.layout_strokesOfVisits (c : Canvas) (vs : List Visit) (u : Nat) (a : Attributes) :
  (touches (c.strokesOfVisits vs) u a).layout
    = exchangeAll a.layout (vs.filterMap (c.layoutAt? u))
  := by
  rw [touches_strokesOfVisits (g := fun old v => exchange? old (c.layoutAt? u v))
    (fun v a => layout_strokesAt v u a), exchangeAll, List.foldl_filterMap]
  congr 1
  funext old v
  cases c.layoutAt? u v <;> rfl

namespace Buffer

/-! ### The layout after a walk -/

/-- The layout of a code unit after a document has been walked is equal to the one of the
last node around it that gives a layout, and stays what it was where there is no such node. -/
theorem layout_walk (b : Buffer) (text : IndexedText) (style : Style) (base : Nat)
    (document : Node) (plain : document.HasPlainCode)
    (numbers : ∀ v ∈ document.visits [], ∀ l ∈ style.layoutFor? v.around v.node.kind, l.HasNumbers)
    {u : Nat} {before : Attributes} (hu : b.attributes[u]? = some before) :
  ∃ after, (b.walk text style base none document).attributes[u]? = some after
    ∧ match ((document.visits []).filterMap
          ((b.canvas text style base).layoutAt? u)).getLast? with
      | some l => after.layout == some l
      | none => after.layout = before.layout
  := by
  have walked := canonicalAt_walk_none b text style base plain u
  have start : b.canonicalAt u = some before.canonical := by
    rw [canonicalAt, hu]
    rfl
  rw [start, Option.map_some, canonicalAt, Option.map_eq_some_iff] at walked
  obtain ⟨after, hafter, same⟩ := walked
  refine ⟨after, hafter, ?_⟩
  -- the layout has nothing to do with the sign of sizes
  have layout : after.layout = exchangeAll before.layout
      ((document.visits []).filterMap ((b.canvas text style base).layoutAt? u)) := by
    rw [← Canvas.layout_strokesOfVisits]
    have canonical := same.trans (canonical_touches _ u before)
    have layouts := congrArg Attributes.layout canonical
    exact layouts
  rw [layout]
  cases last : ((document.visits []).filterMap
      ((b.canvas text style base).layoutAt? u)).getLast? with
  | none =>
    rw [List.getLast?_eq_none_iff.mp last]
    rfl
  | some l =>
    obtain ⟨v, hv, hl⟩ := List.mem_filterMap.mp (List.mem_of_getLast? last)
    apply exchangeAll_beq_of_getLast? last
    obtain ⟨e, -, he⟩ := Option.bind_eq_some_iff.mp hl
    split at he
    · apply numbers v hv l he
    · cases he

/-- A quote in a list, where the second line of the quote is a paragraph that is not found. -/
theorem layout_walk_quote :
  let cs := "- a\n  > b".toList
  let b := ofText cs {}
  let document : Node := ⟨.document, none,
    [⟨.unorderedList, none, [⟨.listItem, some ⟨0, 9⟩,
      [⟨.blockQuote, some ⟨20, 30⟩, [⟨.paragraph, some ⟨8, 9⟩, []⟩]⟩]⟩]⟩]⟩
  (document.HasPlainCode
    ∧ (∀ v ∈ document.visits [], ∀ l ∈ Style.standard.layoutFor? v.around v.node.kind, l.HasNumbers)
    ∧ b.attributes[8]? = some ({} : Attributes))
    ∧ ∃ after, (b.walk (IndexedText.ofText cs) Style.standard 0 none document).attributes[8]? = some after
      ∧ after.layout == some ⟨48, 24, 16.8, 16.8, 12⟩
  := by
  intro cs b document
  have plain : document.HasPlainCode := by decide +kernel
  have numbers : ∀ v ∈ document.visits [],
      ∀ l ∈ Style.standard.layoutFor? v.around v.node.kind, l.HasNumbers := by
    decide +kernel
  have hu : b.attributes[8]? = some ({} : Attributes) := rfl
  refine ⟨⟨plain, numbers, hu⟩, ?_⟩
  obtain ⟨after, hafter, layout⟩ :=
    layout_walk b (IndexedText.ofText cs) Style.standard 0 document plain numbers hu
  refine ⟨after, hafter, ?_⟩
  have last : (((document.visits []).filterMap
      ((b.canvas (IndexedText.ofText cs) Style.standard 0).layoutAt? 8)).getLast?.any
        fun l => l == ⟨48, 24, 16.8, 16.8, 12⟩) = true := by
    decide +kernel
  obtain ⟨l, hl, same⟩ := (Option.any_eq_true _ _).mp last
  rw [hl] at layout
  have same : some l == some (⟨48, 24, 16.8, 16.8, 12⟩ : Layout) := same
  apply BEq.trans layout same

/-- A heading inside a code span is not visited, so that it gives no layout although it is the
last node around the code unit. -/
theorem layout_walk_of_code_around_heading :
  let b := ofText ['a'] {}
  let document : Node := ⟨.document, none,
    [⟨.inlineCode, some ⟨0, 1⟩, [⟨.heading 1, some ⟨0, 1⟩, []⟩]⟩]⟩
  (∀ v ∈ document.visits [], ∀ l ∈ Style.standard.layoutFor? v.around v.node.kind, l.HasNumbers)
    ∧ ∃ l, ((document.visits []).filterMap
        ((b.canvas (IndexedText.ofText ['a']) Style.standard 0).layoutAt? 0)).getLast? = some l
      ∧ ∃ after, (b.walk (IndexedText.ofText ['a']) Style.standard 0 none document).attributes[0]?
          = some after
        ∧ ¬ after.layout == some l
  := by
  intro b document
  refine ⟨by decide +kernel, ?_⟩
  have last : (((document.visits []).filterMap
      ((b.canvas (IndexedText.ofText ['a']) Style.standard 0).layoutAt? 0)).getLast?).isSome := by
    decide +kernel
  obtain ⟨l, hl⟩ := Option.isSome_iff_exists.mp last
  refine ⟨l, hl, ?_⟩
  have unchanged : (b.walk (IndexedText.ofText ['a']) Style.standard 0 none
      document).attributes[0]?.any (fun after => after.layout.isNone) = true := by
    decide +kernel
  obtain ⟨after, hafter, none⟩ := (Option.any_eq_true _ _).mp unchanged
  refine ⟨after, hafter, ?_⟩
  rw [Option.isNone_iff_eq_none.mp none]
  nofun

end Buffer

end LiveMarkdown
