import LiveMarkdown.Proofs.Styling.Extent
import LiveMarkdown.Proofs.Styling.Frame

/-!
# What passes make of a buffer

The pass over all of a buffer gives each code unit attributes that depend on the text and
the style alone.  The pass over some lines of a text touches the code units of these lines
with all strokes of the document.  Both are said up to the sign of font sizes that are
zero, which does not matter for styles whose fonts have no such size.
-/

namespace LiveMarkdown

/-! ### Styles without negative zeros -/

namespace Style

/-- The fonts of a style. -/
def fonts (style : Style) : List Font :=
  style.profile.body :: style.profile.mono :: style.profile.headings.map Prod.snd

/-- No font of a style has a negative zero for a size. -/
def HasNoNegativeZero (style : Style) : Prop :=
  ∀ f ∈ style.fonts, f.size.toBits ≠ negativeZeroBits

instance (style : Style) : Decidable style.HasNoNegativeZero :=
  inferInstanceAs (Decidable (∀ f ∈ style.fonts, f.size.toBits ≠ negativeZeroBits))

variable {style : Style}

theorem HasNoNegativeZero.canonical (h : style.HasNoNegativeZero) {f : Font} (hf : f ∈ style.fonts) :
  f.canonical = f
  := by
  rw [Font.canonical, withoutNegativeZero_of_ne (h f hf)]

theorem body_mem_fonts (style : Style) :
  style.profile.body ∈ style.fonts
  := List.mem_cons_self

theorem mono_mem_fonts (style : Style) :
  style.profile.mono ∈ style.fonts
  := List.mem_cons_of_mem _ List.mem_cons_self

theorem headingFont_mem_fonts (style : Style) (level : Nat) :
  style.headingFont level ∈ style.fonts
  := by
  rw [headingFont]
  cases h : style.profile.headings.lookup level with
  | none => exact body_mem_fonts style
  | some f =>
    obtain ⟨before, after, same, -⟩ := List.lookup_eq_some_iff.mp h
    apply List.mem_cons_of_mem _ (List.mem_cons_of_mem _ _)
    rw [same]
    simp

theorem HasNoNegativeZero.attributes (h : style.HasNoNegativeZero) :
  style.attributes.canonical = style.attributes
  := by
  rw [Attributes.canonical_eq_self_iff]
  exact congrArg some (h.canonical (body_mem_fonts style))

end Style

namespace Canvas

variable {c : Canvas}

mutual

/-- Every stroke of a node and the nodes inside it is a stroke of one of them. -/
theorem exists_of_mem_strokes {k : Stroke} (depth : Nat) (n : Node) (hk : k ∈ c.strokes depth n) :
  ∃ m ∈ n.descendants, ∃ e d, c.extent? m = some e ∧ k ∈ c.own d m.kind e
  := by
  match n with
  | ⟨kind, span, children⟩ =>
    have rest (below : k ∈ c.below depth kind children) :
        ∃ m ∈ Node.descendants ⟨kind, span, children⟩, ∃ e d,
          c.extent? m = some e ∧ k ∈ c.own d m.kind e := by
      rw [Canvas.below] at below
      split at below
      · cases below
      · obtain ⟨m, hm, found⟩ := exists_of_mem_strokesOfList _ children below
        rw [Node.descendants]
        exact ⟨m, List.mem_cons_of_mem _ hm, found⟩
    cases he : c.extent? ⟨kind, span, []⟩ with
    | none =>
      rw [strokes_of_not_found he] at hk
      apply rest hk
    | some e =>
      by_cases hidden : c.isHidden e
      · rw [strokes_eq_nil he hidden] at hk
        cases hk
      · rw [strokes_of_shown he hidden] at hk
        rcases List.mem_append.mp hk with hk | hk
        · rw [Node.descendants]
          exact ⟨_, List.mem_cons_self, e, _, he, hk⟩
        · apply rest hk

/-- Every stroke of some nodes and the nodes inside them is a stroke of one of them. -/
theorem exists_of_mem_strokesOfList {k : Stroke} (depth : Nat) (ns : List Node)
    (hk : k ∈ c.strokesOfList depth ns) :
  ∃ m ∈ Node.descendantsOfList ns, ∃ e d, c.extent? m = some e ∧ k ∈ c.own d m.kind e
  := by
  match ns with
  | [] => cases hk
  | n :: ns =>
    rw [Node.descendantsOfList]
    rcases List.mem_append.mp hk with hk | hk
    · obtain ⟨m, hm, found⟩ := exists_of_mem_strokes depth n hk
      exact ⟨m, List.mem_append_left _ hm, found⟩
    · obtain ⟨m, hm, found⟩ := exists_of_mem_strokesOfList depth ns hk
      exact ⟨m, List.mem_append_right _ hm, found⟩

end

/-- What holds of the strokes of every kind of node holds of all strokes of a document. -/
theorem strokes_forall {P : Stroke → Prop}
    (own : ∀ n e, c.extent? n = some e → ∀ depth kind, ∀ k ∈ c.own depth kind e, P k)
    (depth : Nat) (n : Node) :
  ∀ k ∈ c.strokes depth n, P k
  := by
  intro k hk
  obtain ⟨m, -, e, d, he, hk⟩ := exists_of_mem_strokes depth n hk
  apply own m e he d m.kind k hk

/-- Showing a span as markup needs no font. -/
theorem markup_isCanonical (c : Canvas) (span : Span) :
  (c.markup span).IsCanonical
  := trivial

theorem heading_isCanonical (h : c.style.HasNoNegativeZero) {level : Nat} {e : Extent} {k : Stroke}
    (hk : k ∈ c.heading level e) :
  k.IsCanonical
  := by
  rcases List.mem_append.mp hk with hk | hk
  · simp only [List.mem_cons, List.not_mem_nil, or_false] at hk
    rcases hk with rfl | rfl | rfl
    · exact h.canonical (Style.headingFont_mem_fonts c.style level)
    · trivial
    · trivial
  · split at hk
    · obtain rfl := List.mem_singleton.mp hk
      apply markup_isCanonical
    · cases hk

theorem paragraph_isCanonical {depth : Nat} {e : Extent} {k : Stroke}
    (hk : k ∈ c.paragraph depth e) :
  k.IsCanonical
  := by
  rw [paragraph] at hk
  split at hk
  · cases hk
  · obtain rfl := List.mem_singleton.mp hk
    trivial

theorem quote_isCanonical {depth : Nat} {e : Extent} {k : Stroke} (hk : k ∈ c.quote depth e) :
  k.IsCanonical
  := by
  rcases List.mem_append.mp hk with hk | hk
  · simp only [List.mem_cons, List.not_mem_nil, or_false] at hk
    rcases hk with rfl | rfl <;> trivial
  · obtain ⟨marker, -, hk⟩ := List.mem_filterMap.mp hk
    obtain ⟨start, -, hk⟩ := Option.bind_eq_some_iff.mp hk
    obtain ⟨stop, -, rfl⟩ := Option.map_eq_some_iff.mp hk
    apply markup_isCanonical

theorem item_isCanonical {depth : Nat} {e : Extent} {k : Stroke} (hk : k ∈ c.item depth e) :
  k.IsCanonical
  := by
  rcases List.mem_append.mp hk with hk | hk
  · obtain rfl := List.mem_singleton.mp hk
    trivial
  · split at hk
    · cases hk
    · split at hk
      · cases hk
      · obtain rfl := List.mem_singleton.mp hk
        apply markup_isCanonical

theorem emphasis_isCanonical (h : c.style.HasNoNegativeZero) {n : Nat} {t : FontTrait} {e : Extent}
    {k : Stroke} (hk : k ∈ c.emphasis n t e) :
  k.IsCanonical
  := by
  rcases List.mem_append.mp hk with hk | hk
  · split at hk
    · obtain rfl := List.mem_singleton.mp hk
      exact h.canonical (Style.body_mem_fonts c.style)
    · cases hk
  · obtain ⟨s, -, rfl⟩ := List.mem_map.mp hk
    apply markup_isCanonical

theorem code_isCanonical (h : c.style.HasNoNegativeZero) {e : Extent} {k : Stroke}
    (hk : k ∈ c.code e) :
  k.IsCanonical
  := by
  rcases List.mem_append.mp hk with hk | hk
  · rcases List.mem_cons.mp hk with rfl | hk
    · exact h.canonical (Style.mono_mem_fonts c.style)
    · split at hk
      · obtain rfl := List.mem_singleton.mp hk
        trivial
      · cases hk
  · obtain ⟨s, -, rfl⟩ := List.mem_map.mp hk
    apply markup_isCanonical

theorem link_isCanonical {destination : String} {e : Extent} {k : Stroke}
    (hk : k ∈ c.link destination e) :
  k.IsCanonical
  := by
  rw [link] at hk
  split at hk
  · cases hk
  · split at hk
    · cases hk
    · rcases List.mem_append.mp hk with hk | hk
      · split at hk
        · rcases List.mem_append.mp hk with hk | hk
          · simp only [List.mem_cons, List.not_mem_nil, or_false] at hk
            rcases hk with rfl | rfl <;> trivial
          · split at hk
            · obtain rfl := List.mem_singleton.mp hk
              trivial
            · cases hk
        · cases hk
      · simp only [List.mem_cons, List.not_mem_nil, or_false] at hk
        rcases hk with rfl | rfl <;> apply markup_isCanonical

/-- The fonts of strokes are those of the style. -/
theorem own_isCanonical (h : c.style.HasNoNegativeZero) (depth : Nat) (kind : NodeKind)
    (e : Extent) :
  ∀ k ∈ c.own depth kind e, k.IsCanonical
  := by
  intro k hk
  cases kind with
  | heading level => exact heading_isCanonical h hk
  | paragraph => exact paragraph_isCanonical hk
  | blockQuote => exact quote_isCanonical hk
  | listItem => exact item_isCanonical hk
  | strong => exact emphasis_isCanonical h hk
  | emphasis => exact emphasis_isCanonical h hk
  | inlineCode => exact code_isCanonical h hk
  | link destination => exact link_isCanonical hk
  | _ => cases hk

theorem strokes_isCanonical (h : c.style.HasNoNegativeZero) (depth : Nat) (n : Node) :
  ∀ k ∈ c.strokes depth n, k.IsCanonical
  := by
  apply strokes_forall
  intro _ e _ depth kind
  exact own_isCanonical h depth kind e

end Canvas

/-! ### The pass over all of a buffer -/

namespace Buffer

theorem canonicalAt_eq_none {b : Buffer} {u : Nat} (h : b.length ≤ u) :
  b.canonicalAt u = none
  := by
  rw [canonicalAt, Array.getElem?_eq_none h]
  rfl

theorem canonicalAt_of_attributes {b c : Buffer} (h : c.attributes = b.attributes) (u : Nat) :
  c.canonicalAt u = b.canonicalAt u
  := by
  rw [canonicalAt, canonicalAt, h]

theorem canonicalAt_setAttributes (b : Buffer) (a : Attributes) {u : Nat} (h : u < b.length) :
  (b.setAttributes ⟨0, b.length⟩ a).canonicalAt u = some a.canonical
  := by
  rw [canonicalAt, setAttributes, getElem?_update, if_pos (Span.mem_iff.mpr ⟨Nat.zero_le u, h⟩),
    Array.getElem?_eq_getElem h]
  rfl

/-- All code units have the same attributes, without a negative zero. -/
theorem isCanonical_setAttributes (b : Buffer) {a : Attributes} (ha : a.canonical = a) :
  (b.setAttributes ⟨0, b.length⟩ a).IsCanonical
  := by
  intro d hd
  obtain ⟨u, hu⟩ := Array.mem_iff_getElem?.mp hd
  have inside := (Array.getElem?_eq_some_iff.mp hu).1
  rw [setAttributes, ← length, length_update] at inside
  rw [setAttributes, getElem?_update, if_pos (Span.mem_iff.mpr ⟨Nat.zero_le u, inside⟩),
    Array.getElem?_eq_getElem inside] at hu
  obtain rfl := Option.some.inj hu
  exact ha

end Buffer

namespace Style

/-- What a whole text is styled with. -/
def canvas (style : Style) (cs : List Char) : Canvas :=
  ⟨IndexedText.ofText cs, style, 0, units cs, none⟩

/-- The strokes of a whole text. -/
def strokesOf (style : Style) (cs : List Char) : List Stroke :=
  (style.canvas cs).strokes 0 (ParsedText.ofText cs).document

/-- The attributes that a style gives a code unit of a text, up to the sign of a size that
is zero. -/
def attributesAt (style : Style) (cs : List Char) (u : Nat) : Option Attributes :=
  if u < units cs then some (touches (style.strokesOf cs) u style.attributes).canonical else none

theorem strokesOf_isCanonical {style : Style} (h : style.HasNoNegativeZero) (cs : List Char) :
  ∀ k ∈ style.strokesOf cs, k.IsCanonical
  := Canvas.strokes_isCanonical (c := style.canvas cs) h 0 _

/-- All of a buffer is styled with the strokes of its text. -/
theorem walk_eq_strokes (style : Style) {b : Buffer} {cs : List Char} (h : b.chars = cs) :
  b.walk (ParsedText.ofText cs).text style 0 none (ParsedText.ofText cs).document
    = b.strokes none (style.strokesOf cs)
  := by
  rw [Buffer.walk, Buffer.length_eq, h]
  rfl

/-- The pass over all of a buffer where the attributes are those of plain text. -/
theorem canonicalAt_walk (style : Style) {b : Buffer} {cs : List Char} (h : b.chars = cs) {u : Nat}
    (plain : u < units cs → b.canonicalAt u = some style.attributes.canonical) :
  (b.walk (ParsedText.ofText cs).text style 0 none (ParsedText.ofText cs).document).canonicalAt u
    = style.attributesAt cs u
  := by
  rw [walk_eq_strokes style h, Buffer.canonicalAt_strokes, if_pos (shown_none u), attributesAt]
  by_cases inside : u < units cs
  · rw [plain inside, if_pos inside, Option.map_some, canonical_touches]
  · rw [Buffer.canonicalAt_eq_none, if_neg inside]
    · rfl
    · rw [Buffer.length_eq, h]
      omega

/-- A styled buffer with a given text. -/
theorem canonicalAt_render (style : Style) (cs : List Char) (u : Nat) :
  (style.render cs).canonicalAt u = style.attributesAt cs u
  := by
  have plain (h : u < units cs) :
      (Buffer.ofText cs style.attributes).canonicalAt u = some style.attributes.canonical := by
    rw [Buffer.canonicalAt, Buffer.ofText, Array.getElem?_replicate, if_pos h]
    rfl
  exact canonicalAt_walk style (b := Buffer.ofText cs style.attributes) rfl plain

/-- The pass over all of a buffer gives its code units the attributes that the style gives
them, whatever they had before. -/
theorem canonicalAt_applyAll (style : Style) (b : Buffer) (u : Nat) :
  (style.applyAll b).canonicalAt u = style.attributesAt b.chars u
  := by
  rw [applyAll]
  split
  · rename_i empty
    have size := b.length_eq
    rw [Buffer.canonicalAt_eq_none (by omega), attributesAt, if_neg (by omega)]
  · rw [Buffer.canonicalAt_of_attributes (Buffer.attributes_endBatch _)]
    apply canonicalAt_walk
    · exact Buffer.chars_eq_of_version (Buffer.version_setAttributes b.beginBatch _ _)
    · intro h
      rw [← Buffer.length_eq] at h
      exact Buffer.canonicalAt_setAttributes b.beginBatch style.attributes h

theorem canonicalAt_reset (style : Style) (b : Buffer) {u : Nat} (h : u < b.length) :
  (style.reset b).canonicalAt u = some style.attributes.canonical
  := by
  rw [reset]
  rw [if_neg (by omega), Buffer.canonicalAt_of_attributes (Buffer.attributes_endBatch _)]
  exact Buffer.canonicalAt_setAttributes b.beginBatch style.attributes h

variable {style : Style}

theorem isCanonical_of_empty {b : Buffer} (h : b.length = 0) :
  b.IsCanonical
  := by
  intro a ha
  rw [Array.size_eq_zero_iff.mp h] at ha
  simp at ha

theorem isCanonical_render (h : style.HasNoNegativeZero) (cs : List Char) :
  (style.render cs).IsCanonical
  := by
  have plain : (Buffer.ofText cs style.attributes).IsCanonical := by
    intro a ha
    rw [(Array.mem_replicate.mp ha).2, h.attributes]
  have chars : (Buffer.ofText cs style.attributes).chars = cs := rfl
  change Buffer.IsCanonical (Buffer.walk _ _ _ _ _ _)
  rw [walk_eq_strokes style chars]
  exact plain.strokes (strokesOf_isCanonical h cs)

theorem isCanonical_applyAll (h : style.HasNoNegativeZero) (b : Buffer) :
  (style.applyAll b).IsCanonical
  := by
  rw [applyAll]
  split
  · exact isCanonical_of_empty ‹_›
  · apply Buffer.isCanonical_of_attributes (Buffer.attributes_endBatch _)
    have chars : (b.beginBatch.setAttributes ⟨0, b.length⟩ style.attributes).chars = b.chars :=
      Buffer.chars_eq_of_version (Buffer.version_setAttributes b.beginBatch _ _)
    rw [walk_eq_strokes style chars]
    apply Buffer.IsCanonical.strokes
    · exact Buffer.isCanonical_setAttributes b.beginBatch h.attributes
    · exact strokesOf_isCanonical h _

theorem isCanonical_reset (h : style.HasNoNegativeZero) (b : Buffer) :
  (style.reset b).IsCanonical
  := by
  rw [reset]
  split
  · exact isCanonical_of_empty ‹_›
  · apply Buffer.isCanonical_of_attributes (Buffer.attributes_endBatch _)
    exact Buffer.isCanonical_setAttributes b.beginBatch h.attributes

/-! ### The pass over some lines -/

/-- The code unit at which a line of a text starts. -/
def lineOffset (cs : List Char) (line : Nat) : Nat :=
  (OffsetTable.ofText cs).lineOffset line

/-- The code units of some lines of a text. -/
def lineSpan (cs : List Char) (first last : Nat) : Span :=
  ⟨lineOffset cs first, lineOffset cs last⟩

/-- Lines with a code unit of the text are lines of the text, and in order. -/
theorem lt_of_mem_lineSpan {cs : List Char} {first last u : Nat} (h : u ∈ lineSpan cs first last)
    (short : u < units cs) :
  first < (OffsetTable.ofText cs).lineCount ∧ first < last
  := by
  have start : (OffsetTable.ofText cs).lineOffset first ≤ u := h.1
  have stop : u < (OffsetTable.ofText cs).lineOffset last := h.2
  constructor
  · by_contra beyond
    have offset := OffsetTable.lineOffset_of_lineCount_le (Nat.le_of_not_lt beyond)
    omega
  · by_contra order
    have mono := OffsetTable.lineOffset_mono cs (Nat.le_of_not_lt order)
    omega

theorem eq_lineSpan_of_lineWindow? {cs : List Char} {first last : Nat} {window : Span}
    (h : (OffsetTable.ofText cs).lineWindow? first last = some window) (order : first < last) :
  window = lineSpan cs first last
  := by
  have start : first < (OffsetTable.ofText cs).lineCount := by
    by_contra beyond
    have missing : (OffsetTable.ofText cs).lineStart? first = none :=
      Array.getElem?_eq_none (Nat.le_of_not_lt beyond)
    rw [OffsetTable.lineWindow?, missing] at h
    cases h
  rw [OffsetTable.lineWindow?_ofText start order.le] at h
  exact (Option.some.inj h).symm

/-- A document lies in its text as each node lies in the nodes around it. -/
def IsNestedText (cs : List Char) : Prop :=
  (ParsedText.ofText cs).document.IsNested

instance (cs : List Char) : Decidable (IsNestedText cs) :=
  inferInstanceAs (Decidable (ParsedText.ofText cs).document.IsNested)

/-- The pass over some lines of a text.  The buffer stays as it is if there are none or
if its text is another one. -/
def applyLines (style : Style) (s : Snapshot) (b : Buffer) (first last : Nat) : Buffer :=
  ((style.applyLines? b s first last).map Prod.snd).getD b

/-- The strokes of a snapshot that a window shows. -/
def strokesIn (style : Style) (s : Snapshot) (length : Nat) (window : Span) : List Stroke :=
  Canvas.strokes ⟨s.parsed.text, style, 0, length, some window⟩ 0 s.parsed.document

theorem applyLines?_eq_some {b b' : Buffer} {s : Snapshot} {first last : Nat} {window : Span}
    (h : style.applyLines? b s first last = some (window, b')) :
  s.isOf b ∧ first < last ∧ s.parsed.text.table.lineWindow? first last = some window
    ∧ b' = (b.beginBatch.strokes (some window) (style.strokesIn s b.length window)).endBatch
  := by
  rw [applyLines?] at h
  split at h
  · rename_i current
    split at h
    · cases h
    · rename_i w hw
      split at h
      · cases h
      · obtain ⟨rfl, rfl⟩ := Prod.mk.inj (Option.some.inj h)
        exact ⟨current.1, current.2, hw, rfl⟩
  · cases h

theorem applyLines?_eq_none {b : Buffer} {s : Snapshot} {first last : Nat}
    (h : style.applyLines? b s first last = none) :
  ¬ s.isOf b ∨ last ≤ first ∨ ∀ w ∈ s.parsed.text.table.lineWindow? first last, w.isEmpty
  := by
  rw [applyLines?] at h
  split at h
  · split at h
    · rename_i missing
      right
      right
      intro w hw
      rw [missing] at hw
      cases hw
    · rename_i w hw
      split at h
      · right
        right
        intro v hv
        rw [hw] at hv
        obtain rfl := Option.some.inj hv
        assumption
      · cases h
  · rename_i outdated
    by_cases current : s.isOf b
    · right
      left
      by_contra order
      exact outdated ⟨current, by omega⟩
    · left
      exact current

@[simp] theorem version_applyLines (style : Style) (s : Snapshot) (b : Buffer) (first last : Nat) :
  (style.applyLines s b first last).version = b.version
  := by
  rw [applyLines]
  cases h : style.applyLines? b s first last with
  | none => rfl
  | some result =>
    obtain ⟨w, c⟩ := result
    obtain ⟨-, -, -, rfl⟩ := applyLines?_eq_some h
    simp

/-- A snapshot of a text is of every buffer with that text and revision. -/
theorem isOf_ofText {cs : List Char} {revision : UInt64} {b : Buffer}
    (h : b.version = (cs, revision)) :
  (Snapshot.ofText cs revision).isOf b
  := by
  obtain ⟨rfl, rfl⟩ := Prod.mk.inj h
  have size : (Snapshot.ofText b.chars b.revision).parsed.text.table.length = b.length := by
    rw [Buffer.length_eq]
    exact OffsetTable.length_ofText b.chars
  rw [Snapshot.isOf, size, BEq.rfl, Bool.and_true]
  apply BEq.rfl

/-- The pass over some lines of a text, of which the first one is a line of the text, is made
unless they have no code unit. -/
theorem applyLines?_ofText {cs : List Char} {revision : UInt64} {b : Buffer}
    (h : b.version = (cs, revision)) {first last : Nat}
    (start : first < (OffsetTable.ofText cs).lineCount) (order : first < last) :
  style.applyLines? b (Snapshot.ofText cs revision) first last
    = if lineOffset cs first < lineOffset cs last then
        some (lineSpan cs first last, (b.beginBatch.strokes (some (lineSpan cs first last))
          (style.strokesIn (Snapshot.ofText cs revision) b.length (lineSpan cs first last))).endBatch)
      else none
  := by
  have found : (Snapshot.ofText cs revision).parsed.text.table.lineWindow? first last
      = some (lineSpan cs first last) :=
    OffsetTable.lineWindow?_ofText start order.le
  rw [applyLines?, if_pos ⟨isOf_ofText h, order⟩, found]
  by_cases somewhere : lineOffset cs first < lineOffset cs last
  · rw [if_pos somewhere]
    refine if_neg ?_
    rw [Span.isEmpty, decide_eq_true_eq]
    exact Nat.not_le.mpr somewhere
  · rw [if_neg somewhere]
    refine if_pos ?_
    rw [Span.isEmpty, decide_eq_true_eq]
    exact Nat.le_of_not_lt somewhere

/-- All lines from the end on are the same. -/
theorem applyLines?_of_lineCount_le {cs : List Char} {revision : UInt64} {b : Buffer}
    (h : b.version = (cs, revision)) {first last last' : Nat}
    (start : first < (OffsetTable.ofText cs).lineCount)
    (all : (OffsetTable.ofText cs).lineCount ≤ last)
    (all' : (OffsetTable.ofText cs).lineCount ≤ last') :
  style.applyLines? b (Snapshot.ofText cs revision) first last
    = style.applyLines? b (Snapshot.ofText cs revision) first last'
  := by
  have stop : lineOffset cs last = lineOffset cs last' :=
    (OffsetTable.lineOffset_of_lineCount_le all).trans
      (OffsetTable.lineOffset_of_lineCount_le all').symm
  rw [applyLines?_ofText h start (start.trans_le all),
    applyLines?_ofText h start (start.trans_le all'), lineSpan, lineSpan, stop]

/-- The lines of a text that are styled touch the code units of these lines with the
strokes of the whole text. -/
theorem canonicalAt_applyLines {cs : List Char} (nested : IsNestedText cs) {revision : UInt64}
    {b : Buffer} (h : b.version = (cs, revision)) (first last u : Nat) :
  (style.applyLines (Snapshot.ofText cs revision) b first last).canonicalAt u
    = if u ∈ lineSpan cs first last
      then (b.canonicalAt u).map fun a => (touches (style.strokesOf cs) u a).canonical
      else b.canonicalAt u
  := by
  have chars : b.chars = cs := congrArg Prod.fst h
  have size : b.length = units cs := by rw [Buffer.length_eq, chars]
  by_cases short : u < units cs
  · rw [applyLines]
    cases result : style.applyLines? b (Snapshot.ofText cs revision) first last with
    | none =>
      rw [if_neg]
      · rfl
      · intro hu
        obtain ⟨start, order⟩ := lt_of_mem_lineSpan hu short
        rcases applyLines?_eq_none result with outdated | disorder | empty
        · exact outdated (isOf_ofText h)
        · omega
        · have none := empty _ (OffsetTable.lineWindow?_ofText start order.le)
          simp only [Span.isEmpty, decide_eq_true_eq] at none
          simp only [lineSpan, lineOffset, Span.mem_iff] at hu
          omega
    | some pair =>
      obtain ⟨window, b'⟩ := pair
      obtain ⟨-, order, found, rfl⟩ := applyLines?_eq_some result
      obtain rfl := eq_lineSpan_of_lineWindow? found order
      rw [Option.map_some, Option.getD_some,
        Buffer.canonicalAt_of_attributes (Buffer.attributes_endBatch _),
        Buffer.canonicalAt_strokes, Buffer.canonicalAt_of_attributes (Buffer.attributes_beginBatch b)]
      by_cases hu : u ∈ lineSpan cs first last
      · rw [if_pos hu, if_pos (by rw [shown_some]; exact hu), strokesIn, size]
        congr 1
        funext a
        congr 1
        exact Canvas.touches_strokes_within (c := style.canvas cs) rfl hu 0 _ nested a
      · rw [if_neg hu, if_neg (by rw [shown_some]; exact hu)]
  · have none : b.canonicalAt u = none := Buffer.canonicalAt_eq_none (by omega)
    rw [none, Buffer.canonicalAt_eq_none, Option.map_none, ite_self]
    rw [Buffer.length_eq_of_version (version_applyLines _ _ _ _ _)]
    omega

theorem isCanonical_applyLines (h : style.HasNoNegativeZero) {b : Buffer} (hb : b.IsCanonical)
    (s : Snapshot) (first last : Nat) :
  (style.applyLines s b first last).IsCanonical
  := by
  rw [applyLines]
  cases result : style.applyLines? b s first last with
  | none => exact hb
  | some pair =>
    obtain ⟨window, b'⟩ := pair
    obtain ⟨-, -, -, rfl⟩ := applyLines?_eq_some result
    apply Buffer.isCanonical_of_attributes (Buffer.attributes_endBatch _)
    apply Buffer.IsCanonical.strokes
    · exact Buffer.isCanonical_of_attributes (Buffer.attributes_beginBatch b) hb
    · exact Canvas.strokes_isCanonical h 0 _

end Style

end LiveMarkdown
