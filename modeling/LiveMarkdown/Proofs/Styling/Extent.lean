import LiveMarkdown.Proofs.Styling.Effect
import LiveMarkdown.Proofs.Styling.Markers
import LiveMarkdown.Proofs.Text.Indexed
import LiveMarkdown.Styling.Walk

/-!
# Where strokes are

The strokes of a node lie in the code units of the node.  In a document whose nodes lie
inside each other, the strokes of the nodes inside a node do so too, so that a node which
a window does not show has no stroke that the window shows.
-/

namespace LiveMarkdown

open String (utf8Len)

/-! ### Documents whose nodes lie inside each other -/

/-- A span lies inside another one. -/
def Span.covers (outer inner : Span) : Bool :=
  outer.start ≤ inner.start && inner.stop ≤ outer.stop

theorem Span.covers_iff {outer inner : Span} :
  outer.covers inner ↔ outer.start ≤ inner.start ∧ inner.stop ≤ outer.stop
  := by
  simp [covers]

theorem Span.covers_trans {a b c : Span} (h : a.covers b) (h' : b.covers c) :
  a.covers c
  := by
  rw [covers_iff] at *
  omega

namespace Node

mutual

/-- A node lies inside a span, if there is one, and the nodes inside it lie inside each
other. -/
def isNestedIn (outer : Option Span) (n : Node) : Bool :=
  match n with
  | ⟨_, span, children⟩ =>
    (outer.all fun o => span.all o.covers) && areNestedIn (span.or outer) children

/-- Some nodes lie inside a span, if there is one, and the nodes inside them lie inside
each other. -/
def areNestedIn (outer : Option Span) : List Node → Bool
  | [] => true
  | n :: ns => n.isNestedIn outer && areNestedIn outer ns

end

/-- Every node of a document lies inside the nodes around it. -/
def IsNested (document : Node) : Prop :=
  document.isNestedIn none

instance (document : Node) : Decidable document.IsNested :=
  inferInstanceAs (Decidable (document.isNestedIn none = true))

end Node

/-! ### Brackets -/

/-- A closing bracket is a character of the text. -/
theorem Canvas.lt_of_bracket?_eq_some {n close : Nat} {cs : List Char}
    (h : bracket? n cs = some close) :
  n ≤ close ∧ close < n + utf8Len cs
  := by
  induction cs generalizing n with
  | nil => cases h
  | cons c cs ih =>
    have size := c.utf8Size_pos
    rw [String.utf8Len_cons]
    rw [bracket?] at h
    split at h
    · obtain rfl := Option.some.inj h
      omega
    · have := ih h
      omega

/-! ### The strokes of one node -/

namespace Canvas

variable {c : Canvas} {cs : List Char}

/-- A later byte is not at an earlier position of the buffer. -/
theorem unitAt?_mono (hc : c.text = IndexedText.ofText cs) {byte byte' u u' : Nat}
    (h : byte ≤ byte') (hu : c.unitAt? byte = some u) (hu' : c.unitAt? byte' = some u') :
  u ≤ u'
  := by
  rw [unitAt?] at hu hu'
  rw [hc] at hu hu'
  obtain ⟨v, hv, rfl⟩ := Option.map_eq_some_iff.mp hu
  obtain ⟨v', hv', rfl⟩ := Option.map_eq_some_iff.mp hu'
  have := OffsetTable.unitAt?_mono h hv hv'
  omega

/-- Where a node is, in bytes and in code units. -/
structure Located (c : Canvas) (e : Extent) : Prop where
  /-- The bytes start where the code units do. -/
  start : c.unitAt? e.bytes.start = some e.units.start
  /-- The bytes stop where the code units do. -/
  stop : c.unitAt? e.bytes.stop = some e.units.stop
  /-- The characters of the node fill its bytes. -/
  bytes : e.bytes.start + utf8Len (c.chars e) = e.bytes.stop
  /-- The characters of the node fill its code units. -/
  units : e.units.start + LiveMarkdown.units (c.chars e) = e.units.stop

theorem located_of_extent? (hc : c.text = IndexedText.ofText cs) {n : Node} {e : Extent}
    (h : c.extent? n = some e) :
  n.span = some e.bytes ∧ c.Located e
  := by
  obtain ⟨span, hspan, h⟩ := Option.bind_eq_some_iff.mp h
  obtain ⟨cut, hcut, h⟩ := Option.bind_eq_some_iff.mp h
  split at h
  · obtain ⟨unitSpan, hunits, rfl⟩ := Option.map_eq_some_iff.mp h
    obtain ⟨ys, hys⟩ : ∃ ys, c.text.slice? span = some ys := by
      rw [← Option.isSome_iff_exists, IndexedText.isSome_slice?, hcut]
      rfl
    have chars : c.chars ⟨span, unitSpan.shift c.base⟩ = ys := by
      rw [Canvas.chars, hys]
      rfl
    rw [hc] at hys hunits
    obtain ⟨xs, zs, rfl, start, stop⟩ := IndexedText.slice?_spec hys
    obtain ⟨first, hfirst, hunits⟩ := Option.bind_eq_some_iff.mp hunits
    obtain ⟨last, hlast, hunits⟩ := Option.bind_eq_some_iff.mp hunits
    rw [OffsetTable.within?] at hunits
    split at hunits
    · obtain rfl := Option.some.inj hunits
      have first_eq := OffsetTable.unitAt?_utf8Len xs (ys ++ zs)
      have last_eq := OffsetTable.unitAt?_utf8Len (xs ++ ys) zs
      rw [← List.append_assoc, start] at first_eq
      rw [stop] at last_eq
      obtain rfl := Option.some.inj (hfirst.symm.trans first_eq)
      obtain rfl := Option.some.inj (hlast.symm.trans last_eq)
      refine ⟨hspan, ?_, ?_, ?_, ?_⟩
      · rw [unitAt?, hc]
        exact congrArg _ hfirst
      · rw [unitAt?, hc]
        exact congrArg _ hlast
      · rw [chars, ← start, ← stop, String.utf8Len_append]
      · rw [chars]
        simp only [Span.shift, units_append]
        omega
    · cases hunits
  · cases h

/-- A byte of a node is in the code units of the node. -/
theorem Located.unitAt?_mem (hc : c.text = IndexedText.ofText cs) {e : Extent} (he : c.Located e)
    {byte u : Nat} (hu : c.unitAt? byte = some u) :
  (e.bytes.start ≤ byte → e.units.start ≤ u) ∧ (byte ≤ e.bytes.stop → u ≤ e.units.stop)
  := by
  constructor
  · intro h
    exact unitAt?_mono hc h he.start hu
  · intro h
    exact unitAt?_mono hc h hu he.stop

theorem mem_ends {n u : Nat} {span s : Span} (hs : s ∈ ends n span) (hu : u ∈ s) :
  u ∈ span
  := by
  simp only [ends, List.mem_cons, List.not_mem_nil, or_false] at hs
  rw [Span.mem_iff] at *
  rcases hs with rfl | rfl
  · dsimp only at hu
    omega
  · dsimp only at hu
    omega

theorem heading_inside {e : Extent} {level u : Nat} {k : Stroke} (hk : k ∈ c.heading level e)
    (hu : u ∈ k.span) :
  u ∈ e.units
  := by
  rcases List.mem_append.mp hk with hk | hk
  · simp only [List.mem_cons, List.not_mem_nil, or_false] at hk
    rcases hk with rfl | rfl | rfl <;> exact hu
  · split at hk
    · rename_i marked
      obtain rfl := List.mem_singleton.mp hk
      have short := marked.2
      simp only [Span.mem_iff, Span.length, markup, Stroke.span] at *
      omega
    · cases hk

theorem paragraph_inside {e : Extent} {depth u : Nat} {k : Stroke} (hk : k ∈ c.paragraph depth e)
    (hu : u ∈ k.span) :
  u ∈ e.units
  := by
  rw [paragraph] at hk
  split at hk
  · cases hk
  · obtain rfl := List.mem_singleton.mp hk
    exact hu

theorem quote_inside (hc : c.text = IndexedText.ofText cs) {e : Extent} (he : c.Located e)
    {depth u : Nat} {k : Stroke} (hk : k ∈ c.quote depth e) (hu : u ∈ k.span) :
  u ∈ e.units
  := by
  rcases List.mem_append.mp hk with hk | hk
  · simp only [List.mem_cons, List.not_mem_nil, or_false] at hk
    rcases hk with rfl | rfl <;> exact hu
  · obtain ⟨marker, hm, hk⟩ := List.mem_filterMap.mp hk
    obtain ⟨start, hstart, hk⟩ := Option.bind_eq_some_iff.mp hk
    obtain ⟨stop, hstop, rfl⟩ := Option.map_eq_some_iff.mp hk
    have short := stop_le_of_mem_quoteMarkers hm
    have bytes := he.bytes
    have first := (he.unitAt?_mem hc hstart).1 (by omega)
    have last := (he.unitAt?_mem hc hstop).2 (by omega)
    simp only [Span.mem_iff, markup, Stroke.span] at *
    omega

theorem item_inside (hc : c.text = IndexedText.ofText cs) {e : Extent} (he : c.Located e)
    {depth u : Nat} {k : Stroke} (hk : k ∈ c.item depth e) (hu : u ∈ k.span) :
  u ∈ e.units
  := by
  rcases List.mem_append.mp hk with hk | hk
  · obtain rfl := List.mem_singleton.mp hk
    exact hu
  · split at hk
    · cases hk
    · split at hk
      · cases hk
      · rename_i start hstart
        obtain rfl := List.mem_singleton.mp hk
        have first := (he.unitAt?_mem hc hstart).1 (by omega)
        simp only [Span.mem_iff, markup, Stroke.span] at *
        omega

theorem emphasis_inside {e : Extent} {n u : Nat} {t : FontTrait} {k : Stroke}
    (hk : k ∈ c.emphasis n t e) (hu : u ∈ k.span) :
  u ∈ e.units
  := by
  rcases List.mem_append.mp hk with hk | hk
  · split at hk
    · obtain rfl := List.mem_singleton.mp hk
      simp only [Span.mem_iff, Stroke.span] at *
      omega
    · cases hk
  · obtain ⟨s, hs, rfl⟩ := List.mem_map.mp hk
    exact mem_ends hs hu

theorem code_inside {e : Extent} {u : Nat} {k : Stroke} (hk : k ∈ c.code e) (hu : u ∈ k.span) :
  u ∈ e.units
  := by
  rcases List.mem_append.mp hk with hk | hk
  · rcases List.mem_cons.mp hk with rfl | hk
    · exact hu
    · split at hk
      · obtain rfl := List.mem_singleton.mp hk
        simp only [Span.mem_iff, Stroke.span] at *
        omega
      · cases hk
  · obtain ⟨s, hs, rfl⟩ := List.mem_map.mp hk
    exact mem_ends hs hu

/-- The first bracket of a link is a code unit of it, because the link has a character
that closes its label. -/
theorem link_inside (hc : c.text = IndexedText.ofText cs) {e : Extent} (he : c.Located e)
    {destination : String} {u : Nat} {k : Stroke} (hk : k ∈ c.link destination e)
    (hu : u ∈ k.span) :
  u ∈ e.units
  := by
  rw [link] at hk
  split at hk
  · cases hk
  · rename_i close hclose
    split at hk
    · cases hk
    · rename_i stop hstop
      obtain ⟨-, short⟩ := lt_of_bracket?_eq_some hclose
      have bytes := he.bytes
      have first := (he.unitAt?_mem hc hstop).1 (by omega)
      have last := (he.unitAt?_mem hc hstop).2 (by omega)
      have nonempty : 0 < units (c.chars e) := by
        cases hcs : c.chars e with
        | nil => rw [hcs] at short; simp at short
        | cons d ds =>
          have := unitLength_pos d
          rw [units_cons]
          omega
      have size := he.units
      simp only [Span.mem_iff] at *
      rcases List.mem_append.mp hk with hk | hk
      · split at hk
        · rcases List.mem_append.mp hk with hk | hk
          · simp only [List.mem_cons, List.not_mem_nil, or_false] at hk
            rcases hk with rfl | rfl <;> simp only [Stroke.span] at hu <;> omega
          · split at hk
            · obtain rfl := List.mem_singleton.mp hk
              simp only [Stroke.span] at hu
              omega
            · cases hk
        · cases hk
      · simp only [List.mem_cons, List.not_mem_nil, or_false] at hk
        rcases hk with rfl | rfl <;> simp only [markup, Stroke.span] at hu <;> omega

/-- The strokes of a node lie in the code units of the node. -/
theorem own_inside (hc : c.text = IndexedText.ofText cs) {e : Extent} (he : c.Located e)
    {depth u : Nat} {kind : NodeKind} {k : Stroke} (hk : k ∈ c.own depth kind e)
    (hu : u ∈ k.span) :
  u ∈ e.units
  := by
  cases kind with
  | heading level => exact heading_inside hk hu
  | paragraph => exact paragraph_inside hk hu
  | blockQuote => exact quote_inside hc he hk hu
  | listItem => exact item_inside hc he hk hu
  | strong => exact emphasis_inside hk hu
  | emphasis => exact emphasis_inside hk hu
  | inlineCode => exact code_inside hk hu
  | link destination => exact link_inside hc he hk hu
  | _ => cases hk

/-! ### The strokes of a document -/

/-- The strokes of the nodes inside a node. -/
def below (c : Canvas) (depth : Nat) (kind : NodeKind) (children : List Node) : List Stroke :=
  if kind = .inlineCode then [] else c.strokesOfList (inner kind depth) children

theorem strokes_eq_nil {depth : Nat} {kind : NodeKind} {span : Option Span} {children : List Node}
    {e : Extent} (he : c.extent? ⟨kind, span, []⟩ = some e) (h : c.isHidden e) :
  c.strokes depth ⟨kind, span, children⟩ = []
  := by
  rw [strokes, he, Option.any_some]
  exact if_pos h

theorem strokes_of_shown {depth : Nat} {kind : NodeKind} {span : Option Span} {children : List Node}
    {e : Extent} (he : c.extent? ⟨kind, span, []⟩ = some e) (h : ¬ c.isHidden e) :
  c.strokes depth ⟨kind, span, children⟩
    = c.own (inner kind depth) kind e ++ c.below depth kind children
  := by
  rw [strokes, he, Option.any_some]
  exact if_neg h

theorem strokes_of_not_found {depth : Nat} {kind : NodeKind} {span : Option Span}
    {children : List Node} (he : c.extent? ⟨kind, span, []⟩ = none) :
  c.strokes depth ⟨kind, span, children⟩ = c.below depth kind children
  := by
  rw [strokes, he]
  rfl

/-- The part of a span of bytes in the buffer, between the positions of its ends. -/
structure Bounds (c : Canvas) (bytes units : Span) : Prop where
  /-- The position of the first byte. -/
  start : c.unitAt? bytes.start = some units.start
  /-- The position after the last byte. -/
  stop : c.unitAt? bytes.stop = some units.stop

theorem Bounds.mem (hc : c.text = IndexedText.ofText cs) {outer units : Span}
    (bounds : c.Bounds outer units) {e : Extent} (he : c.Located e) (h : outer.covers e.bytes)
    {u : Nat} (hu : u ∈ e.units) :
  u ∈ units
  := by
  rw [Span.covers_iff] at h
  have first := unitAt?_mono hc h.1 bounds.start he.start
  have last := unitAt?_mono hc h.2 he.stop bounds.stop
  rw [Span.mem_iff] at *
  omega

mutual

/-- The strokes of a node that lies inside a span, and of the nodes inside it, lie in the
code units of the span. -/
theorem strokes_inside (hc : c.text = IndexedText.ofText cs) {outer units : Span}
    (bounds : c.Bounds outer units) {around : Span} (h : outer.covers around) {depth : Nat}
    (n : Node) (nested : n.isNestedIn (some around)) :
  ∀ k ∈ c.strokes depth n, ∀ u ∈ k.span, u ∈ units
  := by
  match n with
  | ⟨kind, span, children⟩ =>
    intro k hk u hu
    simp only [Node.isNestedIn, Option.all_some, Bool.and_eq_true] at nested
    obtain ⟨inside, nested⟩ := nested
    have rest (below : k ∈ c.below depth kind children) : u ∈ units := by
      rw [Canvas.below] at below
      split at below
      · cases below
      · cases span with
        | none => exact strokesOfList_inside hc bounds h children nested k below u hu
        | some span =>
          exact strokesOfList_inside hc bounds (Span.covers_trans h inside) children nested k below
            u hu
    cases he : c.extent? ⟨kind, span, []⟩ with
    | none =>
      rw [strokes_of_not_found he] at hk
      exact rest hk
    | some e =>
      by_cases hidden : c.isHidden e
      · rw [strokes_eq_nil he hidden] at hk
        cases hk
      · rw [strokes_of_shown he hidden] at hk
        rcases List.mem_append.mp hk with hk | hk
        · obtain ⟨rfl, located⟩ := located_of_extent? hc he
          apply bounds.mem hc located (Span.covers_trans h inside)
          exact own_inside hc located hk hu
        · exact rest hk

/-- The strokes of nodes that lie inside a span, and of the nodes inside them, lie in the
code units of the span. -/
theorem strokesOfList_inside (hc : c.text = IndexedText.ofText cs) {outer units : Span}
    (bounds : c.Bounds outer units) {around : Span} (h : outer.covers around) {depth : Nat}
    (ns : List Node) (nested : Node.areNestedIn (some around) ns) :
  ∀ k ∈ c.strokesOfList depth ns, ∀ u ∈ k.span, u ∈ units
  := by
  match ns with
  | [] =>
    intro k hk
    cases hk
  | n :: ns =>
    intro k hk u hu
    simp only [Node.areNestedIn, Bool.and_eq_true] at nested
    rcases List.mem_append.mp hk with hk | hk
    · exact strokes_inside hc bounds h n nested.1 k hk u hu
    · exact strokesOfList_inside hc bounds h ns nested.2 k hk u hu

end

/-- The canvas with a window. -/
def within (c : Canvas) (window : Option Span) : Canvas :=
  { c with window }

theorem own_within (window : Option Span) (depth : Nat) (kind : NodeKind) (e : Extent) :
  (c.within window).own depth kind e = c.own depth kind e
  := by
  cases kind <;> rfl

theorem not_mem_of_isHidden {w : Span} {e : Extent} (h : (c.within (some w)).isHidden e) {u : Nat}
    (hu : u ∈ w) :
  u ∉ e.units
  := by
  simp only [within, isHidden, Option.any_some, Bool.or_eq_true, decide_eq_true_eq] at h
  rw [Span.mem_iff] at *
  omega

mutual

/-- A window passes over no stroke that it shows. -/
theorem touches_strokes_within (hc : c.text = IndexedText.ofText cs) {w : Span} {u : Nat}
    (hu : u ∈ w) {outer : Option Span} (depth : Nat) (n : Node) (nested : n.isNestedIn outer)
    (a : Attributes) :
  touches ((c.within (some w)).strokes depth n) u a = touches ((c.within none).strokes depth n) u a
  := by
  match n with
  | ⟨kind, span, children⟩ =>
    simp only [Node.isNestedIn, Bool.and_eq_true] at nested
    have rest (a : Attributes) : touches ((c.within (some w)).below depth kind children) u a
        = touches ((c.within none).below depth kind children) u a := by
      unfold below
      split
      · rfl
      · exact touches_strokesOfList_within hc hu (inner kind depth) children nested.2 a
    cases he : c.extent? ⟨kind, span, []⟩ with
    | none =>
      rw [strokes_of_not_found (c := c.within (some w)) he,
        strokes_of_not_found (c := c.within none) he, rest]
    | some e =>
      rw [strokes_of_shown (c := c.within none) (e := e) he Bool.false_ne_true, touches_append]
      by_cases hidden : (c.within (some w)).isHidden e
      · rw [strokes_eq_nil (c := c.within (some w)) he hidden, touches_nil]
        obtain ⟨rfl, located⟩ := located_of_extent? hc he
        have outside := not_mem_of_isHidden hidden hu
        have bounds : (c.within none).Bounds e.bytes e.units := ⟨located.start, located.stop⟩
        symm
        rw [touches_of_not_mem, touches_of_not_mem]
        · intro k hk hku
          rw [own_within] at hk
          exact outside (own_inside hc located hk hku)
        · intro k hk hku
          rw [below] at hk
          split at hk
          · cases hk
          · exact outside (strokesOfList_inside (c := c.within none) hc bounds (Span.covers_iff.mpr ⟨le_rfl, le_rfl⟩)
              children nested.2 k hk u hku)
      · rw [strokes_of_shown (c := c.within (some w)) he hidden, touches_append, own_within,
          own_within, rest]

/-- A window passes over no stroke of some nodes that it shows. -/
theorem touches_strokesOfList_within (hc : c.text = IndexedText.ofText cs) {w : Span} {u : Nat}
    (hu : u ∈ w) {outer : Option Span} (depth : Nat) (ns : List Node)
    (nested : Node.areNestedIn outer ns) (a : Attributes) :
  touches ((c.within (some w)).strokesOfList depth ns) u a
    = touches ((c.within none).strokesOfList depth ns) u a
  := by
  match ns with
  | [] => rfl
  | n :: ns =>
    simp only [Node.areNestedIn, Bool.and_eq_true] at nested
    unfold strokesOfList
    rw [touches_append, touches_append, touches_strokes_within hc hu depth n nested.1,
      touches_strokesOfList_within hc hu depth ns nested.2]

end

end Canvas

end LiveMarkdown
