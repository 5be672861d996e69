import LiveMarkdown.Proofs.Styling.Passes

/-!
# The order in which nodes are visited

Without a window the strokes of a document are those of its nodes one after the other, each
node before the nodes inside it and in the order of the text.  What a node contributes
depends on where it is and on how many lists and quotes are around it, and on nothing else:
a node that is not found contributes nothing, but it counts for the nodes inside it.
-/

namespace LiveMarkdown

/-- A list or a quote, by which the nodes inside it are indented. -/
def NodeKind.indents : NodeKind → Bool
  | blockQuote | unorderedList | orderedList => true
  | _ => false

/-- The number of lists and quotes among some nodes. -/
def nesting (kinds : List NodeKind) : Nat :=
  kinds.countP NodeKind.indents

theorem nesting_cons (kind : NodeKind) (kinds : List NodeKind) :
  nesting (kind :: kinds) = nesting kinds + if kind.indents then 1 else 0
  := List.countP_cons

/-- A node of a document, and the kinds of the nodes around it, the innermost first. -/
structure Visit where
  /-- The kinds of the nodes around the node. -/
  around : List NodeKind
  /-- The node. -/
  node : Node

namespace Node

mutual

/-- A node inside nodes of given kinds and all nodes inside it, each before the nodes inside
it and in the order of the text. -/
def visits (around : List NodeKind) (n : Node) : List Visit :=
  match n with
  | ⟨kind, span, children⟩ =>
    ⟨around, ⟨kind, span, children⟩⟩ :: visitsOfList (kind :: around) children

/-- Some nodes inside nodes of given kinds and all nodes inside them. -/
def visitsOfList (around : List NodeKind) : List Node → List Visit
  | [] => []
  | n :: ns => n.visits around ++ visitsOfList around ns

end

mutual

/-- The nodes that are visited are a node and the nodes inside it. -/
theorem map_node_visits (around : List NodeKind) (n : Node) :
  (n.visits around).map Visit.node = n.descendants
  := by
  match n with
  | ⟨kind, span, children⟩ =>
    rw [visits, descendants, List.map_cons, map_node_visitsOfList (kind :: around) children]

/-- The nodes that are visited are some nodes and the nodes inside them. -/
theorem map_node_visitsOfList (around : List NodeKind) (ns : List Node) :
  (visitsOfList around ns).map Visit.node = descendantsOfList ns
  := by
  match ns with
  | [] => rfl
  | n :: ns =>
    rw [visitsOfList, descendantsOfList, List.map_append, map_node_visits around n,
      map_node_visitsOfList around ns]

end

/-- A code span has no node inside it. -/
def IsPlain (n : Node) : Prop :=
  n.kind = .inlineCode → n.children.isEmpty

instance (n : Node) : Decidable n.IsPlain :=
  inferInstanceAs (Decidable (n.kind = .inlineCode → n.children.isEmpty))

/-- No code span of a document has a node inside it. -/
def HasPlainCode (document : Node) : Prop :=
  ∀ n ∈ document.descendants, n.IsPlain

instance (document : Node) : Decidable document.HasPlainCode :=
  inferInstanceAs (Decidable (∀ n ∈ document.descendants, n.IsPlain))

end Node

namespace Canvas

variable {c : Canvas}

theorem inner_nesting (around : List NodeKind) (kind : NodeKind) :
  inner kind (nesting around) = nesting (kind :: around)
  := by
  rw [nesting_cons]
  cases kind <;> rfl

/-- The strokes of a node that is visited, apart from those of the nodes inside it. -/
def strokesAt (c : Canvas) (v : Visit) : List Stroke :=
  match c.extent? v.node with
  | some e => c.own (nesting (v.node.kind :: v.around)) v.node.kind e
  | none => []

theorem strokes_of_window_eq_none (h : c.window = none) (depth : Nat) (kind : NodeKind)
    (span : Option Span) (children : List Node) :
  c.strokes depth ⟨kind, span, children⟩
    = (match c.extent? ⟨kind, span, children⟩ with
        | some e => c.own (inner kind depth) kind e
        | none => []) ++ c.below depth kind children
  := by
  have same : c.extent? ⟨kind, span, children⟩ = c.extent? ⟨kind, span, []⟩ := rfl
  rw [same]
  cases he : c.extent? ⟨kind, span, []⟩ with
  | none => apply strokes_of_not_found he
  | some e =>
    apply strokes_of_shown he
    rw [isHidden, h]
    apply Bool.false_ne_true

mutual

/-- The strokes of a node are those of the nodes that are visited, one after the other. -/
theorem strokes_eq_flatMap (h : c.window = none) (around : List NodeKind) (n : Node)
    (plain : ∀ m ∈ n.descendants, m.IsPlain) :
  c.strokes (nesting around) n = (n.visits around).flatMap c.strokesAt
  := by
  match n with
  | ⟨kind, span, children⟩ =>
    rw [Node.descendants, List.forall_mem_cons] at plain
    have rest : c.below (nesting around) kind children
        = (Node.visitsOfList (kind :: around) children).flatMap c.strokesAt := by
      rw [below]
      split
      · rename_i code
        have none : children = [] := List.isEmpty_iff.mp (plain.1 code)
        rw [none]
        rfl
      · rw [inner_nesting]
        apply strokesOfList_eq_flatMap h (kind :: around) children plain.2
    rw [strokes_of_window_eq_none h, rest, inner_nesting, Node.visits, List.flatMap_cons]
    rfl

/-- The strokes of some nodes are those of the nodes that are visited, one after the other. -/
theorem strokesOfList_eq_flatMap (h : c.window = none) (around : List NodeKind) (ns : List Node)
    (plain : ∀ m ∈ Node.descendantsOfList ns, m.IsPlain) :
  c.strokesOfList (nesting around) ns = (Node.visitsOfList around ns).flatMap c.strokesAt
  := by
  match ns with
  | [] => rfl
  | n :: ns =>
    rw [Node.descendantsOfList, List.forall_mem_append] at plain
    rw [strokesOfList, Node.visitsOfList, List.flatMap_append,
      strokes_eq_flatMap h around n plain.1, strokesOfList_eq_flatMap h around ns plain.2]

end

end Canvas

/-! ### What strokes do to one attribute -/

namespace Stroke

variable {α : Type}

/-- A stroke leaves something alone. -/
def Keeps (f : Attributes → α) (k : Stroke) : Prop :=
  ∀ a, f (k.touch a) = f a

/-- A stroke changes something in one way in all of a span. -/
def Does (f : Attributes → α) (g : α → α) (span : Span) (k : Stroke) : Prop :=
  k.span = span ∧ ∀ a, f (k.touch a) = g (f a)

end Stroke

section

variable {α : Type} {f : Attributes → α} {g : α → α} {span : Span} {ks : List Stroke}

/-- What no stroke changes stays as it is. -/
theorem touches_of_keeps (h : ∀ k ∈ ks, k.Keeps f) (u : Nat) (a : Attributes) :
  f (touches ks u a) = f a
  := by
  induction ks generalizing a with
  | nil => rfl
  | cons k ks ih =>
    rw [List.forall_mem_cons] at h
    rw [touches_cons, ih h.2]
    split
    · apply h.1
    · rfl

open Classical in
/-- Some strokes change something in one way or not at all, where changing it twice is
changing it once. -/
theorem touches_of_does_or_keeps (idem : ∀ x, g (g x) = g x)
    (each : ∀ k ∈ ks, k.Does f g span ∨ k.Keeps f) (u : Nat) (a : Attributes) :
  f (touches ks u a) = if u ∈ span ∧ ∃ k ∈ ks, k.Does f g span then g (f a) else f a
  := by
  induction ks generalizing a with
  | nil => simp
  | cons k ks ih =>
    rw [List.forall_mem_cons] at each
    rw [touches_cons, ih each.2]
    simp only [List.exists_mem_cons_iff]
    by_cases does : k.Does f g span
    · simp only [does, true_or, and_true]
      rw [does.1]
      by_cases inside : u ∈ span
      · rw [if_pos inside, if_pos inside, does.2, idem, ite_self]
      · rw [if_neg inside, if_neg inside, if_neg (fun both => inside both.1)]
    · have same : f (if u ∈ k.span then k.touch a else a) = f a := by
        split
        · apply each.1.resolve_left does
        · rfl
      rw [same]
      simp only [does, false_or]

/-- At least one of some strokes changes something, and the others do the same or leave it
alone. -/
theorem touches_of_does (idem : ∀ x, g (g x) = g x) (each : ∀ k ∈ ks, k.Does f g span ∨ k.Keeps f)
    (one : ∃ k ∈ ks, k.Does f g span) (u : Nat) (a : Attributes) :
  f (touches ks u a) = if u ∈ span then g (f a) else f a
  := by
  rw [touches_of_does_or_keeps idem each]
  simp only [one, and_true]

end

namespace Stroke

/-- What a stroke changes. -/
def key : Stroke → AttributeKey
  | set _ value => value.key
  | layOut .. => .layout
  | addTrait .. => .font

@[simp] theorem key_layOut (span : Span) (layout : Layout) :
  (layOut span layout).key = .layout
  := rfl

@[simp] theorem key_addTrait (span : Span) (body : Font) (t : FontTrait) :
  (addTrait span body t).key = .font
  := rfl

theorem keeps_font {k : Stroke} (h : k.key ≠ .font) :
  k.Keeps Attributes.font
  := by
  intro a
  cases k with
  | set span value =>
    cases value with
    | font f => apply absurd rfl h
    | _ => rfl
  | layOut span layout =>
    rw [touch, Attributes.layOut]
    split <;> rfl
  | addTrait span body font => apply absurd rfl h

theorem keeps_layout {k : Stroke} (h : k.key ≠ .layout) :
  k.Keeps Attributes.layout
  := by
  intro a
  cases k with
  | set span value =>
    cases value with
    | layout l => apply absurd rfl h
    | _ => rfl
  | layOut span layout => apply absurd rfl h
  | addTrait span body font => rfl

end Stroke

/-! ### The strokes of each kind of node -/

namespace Canvas

variable {c : Canvas} {e : Extent} {k : Stroke}

theorem mem_heading {level : Nat} (h : k ∈ c.heading level e) :
  k = .set e.units (.font (c.style.headingFont level))
    ∨ k = .layOut e.units (c.style.headingLayout level) ∨ k.key = .foreground
  := by
  rcases List.mem_append.mp h with h | h
  · simp only [List.mem_cons, List.not_mem_nil, or_false] at h
    rcases h with rfl | rfl | rfl
    · simp
    · simp [Stroke.key, Attribute.key]
    · simp
  · split at h
    · obtain rfl := List.mem_singleton.mp h
      simp [markup, Stroke.key, Attribute.key]
    · cases h

theorem mem_paragraph {depth : Nat} :
  k ∈ c.paragraph depth e ↔ depth ≠ 0 ∧ k = .layOut e.units (c.style.nestedLayout depth)
  := by
  rw [paragraph]
  split <;> simp_all

theorem mem_quote {depth : Nat} (h : k ∈ c.quote depth e) :
  k = .layOut e.units (c.style.quoteLayout depth) ∨ k.key = .foreground
  := by
  rcases List.mem_append.mp h with h | h
  · simp only [List.mem_cons, List.not_mem_nil, or_false] at h
    rcases h with rfl | rfl
    · simp [Stroke.key, Attribute.key]
    · simp
  · obtain ⟨marker, -, h⟩ := List.mem_filterMap.mp h
    obtain ⟨start, -, h⟩ := Option.bind_eq_some_iff.mp h
    obtain ⟨stop, -, rfl⟩ := Option.map_eq_some_iff.mp h
    simp [markup, Stroke.key, Attribute.key]

theorem mem_item {depth : Nat} (h : k ∈ c.item depth e) :
  k = .layOut e.units (c.style.itemLayout depth) ∨ k.key = .foreground
  := by
  rcases List.mem_append.mp h with h | h
  · obtain rfl := List.mem_singleton.mp h
    simp
  · split at h
    · cases h
    · split at h
      · cases h
      · obtain rfl := List.mem_singleton.mp h
        simp [markup, Stroke.key, Attribute.key]

theorem mem_emphasis {n : Nat} {t : FontTrait} (h : k ∈ c.emphasis n t e) :
  k = .addTrait ⟨e.units.start + n, e.units.stop - n⟩ c.style.profile.body t
    ∨ k.key = .foreground
  := by
  rcases List.mem_append.mp h with h | h
  · split at h
    · obtain rfl := List.mem_singleton.mp h
      simp
    · cases h
  · obtain ⟨s, -, rfl⟩ := List.mem_map.mp h
    simp [markup, Stroke.key, Attribute.key]

theorem mem_code (h : k ∈ c.code e) :
  k = .set e.units (.font c.style.profile.mono) ∨ k.key = .background ∨ k.key = .foreground
  := by
  rcases List.mem_append.mp h with h | h
  · rcases List.mem_cons.mp h with rfl | h
    · simp
    · split at h
      · obtain rfl := List.mem_singleton.mp h
        simp [Stroke.key, Attribute.key]
      · cases h
  · obtain ⟨s, -, rfl⟩ := List.mem_map.mp h
    simp [markup, Stroke.key, Attribute.key]

theorem mem_link {destination : String} (h : k ∈ c.link destination e) :
  k.key = .foreground ∨ k.key = .underline ∨ k.key = .link
  := by
  rw [link] at h
  split at h
  · cases h
  · split at h
    · cases h
    · simp only [List.mem_append, List.mem_ite_nil_right, List.mem_cons, List.not_mem_nil,
        or_false] at h
      rcases h with ⟨-, h | h⟩ | h
      · rcases h with rfl | rfl <;> simp [Stroke.key, Attribute.key]
      · split at h
        · obtain rfl := List.mem_singleton.mp h
          simp [Stroke.key, Attribute.key]
        · cases h
      · rcases h with rfl | rfl <;> simp [markup, Stroke.key, Attribute.key]

end Canvas

/-! ### Walking without a window -/

/-- The strokes of some nodes, one node after the other. -/
def Canvas.strokesOfVisits (c : Canvas) (vs : List Visit) : List Stroke :=
  vs.flatMap c.strokesAt

/-- What some nodes make of a code unit, as far as it depends on nothing else. -/
theorem Canvas.touches_strokesOfVisits {α : Type} {f : Attributes → α} {c : Canvas}
    {g : α → Visit → α} {u : Nat} (each : ∀ v a, f (touches (c.strokesAt v) u a) = g (f a) v)
    (vs : List Visit) (a : Attributes) :
  f (touches (c.strokesOfVisits vs) u a) = vs.foldl g (f a)
  := by
  induction vs generalizing a with
  | nil => rfl
  | cons v vs ih =>
    rw [strokesOfVisits, List.flatMap_cons, touches_append, ← strokesOfVisits, ih, each,
      List.foldl_cons]

namespace Buffer

/-- What a walk without a window is of. -/
def canvas (b : Buffer) (text : IndexedText) (style : Style) (base : Nat) : Canvas :=
  ⟨text, style, base, b.length, none⟩

/-- A walk without a window touches each code unit with the strokes of the nodes in the order
in which they are visited. -/
theorem canonicalAt_walk_none (b : Buffer) (text : IndexedText) (style : Style) (base : Nat)
    {document : Node} (plain : document.HasPlainCode) (u : Nat) :
  (b.walk text style base none document).canonicalAt u
    = (b.canonicalAt u).map fun a =>
      (touches ((b.canvas text style base).strokesOfVisits (document.visits [])) u a).canonical
  := by
  have flat := Canvas.strokes_eq_flatMap (c := b.canvas text style base) rfl [] document plain
  rw [walk, canonicalAt_strokes, if_pos (shown_none u), Canvas.strokesOfVisits, ← flat]
  rfl

end Buffer

end LiveMarkdown
