import LiveMarkdown.Proofs.Markdown.Blocks

/-!
# The marks of the nodes of a document

A document is built from events, each of which puts a node somewhere, moves it or does
nothing.  So every node of the document of a text has the marks of its kind.
-/

namespace LiveMarkdown

open Markdown

variable {s : Source}

/-! ### Nodes -/

namespace Node

/-- A node and all nodes inside it have the marks of their kind. -/
def HasMarks (s : Source) (n : Node) : Prop :=
  ∀ m ∈ n.descendants, ∀ span ∈ m.span, s.IsMarked span m.kind

theorem forall_mem_descendantsOfList {P : Node → Prop} {ns : List Node} :
  (∀ m ∈ descendantsOfList ns, P m) ↔ ∀ n ∈ ns, ∀ m ∈ n.descendants, P m
  := by
  induction ns with
  | nil => simp [descendantsOfList]
  | cons n ns ih => rw [descendantsOfList, List.forall_mem_append, List.forall_mem_cons, ih]

theorem hasMarks_mk {kind : NodeKind} {span : Span} {children : List Node}
    (h : s.IsMarked span kind) (each : ∀ n ∈ children, n.HasMarks s) :
  HasMarks s ⟨kind, some span, children⟩
  := by
  unfold HasMarks
  rw [descendants, List.forall_mem_cons, forall_mem_descendantsOfList]
  refine ⟨?_, each⟩
  intro span' same
  cases same
  apply h

end Node

/-! ### Building a document -/

/-- A node that is being built and the nodes inside it have the marks of their kind. -/
structure OpenNode.HasMarks (s : Source) (n : OpenNode) : Prop where
  /-- The node itself. -/
  own : s.IsMarked n.span n.kind
  /-- The nodes inside it. -/
  children : ∀ m ∈ n.children, m.HasMarks s

namespace OpenNode.HasMarks

variable {n : OpenNode}

theorem add (h : n.HasMarks s) {m : Node} (hm : m.HasMarks s) :
  (n.add m).HasMarks s
  where
  own := h.own
  children := List.forall_mem_cons.mpr ⟨hm, h.children⟩

theorem close (h : n.HasMarks s) :
  n.close.HasMarks s
  := by
  apply Node.hasMarks_mk h.own
  simpa only [List.mem_reverse] using h.children

end OpenNode.HasMarks

/-- All nodes that are being built have the marks of their kind. -/
structure TreeBuilder.HasMarks (s : Source) (b : TreeBuilder) : Prop where
  /-- The nodes inside the root. -/
  inner : ∀ n ∈ b.inner, n.HasMarks s
  /-- The root. -/
  root : b.root.HasMarks s

namespace TreeBuilder.HasMarks

variable {b : TreeBuilder}

theorem add (h : b.HasMarks s) {n : Node} (hn : n.HasMarks s) :
  (b.add n).HasMarks s
  := by
  unfold TreeBuilder.add
  split
  next => exact ⟨h.inner, h.root.add hn⟩
  next top rest ht =>
    have each := h.inner
    rw [ht, List.forall_mem_cons] at each
    refine ⟨?_, h.root⟩
    rw [List.forall_mem_cons]
    exact ⟨each.1.add hn, each.2⟩

theorem close (h : b.HasMarks s) :
  b.close.HasMarks s
  := by
  unfold TreeBuilder.close
  split
  next => apply h
  next top rest ht =>
    have each := h.inner
    rw [ht, List.forall_mem_cons] at each
    have outer : HasMarks s { b with inner := rest } := ⟨each.2, h.root⟩
    apply outer.add each.1.close

theorem step (h : b.HasMarks s) {e : Event} (he : Markdown.HasMarks s e) :
  (b.step e).HasMarks s
  := by
  cases e with
  | start kind span =>
    have fresh : OpenNode.HasMarks s ⟨kind, span, []⟩ := ⟨he, by simp⟩
    exact ⟨List.forall_mem_cons.mpr ⟨fresh, h.inner⟩, h.root⟩
  | stop => apply h.close
  | leaf kind span =>
    apply h.add
    apply Node.hasMarks_mk he (by simp)
  | other => apply h

/-- The open nodes are put inside each other, the innermost first. -/
theorem finish (h : b.HasMarks s) :
  b.finish.HasMarks s
  := by
  unfold TreeBuilder.finish
  extract_lets put
  have closed (child : Option Node) (hc : ∀ m ∈ child, m.HasMarks s) (n : OpenNode)
      (hn : n.HasMarks s) : (put child n).HasMarks s := by
    cases child with
    | none => apply hn.close
    | some m => apply (hn.add (hc m rfl)).close
  have nested (ns : List OpenNode) (hns : ∀ n ∈ ns, n.HasMarks s) (child : Option Node)
      (hc : ∀ m ∈ child, m.HasMarks s) :
      ∀ m ∈ ns.foldl (fun child n => some (put child n)) child, m.HasMarks s := by
    induction ns generalizing child with
    | nil => apply hc
    | cons n ns ih =>
      rw [List.forall_mem_cons] at hns
      apply ih hns.2
      intro m hm
      cases hm
      apply closed child hc n hns.1
  apply closed _ (nested _ h.inner none (by simp)) _ h.root

end TreeBuilder.HasMarks

/-- Every node of the document of a text has the marks of its kind. -/
theorem Node.hasMarks_ofMarkdown (text : String) :
  (Node.ofMarkdown text).HasMarks (Source.ofString text)
  := by
  have start : TreeBuilder.HasMarks (Source.ofString text)
      ⟨[], ⟨.document, ⟨0, text.utf8ByteSize⟩, []⟩⟩ :=
    ⟨by simp, trivial, by simp⟩
  have all (es : List Event) (h : ∀ e ∈ es, Markdown.HasMarks (Source.ofString text) e)
      (b : TreeBuilder) (hb : b.HasMarks (Source.ofString text)) :
      (es.foldl TreeBuilder.step b).HasMarks (Source.ofString text) := by
    induction es generalizing b with
    | nil => apply hb
    | cons e es ih =>
      rw [List.forall_mem_cons] at h
      apply ih h.2 _ (hb.step h.1)
  apply (all _ (fun _ => hasMarks_of_mem_events) _ start).finish

end LiveMarkdown
