import LiveMarkdown.Proofs.Markdown.Addresses
import LiveMarkdown.Proofs.Markdown.Events

/-!
# The document that events describe

A document is built from events that begin and end nodes, whether or not each beginning has its end.
Its nodes are the root and one node for each event that makes one, in the order of the events.  A
node is inside another one if that one was open when its event came: it had begun, and its end, if
it has one, was still to come.

* The document so far is what would be built if no more events came.  An end does not change it, and
  a beginning adds a node without children to the innermost open node, as a leaf does.
* So nodes are added at the edge of the document, and the address of the innermost open node leads
  through all open nodes.
-/

namespace LiveMarkdown

namespace OpenNode

/-- A child that is added comes last. -/
theorem grows_add (t : OpenNode) (m : Node) :
  Node.Grows m [t.children.length] t.close (t.add m).close
  := by
  rw [close, close, add, List.reverse_cons, ← List.length_reverse]
  exact .here t.kind (some t.span) t.children.reverse

/-- A child that grows is the last one. -/
theorem grows_of_grows (t : OpenNode) {m n n' : Node} {address : List Nat}
    (h : Node.Grows m address n n') :
  Node.Grows m (t.children.length :: address) (t.add n).close (t.add n').close
  := by
  rw [close, close, add, add, List.reverse_cons, List.reverse_cons, ← List.length_reverse]
  exact .inLast t.kind (some t.span) t.children.reverse h

end OpenNode

namespace TreeBuilder

/-! ### The innermost open node -/

/-- The innermost open node. -/
def top (b : TreeBuilder) : OpenNode :=
  b.inner.head?.getD b.root

/-- The address of the innermost open node.  An open node comes after the other children of the node
around it. -/
def addressOf (root : OpenNode) : List OpenNode → List Nat
  | [] => []
  | _ :: outer => addressOf root outer ++ [(top ⟨outer, root⟩).children.length]

/-- The address of the innermost open node in the document so far. -/
def address (b : TreeBuilder) : List Nat :=
  addressOf b.root b.inner

/-- The address of the next node. -/
def nextAddress (b : TreeBuilder) : List Nat :=
  b.address ++ [b.top.children.length]

theorem address_start (b : TreeBuilder) (kind : NodeKind) (span : Span) :
  (b.step (.start kind span)).address = b.nextAddress
  := rfl

theorem address_add (b : TreeBuilder) (n : Node) :
  (b.add n).address = b.address
  := by
  obtain ⟨inner, root⟩ := b
  cases inner with
  | nil => rfl
  | cons t outer => rfl

theorem address_close (b : TreeBuilder) :
  b.close.address = b.address.dropLast
  := by
  obtain ⟨inner, root⟩ := b
  cases inner with
  | nil => rfl
  | cons t outer =>
    rw [close, address_add, address, address, addressOf, List.dropLast_concat]

/-! ### The document so far -/

/-- A node that ends is in its place already. -/
theorem finish_close (b : TreeBuilder) :
  b.close.finish = b.finish
  := by
  obtain ⟨inner, root⟩ := b
  cases inner with
  | nil => rfl
  | cons t outer =>
    cases outer with
    | nil => rfl
    | cons t' outer => rfl

/-- The document grows where the last child of the innermost open node does. -/
theorem grows_of_grows (root : OpenNode) (inner : List OpenNode) {m n n' : Node}
    {address : List Nat} (h : Node.Grows m address n n') :
  Node.Grows m (nextAddress ⟨inner, root⟩ ++ address) (add ⟨inner, root⟩ n).finish
    (add ⟨inner, root⟩ n').finish
  := by
  induction inner generalizing n n' address with
  | nil => exact root.grows_of_grows h
  | cons t outer ih =>
    have around := ih (t.grows_of_grows h)
    rw [← finish_close (add _ n), ← finish_close (add _ n'), nextAddress, List.append_assoc]
    exact around

/-- A node is added at the edge of the document. -/
theorem grows_add (b : TreeBuilder) (m : Node) :
  Node.Grows m b.nextAddress b.finish (b.add m).finish
  := by
  obtain ⟨inner, root⟩ := b
  cases inner with
  | nil => exact root.grows_add m
  | cons t outer =>
    rw [← finish_close ⟨t :: outer, root⟩, ← finish_close (add _ m)]
    exact grows_of_grows root outer (t.grows_add m)

variable {e : Event} {l : NodeKind × Option Span}

/-- An event that makes a node adds one without children. -/
theorem finish_step (b : TreeBuilder) (h : e.label? = some l) :
  (b.step e).finish = (b.add ⟨l.1, l.2, []⟩).finish
  := by
  cases e with
  | start kind span =>
    obtain rfl := Option.some.inj h
    exact (finish_close _).symm
  | leaf kind span =>
    obtain rfl := Option.some.inj h
    rfl
  | stop => cases h
  | other => cases h

/-- An event that makes no node does not change the document so far. -/
theorem finish_step_of_none (b : TreeBuilder) (h : e.label? = none) :
  (b.step e).finish = b.finish
  := by
  cases e with
  | stop => exact b.finish_close
  | other => rfl
  | start kind span => cases h
  | leaf kind span => cases h

/-- An event adds the address of the node that it makes. -/
theorem addresses_step (b : TreeBuilder) (e : Event) :
  (b.step e).finish.addresses = b.finish.addresses ++ e.label?.toList.map fun _ => b.nextAddress
  := by
  cases made : e.label? with
  | none =>
    rw [b.finish_step_of_none made]
    exact (List.append_nil _).symm
  | some l =>
    rw [b.finish_step made, (b.grows_add _).addresses_eq rfl]
    rfl

/-- An event adds the node that it makes. -/
theorem descendants_step (b : TreeBuilder) (e : Event) :
  (b.step e).finish.descendants.map Node.label
    = b.finish.descendants.map Node.label ++ e.label?.toList
  := by
  cases made : e.label? with
  | none =>
    rw [b.finish_step_of_none made]
    exact (List.append_nil _).symm
  | some l =>
    rw [b.finish_step made, (b.grows_add _).descendants_eq rfl]
    rfl

/-! ### After many events -/

/-- What is built after some events, in a text of `size` bytes. -/
def afterEvents (size : Nat) (es : List Event) : TreeBuilder :=
  es.foldl step ⟨[], ⟨.document, ⟨0, size⟩, []⟩⟩

variable {size : Nat} {es : List Event} {i j d : Nat}

theorem afterEvents_concat (size : Nat) (es : List Event) (e : Event) :
  afterEvents size (es ++ [e]) = (afterEvents size es).step e
  := List.foldl_concat ..

/-- The nodes of the document are the root and one node for each event that makes one, in the order of
the events. -/
theorem descendants_afterEvents (size : Nat) (es : List Event) :
  (afterEvents size es).finish.descendants.map Node.label
    = (.document, some ⟨0, size⟩) :: es.filterMap Event.label?
  := by
  induction es using List.reverseRecOn with
  | nil => rfl
  | append_singleton es e ih =>
    rw [afterEvents_concat, descendants_step, ih, List.filterMap_append, List.cons_append,
      List.filterMap_cons]
    cases e.label? <;> rfl

theorem length_addresses_afterEvents (size : Nat) (es : List Event) :
  (afterEvents size es).finish.addresses.length = Event.nodeNumber es es.length
  := by
  have count := congrArg List.length (descendants_afterEvents size es)
  rw [List.length_map, List.length_cons] at count
  rw [Node.length_addresses, count, Event.nodeNumber, List.take_length]

/-- More events do not change the addresses. -/
theorem addresses_prefix_append (size : Nat) (xs ys : List Event) :
  (afterEvents size xs).finish.addresses <+: (afterEvents size (xs ++ ys)).finish.addresses
  := by
  induction ys using List.reverseRecOn with
  | nil => rw [List.append_nil]
  | append_singleton ys e ih =>
    rw [← List.append_assoc, afterEvents_concat, addresses_step]
    exact ih.trans (List.prefix_append _ _)

theorem getElem?_addresses_append {xs : List Event} {k : Nat} {address : List Nat}
    (ys : List Event) (h : (afterEvents size xs).finish.addresses[k]? = some address) :
  (afterEvents size (xs ++ ys)).finish.addresses[k]? = some address
  := by
  obtain ⟨inside, rfl⟩ := List.getElem?_eq_some_iff.mp h
  exact List.prefix_iff_getElem?.mp (addresses_prefix_append size xs ys) k inside

/-- What an event makes is at the next address. -/
theorem getElem?_addresses_concat (size : Nat) (es : List Event) {e : Event}
    (h : e.label?.isSome) :
  (afterEvents size (es ++ [e])).finish.addresses[Event.nodeNumber es es.length]?
    = some (afterEvents size es).nextAddress
  := by
  obtain ⟨l, made⟩ := Option.isSome_iff_exists.mp h
  rw [afterEvents_concat, addresses_step, made, ← length_addresses_afterEvents size es]
  exact List.getElem?_concat_length

/-! ### The way to the innermost open node -/

/-- An event ends or begins the innermost open node or none, and the way through the others stays the
same. -/
theorem rdrop_address_step (b : TreeBuilder) {c : Nat} (h : e.depth? c = some d) :
  (b.step e).address.rdrop d = b.address.rdrop c
  := by
  cases e with
  | start kind span =>
    obtain rfl := Option.some.inj h
    rw [address_start, nextAddress, List.rdrop_concat_succ]
  | stop =>
    obtain rfl := Event.depth?_stop_iff.mp h
    rw [step, address_close, List.rdrop, List.rdrop, List.length_dropLast, List.dropLast_eq_take,
      List.take_take]
    congr 1
    omega
  | leaf kind span =>
    obtain rfl := Option.some.inj h
    rw [step, address_add]
  | other =>
    obtain rfl := Option.some.inj h
    rfl

/-- A place on the way after an event was on the way before it, unless the event begins a node. -/
theorem exists_depth_of_lt (b : TreeBuilder) (h : d < (b.step e).address.length) :
  (∃ c < b.address.length, e.depth? c = some d) ∨ (∃ kind span, e = .start kind span) ∧ d = 0
  := by
  cases e with
  | start kind span =>
    cases d with
    | zero => exact .inr ⟨⟨kind, span, rfl⟩, rfl⟩
    | succ c =>
      rw [address_start, nextAddress, List.length_append, List.length_singleton] at h
      exact .inl ⟨c, Nat.lt_of_succ_lt_succ h, rfl⟩
  | stop =>
    rw [step, address_close, List.length_dropLast] at h
    exact .inl ⟨d + 1, by omega, Event.depth?_stop_iff.mpr rfl⟩
  | leaf kind span =>
    rw [step, address_add] at h
    exact .inl ⟨d, h, rfl⟩
  | other => exact .inl ⟨d, h, rfl⟩

/-- The open nodes are those that the address of the innermost one leads through: with `d` open nodes
inside it, a node is at this address without its last `d` steps. -/
structure LeadsThroughOpen (size : Nat) (es : List Event) : Prop where
  /-- An open node is on the way. -/
  place : ∀ {i d}, Event.OpenAt es i d →
    (afterEvents size es).finish.addresses[Event.nodeNumber es i]?
      = some ((afterEvents size es).address.rdrop d)
  /-- The nodes on the way, apart from the root, are open. -/
  exists_open : ∀ {d}, d < (afterEvents size es).address.length → ∃ i, Event.OpenAt es i d

theorem LeadsThroughOpen.concat (h : LeadsThroughOpen size es) (e : Event) :
  LeadsThroughOpen size (es ++ [e])
  := by
  constructor
  · intro i d isOpen
    rcases Event.openAt_concat.mp isOpen with ⟨c, before, depth⟩ | ⟨rfl, ⟨kind, span, rfl⟩, rfl⟩
    · have inside := Event.lt_length_of_beginsAt before.1
      rw [Event.nodeNumber_append_of_le inside.le, afterEvents_concat, rdrop_address_step _ depth,
        ← afterEvents_concat]
      exact getElem?_addresses_append [e] (h.place before)
    · have here : (afterEvents size (es ++ [.start kind span])).address
          = (afterEvents size es).nextAddress := by
        rw [afterEvents_concat, address_start]
      rw [Event.nodeNumber_append_of_le le_rfl, List.rdrop_zero, here]
      exact getElem?_addresses_concat size es rfl
  · intro d short
    rw [afterEvents_concat] at short
    rcases exists_depth_of_lt _ short with ⟨c, before, depth⟩ | ⟨start, rfl⟩
    · obtain ⟨i, isOpen⟩ := h.exists_open before
      exact ⟨i, Event.openAt_concat.mpr (.inl ⟨c, isOpen, depth⟩)⟩
    · exact ⟨es.length, Event.openAt_concat.mpr (.inr ⟨rfl, start, rfl⟩)⟩

theorem leadsThroughOpen (size : Nat) (es : List Event) :
  LeadsThroughOpen size es
  := by
  induction es using List.reverseRecOn with
  | nil =>
    constructor
    · rintro i d ⟨⟨kind, span, found⟩, -⟩
      cases found
    · intro d short
      cases short
  | append_singleton es e ih => exact ih.concat e

/-- Each place on the way, apart from the root, is that of an open node. -/
theorem exists_openAt_of_onWay (size : Nat) {outer : List Nat} (nonempty : outer ≠ [])
    (onWay : outer <+: (afterEvents size es).address) :
  ∃ i d, Event.OpenAt es i d ∧ (afterEvents size es).address.rdrop d = outer
  := by
  have short := onWay.length_le
  have positive := List.length_pos_iff.mpr nonempty
  have steps : (afterEvents size es).address.length - outer.length
      < (afterEvents size es).address.length := by
    omega
  obtain ⟨i, isOpen⟩ := (leadsThroughOpen size es).exists_open steps
  refine ⟨i, _, isOpen, ?_⟩
  rw [List.rdrop, Nat.sub_sub_self short, ← List.prefix_iff_eq_take.mp onWay]

/-! ### Nodes inside other nodes -/

/-- The node that an event makes is at the next address when the event comes. -/
theorem getElem?_addresses_of_makesAt (size : Nat) (h : Event.MakesAt es j) :
  (afterEvents size es).finish.addresses[Event.nodeNumber es j]?
    = some (afterEvents size (es.take j)).nextAddress
  := by
  obtain ⟨e, found, makes⟩ := h
  obtain ⟨inside, rfl⟩ := List.getElem?_eq_some_iff.mp found
  have added := getElem?_addresses_concat size (es.take j) makes
  rw [List.length_take, Nat.min_eq_left inside.le, Event.nodeNumber_take le_rfl,
    List.take_append_getElem] at added
  have later := getElem?_addresses_append (es.drop (j + 1)) added
  rwa [List.take_append_drop] at later

/-- A node that is open when an event comes keeps its place on the way. -/
theorem getElem?_addresses_of_openAt (size : Nat) (h : Event.OpenAt (es.take j) i d) :
  (afterEvents size es).finish.addresses[Event.nodeNumber es i]?
    = some ((afterEvents size (es.take j)).address.rdrop d)
  := by
  have before := (Event.beginsAt_take.mp h.1).2
  have later := getElem?_addresses_append (es.drop j) ((leadsThroughOpen size (es.take j)).place h)
  rwa [List.take_append_drop, Event.nodeNumber_take before.le] at later

/-- A node is inside those that were open when its event came. -/
theorem contains_iff_openAt (size : Nat) (hi : Event.MakesAt es i) (hj : Event.MakesAt es j) :
  (Node.ofEvents size es).Contains (Event.nodeNumber es i) (Event.nodeNumber es j)
    ↔ ∃ d, Event.OpenAt (es.take j) i d
  := by
  have place := getElem?_addresses_of_makesAt size hj
  constructor
  · rintro ⟨outer, foundOuter, inner, foundInner, inside, apart⟩
    obtain rfl : _ = inner := Option.some.inj (place.symm.trans foundInner)
    have onWay := (List.prefix_concat_iff.mp inside).resolve_left apart
    have distinct := Node.nodup_addresses (Node.ofEvents size es)
    have known := (List.getElem?_eq_some_iff.mp foundOuter).1
    have nonempty : outer ≠ [] := by
      rintro rfl
      have first := Node.getElem?_addresses_zero (Node.ofEvents size es)
      cases (List.getElem?_inj known distinct).mp (foundOuter.trans first.symm)
    -- the outer node is on the way to the innermost open node, so it is an open node
    obtain ⟨i', d, isOpen, same⟩ := exists_openAt_of_onWay size nonempty onWay
    have foundOpen := getElem?_addresses_of_openAt size isOpen
    rw [same] at foundOpen
    have number := (List.getElem?_inj known distinct).mp (foundOuter.trans foundOpen.symm)
    obtain rfl := Event.nodeNumber_inj hi (Event.beginsAt_take.mp isOpen.1).1.makesAt number
    exact ⟨d, isOpen⟩
  · rintro ⟨d, isOpen⟩
    have onWay : (afterEvents size (es.take j)).address.rdrop d
        <+: (afterEvents size (es.take j)).address :=
      List.take_prefix _ _
    refine ⟨_, getElem?_addresses_of_openAt size isOpen, _, place,
      onWay.trans (List.prefix_append _ _), ?_⟩
    intro same
    have shorter := onWay.length_le
    rw [same, nextAddress, List.length_append, List.length_singleton] at shorter
    omega

/-- A node is inside those that had begun before its event and did not end before it. -/
theorem contains_iff (size : Nat) (hi : Event.MakesAt es i) (hj : Event.MakesAt es j) :
  (Node.ofEvents size es).Contains (Event.nodeNumber es i) (Event.nodeNumber es j)
    ↔ Event.BeginsAt es i ∧ i < j ∧ ∀ stop, Event.Matches es i stop → j < stop
  := by
  have noEnd {stop : Nat} (pair : Event.Matches es i stop) : j ≠ stop := by
    rintro rfl
    obtain ⟨e, found, makes⟩ := hj
    obtain rfl := Option.some.inj (pair.ends.symm.trans found)
    cases makes
  rw [contains_iff_openAt size hi hj]
  constructor
  · rintro ⟨d, begins, depth⟩
    obtain ⟨begins, before⟩ := Event.beginsAt_take.mp begins
    refine ⟨begins, before, ?_⟩
    intro stop pair
    have isOpen : (Event.depthAfter? 0 (Event.between es i j)).isSome :=
      Option.isSome_iff_exists.mpr ⟨d, depth⟩
    exact Nat.lt_of_le_of_ne ((Event.isSome_depthAfter?_iff begins).mp isOpen stop pair)
      (noEnd pair)
  · rintro ⟨begins, before, later⟩
    have isOpen := (Event.isSome_depthAfter?_iff begins).mpr fun stop pair => (later stop pair).le
    obtain ⟨d, depth⟩ := Option.isSome_iff_exists.mp isOpen
    exact ⟨d, Event.beginsAt_take.mpr ⟨begins, before⟩, depth⟩

end TreeBuilder

namespace Node

/-- A document is the tree of some events in a text of `size` bytes. -/
structure IsTreeOf (size : Nat) (es : List Event) (document : Node) : Prop where
  /-- The visit with a stack gives the nodes in the order of their list. -/
  visit : traverse [document] = document.descendants
  /-- The nodes are the root and one node for each event that makes one, in the order of the
  events. -/
  nodes : document.descendants.map label = (.document, some ⟨0, size⟩) :: es.filterMap Event.label?
  /-- An event makes the node with its number. -/
  made : ∀ {i : Nat} {e : Event} {l : NodeKind × Option Span}, es[i]? = some e →
    e.label? = some l → (document.descendants.map label)[Event.nodeNumber es i]? = some l
  /-- Each node is at its address. -/
  located : document.addresses.map document.at? = document.descendants.map some
  /-- The root contains all other nodes. -/
  root : ∀ {k : Nat}, 0 < k → k < document.descendants.length → document.Contains 0 k
  /-- A node contains those whose events come after its beginning and not after its end, if there is
  one. -/
  inside : ∀ {i j : Nat}, Event.MakesAt es i → Event.MakesAt es j →
    (document.Contains (Event.nodeNumber es i) (Event.nodeNumber es j)
      ↔ Event.BeginsAt es i ∧ i < j ∧ ∀ stop, Event.Matches es i stop → j < stop)
  /-- If the events are balanced, a node contains those whose events are between its beginning and its
  end. -/
  insideBalanced : Event.IsBalanced es → ∀ {i j : Nat}, Event.MakesAt es i → Event.MakesAt es j →
    (document.Contains (Event.nodeNumber es i) (Event.nodeNumber es j)
      ↔ ∃ stop, Event.Matches es i stop ∧ i < j ∧ j < stop)

/-- From all events, balanced or not, their tree is built. -/
theorem isTreeOf_ofEvents (size : Nat) (es : List Event) :
  IsTreeOf size es (ofEvents size es)
  := by
  have nodes := TreeBuilder.descendants_afterEvents size es
  constructor
  · rw [traverse_eq, descendantsOfList, descendantsOfList, List.append_nil]
  · exact nodes
  · intro i e l found made
    rw [ofEvents, ← TreeBuilder.afterEvents, nodes, Event.getElem?_nodeNumber found made]
  · exact map_at?_addresses _
  · exact contains_zero
  · exact TreeBuilder.contains_iff size
  · intro balanced i j hi hj
    rw [TreeBuilder.contains_iff size hi hj]
    constructor
    · rintro ⟨begins, before, later⟩
      obtain ⟨stop, pair⟩ := Event.exists_matches balanced begins
      exact ⟨stop, pair, before, later stop pair⟩
    · rintro ⟨stop, pair, before, after⟩
      refine ⟨pair.start, before, ?_⟩
      intro stop' pair'
      rwa [pair'.unique pair]

/-- An end without a beginning is passed over, and what comes after a beginning without an end is
inside that node. -/
example :
  let document := ofEvents 9 [.stop, .start .paragraph ⟨0, 9⟩, .leaf .inlineCode ⟨2, 5⟩]
  document.descendants.map label
      = [(.document, some ⟨0, 9⟩), (.paragraph, some ⟨0, 9⟩), (.inlineCode, some ⟨2, 5⟩)]
    ∧ document.addresses = [[], [0], [0, 0]] :=
  ⟨rfl, rfl⟩

end Node

end LiveMarkdown
