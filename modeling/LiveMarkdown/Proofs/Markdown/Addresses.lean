import LiveMarkdown.Markdown.Node
import Mathlib

/-!
# Where the nodes of a document are

A node of a document has an address, which says at each node on the way which child comes next.  So
two nodes that look alike are told apart, and a node is inside another one if its address goes on
from the address of that one.  A document can be visited with a stack of nodes that are still to be
visited, and this visits its nodes in the order of their list.

A document grows at its edge: a node is added as the last child of the root, or of its last child,
and so on.  A node without children that is added in this way comes last in the list of nodes, and
all other nodes keep their addresses.
-/

namespace LiveMarkdown

namespace Node

/-! ### Addresses -/

/-- The node at an address. -/
def at? : Node → List Nat → Option Node
  | n, [] => some n
  | n, i :: address => n.children[i]?.bind fun child => child.at? address

mutual

/-- The addresses of a node and all nodes inside it, each before the nodes inside it and in the order
of the text. -/
def addresses (n : Node) : List (List Nat) :=
  match n with
  | ⟨_, _, children⟩ => [] :: addressesOfList 0 children

/-- The addresses of some nodes, of which the first one is child number `i`, and of all nodes inside
them. -/
def addressesOfList (i : Nat) : List Node → List (List Nat)
  | [] => []
  | n :: ns => n.addresses.map (i :: ·) ++ addressesOfList (i + 1) ns

end

mutual

/-- The addresses lead to a node and the nodes inside it. -/
theorem map_at?_addresses (n : Node) :
  n.addresses.map n.at? = n.descendants.map some
  := by
  match n with
  | ⟨kind, span, children⟩ =>
    rw [addresses, descendants, List.map_cons, List.map_cons,
      ← map_at?_addressesOfList kind span [] children]
    rfl

/-- The addresses lead to some children and the nodes inside them. -/
theorem map_at?_addressesOfList (kind : NodeKind) (span : Option Span) (before ns : List Node) :
  (addressesOfList before.length ns).map (at? ⟨kind, span, before ++ ns⟩)
    = (descendantsOfList ns).map some
  := by
  match ns with
  | [] => rfl
  | n :: ns =>
    have here : (before ++ n :: ns)[before.length]? = some n := by simp
    have first : (n.addresses.map (before.length :: ·)).map (at? ⟨kind, span, before ++ n :: ns⟩)
        = n.addresses.map n.at? := by
      rw [List.map_map]
      congr 1
      funext address
      rw [Function.comp_apply, at?, here, Option.bind_some]
    have rest := map_at?_addressesOfList kind span (before ++ [n]) ns
    rw [List.length_append, List.length_singleton, List.append_assoc] at rest
    rw [addressesOfList, descendantsOfList, List.map_append, List.map_append, first,
      map_at?_addresses n, ← rest]
    rfl

end

theorem length_addresses (n : Node) :
  n.addresses.length = n.descendants.length
  := by
  have same := congrArg List.length (map_at?_addresses n)
  rwa [List.length_map, List.length_map] at same

theorem exists_of_mem_addressesOfList {i : Nat} {ns : List Node} {address : List Nat}
    (h : address ∈ addressesOfList i ns) :
  ∃ j rest, address = j :: rest ∧ i ≤ j
  := by
  induction ns generalizing i with
  | nil => cases h
  | cons n ns ih =>
    rcases List.mem_append.mp h with first | later
    · obtain ⟨rest, -, rfl⟩ := List.mem_map.mp first
      exact ⟨i, rest, rfl, le_rfl⟩
    · obtain ⟨j, rest, same, order⟩ := ih later
      exact ⟨j, rest, same, by omega⟩

mutual

/-- A node comes before the nodes inside it, and no node comes twice. -/
theorem pairwise_addresses (n : Node) :
  n.addresses.Pairwise fun earlier later => ¬ later <+: earlier
  := by
  match n with
  | ⟨kind, span, children⟩ =>
    rw [addresses, List.pairwise_cons]
    refine ⟨?_, pairwise_addressesOfList 0 children⟩
    intro address h inside
    obtain ⟨j, rest, rfl, -⟩ := exists_of_mem_addressesOfList h
    cases List.prefix_nil.mp inside

theorem pairwise_addressesOfList (i : Nat) (ns : List Node) :
  (addressesOfList i ns).Pairwise fun earlier later => ¬ later <+: earlier
  := by
  match ns with
  | [] => exact List.Pairwise.nil
  | n :: ns =>
    rw [addressesOfList, List.pairwise_append]
    refine ⟨?_, pairwise_addressesOfList (i + 1) ns, ?_⟩
    · rw [List.pairwise_map]
      apply (pairwise_addresses n).imp
      intro earlier later apart inside
      exact apart (List.cons_prefix_cons.mp inside).2
    · intro earlier first later h inside
      obtain ⟨rest, -, rfl⟩ := List.mem_map.mp first
      obtain ⟨j, rest', rfl, order⟩ := exists_of_mem_addressesOfList h
      have same := (List.cons_prefix_cons.mp inside).1
      omega

end

theorem nodup_addresses (n : Node) :
  n.addresses.Nodup
  := by
  apply (pairwise_addresses n).imp
  rintro earlier later apart rfl
  exact apart List.prefix_rfl

/-- In the list of nodes, node number `k` contains node number `l`: the address of the latter goes on
from the address of the former. -/
def Contains (n : Node) (k l : Nat) : Prop :=
  ∃ outer ∈ n.addresses[k]?, ∃ inner ∈ n.addresses[l]?, outer <+: inner ∧ outer ≠ inner

theorem getElem?_addresses_zero (n : Node) :
  n.addresses[0]? = some []
  := by
  cases n
  rw [addresses, List.getElem?_cons_zero]

/-- The first node contains all others. -/
theorem contains_zero {n : Node} {k : Nat} (positive : 0 < k) (inside : k < n.descendants.length) :
  n.Contains 0 k
  := by
  rw [← length_addresses] at inside
  refine ⟨[], n.getElem?_addresses_zero, n.addresses[k], List.getElem?_eq_getElem inside,
    List.nil_prefix, ?_⟩
  intro same
  have zero : n.addresses[k]? = n.addresses[0]? := by
    rw [getElem?_addresses_zero, same, List.getElem?_eq_getElem inside]
  exact positive.ne' ((List.getElem?_inj inside n.nodup_addresses).mp zero)

/-! ### Visits with a stack -/

theorem descendantsOfList_append (ns ms : List Node) :
  descendantsOfList (ns ++ ms) = descendantsOfList ns ++ descendantsOfList ms
  := by
  induction ns with
  | nil => rfl
  | cons n ns ih => rw [List.cons_append, descendantsOfList, descendantsOfList, ih, List.append_assoc]

theorem descendantsOfList_cons (n : Node) (ns : List Node) :
  descendantsOfList (n :: ns) = n :: descendantsOfList (n.children ++ ns)
  := by
  obtain ⟨kind, span, children⟩ := n
  rw [descendantsOfList, descendants, descendantsOfList_append, List.cons_append]

/-- The nodes that are visited with a stack: the node on top is visited, and its children take its
place, the first one on top. -/
def traverse : List Node → List Node
  | [] => []
  | n :: stack => n :: traverse (n.children ++ stack)
termination_by stack => (descendantsOfList stack).length
decreasing_by
  rw [descendantsOfList_cons, List.length_cons]
  exact Nat.lt_succ_self _

/-- With a stack the nodes are visited in the order of their list. -/
theorem traverse_eq (stack : List Node) :
  traverse stack = descendantsOfList stack
  := by
  fun_induction traverse stack with
  | case1 => rfl
  | case2 n stack ih => rw [descendantsOfList_cons, ih]

/-! ### Growth at the edge -/

/-- What a node is, apart from the nodes inside it. -/
def label (n : Node) : NodeKind × Option Span :=
  (n.kind, n.span)

/-- A document grows by a node: the node is added as the last child at the edge of the document, and
`address` is where it is then. -/
inductive Grows (m : Node) : (address : List Nat) → Node → Node → Prop where
  /-- The node is added to the root. -/
  | here (kind : NodeKind) (span : Option Span) (children : List Node) :
      Grows m [children.length] ⟨kind, span, children⟩ ⟨kind, span, children ++ [m]⟩
  /-- The last child of the root grows. -/
  | inLast (kind : NodeKind) (span : Option Span) (children : List Node) {address : List Nat}
      {last last' : Node} : Grows m address last last' →
      Grows m (children.length :: address) ⟨kind, span, children ++ [last]⟩
        ⟨kind, span, children ++ [last']⟩

theorem addressesOfList_append (i : Nat) (ns ms : List Node) :
  addressesOfList i (ns ++ ms) = addressesOfList i ns ++ addressesOfList (i + ns.length) ms
  := by
  induction ns generalizing i with
  | nil => rfl
  | cons n ns ih =>
    rw [List.cons_append, addressesOfList, addressesOfList, ih, List.append_assoc, List.length_cons,
      Nat.add_right_comm, Nat.add_assoc]

theorem addresses_concat (kind : NodeKind) (span : Option Span) (children : List Node) (last : Node) :
  addresses ⟨kind, span, children ++ [last]⟩
    = addresses ⟨kind, span, children⟩ ++ last.addresses.map (children.length :: ·)
  := by
  rw [addresses, addresses, addressesOfList_append, addressesOfList, addressesOfList,
    List.append_nil, Nat.zero_add, List.cons_append]

theorem descendants_concat (kind : NodeKind) (span : Option Span) (children : List Node)
    (last : Node) :
  (descendants ⟨kind, span, children ++ [last]⟩).map label
    = (descendants ⟨kind, span, children⟩).map label ++ last.descendants.map label
  := by
  rw [descendants, descendants, descendantsOfList_append, descendantsOfList, descendantsOfList,
    List.append_nil, List.map_cons, List.map_append]
  rfl

namespace Grows

variable {m n n' : Node} {address : List Nat}

/-- A node without children that is added comes last, and the others stay where they are. -/
theorem addresses_eq (h : Grows m address n n') (single : m.children = []) :
  n'.addresses = n.addresses ++ [address]
  := by
  induction h with
  | here kind span children =>
    obtain ⟨kind', span', children'⟩ := m
    obtain rfl : children' = [] := single
    rw [addresses_concat]
    rfl
  | inLast kind span children _ ih =>
    rw [addresses_concat, addresses_concat, ih, List.map_append, List.append_assoc]
    rfl

theorem descendants_eq (h : Grows m address n n') (single : m.children = []) :
  n'.descendants.map label = n.descendants.map label ++ [m.label]
  := by
  induction h with
  | here kind span children =>
    obtain ⟨kind', span', children'⟩ := m
    obtain rfl : children' = [] := single
    rw [descendants_concat]
    rfl
  | inLast kind span children _ ih =>
    rw [descendants_concat, descendants_concat, ih, List.append_assoc]

end Grows

end Node

end LiveMarkdown
