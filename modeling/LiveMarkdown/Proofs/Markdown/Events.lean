import LiveMarkdown.Markdown.Node
import Mathlib

/-!
# Beginnings and ends

The events of a document begin and end its nodes.  An end belongs to the node that was begun last, an
end without a beginning to no node, and a node without an end stays open.

* The events from a beginning to its end are balanced: all nodes that begin between the two end there,
  and no other ones do.  A node is open as long as its end is still to come.
* An event makes a node or none, and the nodes are numbered in the order of their events.
-/

namespace LiveMarkdown

/-! ### Beginnings and ends -/

namespace Event

/-- What the node that an event makes is.  The other events make none. -/
def label? : Event → Option (NodeKind × Option Span)
  | .start kind span => some (kind, some span)
  | .leaf kind span => some (kind, some span)
  | .stop => none
  | .other => none

/-- The number of open nodes after an event, if there were `d` of them before it and it does not end
another one. -/
def depth? (d : Nat) : Event → Option Nat
  | .start _ _ => some (d + 1)
  | .stop => if d = 0 then none else some (d - 1)
  | .leaf _ _ => some d
  | .other => some d

/-- The event at a position begins a node. -/
def BeginsAt (es : List Event) (i : Nat) : Prop :=
  ∃ kind span, es[i]? = some (.start kind span)

/-- The event at a position makes a node. -/
def MakesAt (es : List Event) (i : Nat) : Prop :=
  ∃ e ∈ es[i]?, e.label?.isSome

/-- The number of open nodes after some events, if there were `d` of them before these and they do not
end another one. -/
def depthAfter? (d : Nat) (es : List Event) : Option Nat :=
  es.foldlM depth? d

/-- Each beginning has its end, and each end its beginning. -/
def IsBalanced (es : List Event) : Prop :=
  depthAfter? 0 es = some 0

instance (es : List Event) : Decidable (IsBalanced es) :=
  inferInstanceAs (Decidable (depthAfter? 0 es = some 0))

/-- The events after position `i` and before position `j`. -/
def between (es : List Event) (i j : Nat) : List Event :=
  (es.take j).drop (i + 1)

/-- The node that begins at position `i` ends at position `stop`. -/
structure Matches (es : List Event) (i stop : Nat) : Prop where
  /-- A node begins. -/
  start : BeginsAt es i
  /-- The beginning comes first. -/
  lt : i < stop
  /-- A node ends. -/
  ends : es[stop]? = some .stop
  /-- All nodes that begin in between end there, and no other one does. -/
  balanced : IsBalanced (between es i stop)

variable {es xs ys : List Event} {i j d c : Nat}

/-- An end ends a node that is open. -/
theorem depth?_stop_iff :
  Event.stop.depth? d = some c ↔ d = c + 1
  := by
  cases d with
  | zero => exact iff_of_false (Option.some_ne_none c).symm (Nat.succ_ne_zero c).symm
  | succ d => rw [depth?, if_neg d.succ_ne_zero, Nat.add_sub_cancel, Option.some.injEq, Nat.succ_inj]

/-- Only an end has no depth after it, if no node is open before it. -/
theorem depth?_eq_none_iff {e : Event} :
  e.depth? d = none ↔ e = .stop ∧ d = 0
  := by
  cases e <;> simp [depth?]

theorem depthAfter?_append (d : Nat) (xs ys : List Event) :
  depthAfter? d (xs ++ ys) = (depthAfter? d xs).bind fun c => depthAfter? c ys
  := List.foldlM_append

theorem depthAfter?_cons (d : Nat) (e : Event) (es : List Event) :
  depthAfter? d (e :: es) = (e.depth? d).bind fun c => depthAfter? c es
  := List.foldlM_cons

/-- More nodes that are open before stay open. -/
theorem depthAfter?_add (k : Nat) (h : depthAfter? d es = some c) :
  depthAfter? (d + k) es = some (c + k)
  := by
  induction es generalizing d with
  | nil =>
    obtain rfl := Option.some.inj h
    rfl
  | cons e es ih =>
    rw [depthAfter?_cons] at h ⊢
    obtain ⟨next, step, rest⟩ := Option.bind_eq_some_iff.mp h
    have same : e.depth? (d + k) = some (next + k) := by
      cases e with
      | start kind span =>
        obtain rfl := Option.some.inj step
        rw [depth?, Nat.add_right_comm]
      | stop =>
        rw [depth?_stop_iff] at step ⊢
        rw [step, Nat.add_right_comm]
      | leaf kind span =>
        obtain rfl := Option.some.inj step
        rfl
      | other =>
        obtain rfl := Option.some.inj step
        rfl
    rw [same, Option.bind_some, ih rest]

/-- If some events end a node that was open before, there is a first end of this kind. -/
theorem exists_surplus (h : depthAfter? d es = none) :
  ∃ first rest, es = first ++ .stop :: rest ∧ depthAfter? d first = some 0
  := by
  induction es generalizing d with
  | nil => cases h
  | cons e es ih =>
    rw [depthAfter?_cons] at h
    cases step : e.depth? d with
    | none =>
      obtain ⟨rfl, rfl⟩ := depth?_eq_none_iff.mp step
      exact ⟨[], es, rfl, rfl⟩
    | some next =>
      rw [step, Option.bind_some] at h
      obtain ⟨first, rest, rfl, depth⟩ := ih h
      refine ⟨e :: first, rest, rfl, ?_⟩
      rw [depthAfter?_cons, step, Option.bind_some, depth]

theorem lt_length_of_beginsAt (h : BeginsAt es i) :
  i < es.length
  := by
  obtain ⟨kind, span, found⟩ := h
  exact (List.getElem?_eq_some_iff.mp found).1

theorem beginsAt_take :
  BeginsAt (es.take j) i ↔ BeginsAt es i ∧ i < j
  := by
  rw [BeginsAt, BeginsAt]
  by_cases before : i < j
  · simp only [List.getElem?_take_of_lt before, before, and_true]
  · simp only [List.getElem?_take_eq_none (Nat.le_of_not_lt before), before, and_false,
      reduceCtorEq, exists_false]

/-- The events before a later position are those before an end, the end, and others. -/
theorem exists_between_append {stop : Nat} (order : i < stop) (before : stop < j)
    (h : es[stop]? = some .stop) :
  ∃ rest, between es i j = between es i stop ++ .stop :: rest
  := by
  obtain ⟨inside, found⟩ := List.getElem?_eq_some_iff.mp h
  have size : stop < (es.take j).length := by
    rw [List.length_take]
    omega
  have first : (es.take j).take stop = es.take stop := by
    rw [List.take_take, Nat.min_eq_left before.le]
  have parts := List.take_append_drop stop (es.take j)
  rw [first, List.drop_eq_getElem_cons size, List.getElem_take, found] at parts
  refine ⟨(es.take j).drop (stop + 1), ?_⟩
  rw [between, between, ← parts, List.drop_append_of_le_length, parts]
  rw [List.length_take]
  omega

/-- A node ends before some position if the events up to there end one that was open before it: the
first such end is after the events inside the node. -/
theorem exists_matches_of_closed (h : BeginsAt es i) (closed : depthAfter? 0 (between es i j) = none) :
  ∃ stop, Matches es i stop ∧ stop < j
  := by
  obtain ⟨first, rest, parts, balanced⟩ := exists_surplus closed
  have found : (es.take j)[i + 1 + first.length]? = some .stop := by
    rw [← List.getElem?_drop, ← between, parts, List.getElem?_append_right le_rfl, Nat.sub_self,
      List.getElem?_cons_zero]
  have before : i + 1 + first.length < j := by
    have inside := (List.getElem?_eq_some_iff.mp found).1
    rw [List.length_take] at inside
    omega
  have middle : between es i (i + 1 + first.length) = first := by
    have shorter : es.take (i + 1 + first.length) = (es.take j).take (i + 1 + first.length) := by
      rw [List.take_take, Nat.min_eq_left before.le]
    rw [between, shorter, List.drop_take, Nat.add_sub_cancel_left, ← between, parts, List.take_left]
  rw [List.getElem?_take_of_lt before] at found
  refine ⟨_, ⟨h, by omega, found, ?_⟩, before⟩
  rw [IsBalanced, middle, balanced]

/-- A node that begins at some position is still open at a later one if it does not end before. -/
theorem isSome_depthAfter?_iff (h : BeginsAt es i) :
  (depthAfter? 0 (between es i j)).isSome ↔ ∀ stop, Matches es i stop → j ≤ stop
  := by
  constructor
  · intro isOpen stop pair
    by_contra before
    obtain ⟨rest, parts⟩ := exists_between_append pair.lt (Nat.lt_of_not_le before) pair.ends
    have closed : depthAfter? 0 (between es i j) = none := by
      rw [parts, depthAfter?_append, pair.balanced, Option.bind_some, depthAfter?_cons]
      rfl
    rw [closed] at isOpen
    cases isOpen
  · intro later
    by_contra closed
    obtain ⟨stop, pair, before⟩ :=
      exists_matches_of_closed h (Option.not_isSome_iff_eq_none.mp closed)
    exact Nat.not_lt.mpr (later stop pair) before

/-- A node has at most one end. -/
theorem Matches.unique {stop stop' : Nat} (h : Matches es i stop) (h' : Matches es i stop') :
  stop = stop'
  := by
  have isOpen {s : Nat} (pair : Matches es i s) : (depthAfter? 0 (between es i s)).isSome := by
    rw [pair.balanced]
    rfl
  have left := (isSome_depthAfter?_iff h.start).mp (isOpen h) stop' h'
  have right := (isSome_depthAfter?_iff h.start).mp (isOpen h') stop h
  exact Nat.le_antisymm left right

/-- In balanced events every node has an end: if the events after its beginning ended no node that was
open before, the node would be open in the end. -/
theorem exists_matches (balanced : IsBalanced es) (h : BeginsAt es i) :
  ∃ stop, Matches es i stop
  := by
  by_contra none
  have isOpen : (depthAfter? 0 (between es i es.length)).isSome := by
    rw [isSome_depthAfter?_iff h]
    intro stop pair
    exact absurd ⟨stop, pair⟩ none
  obtain ⟨kind, span, found⟩ := h
  obtain ⟨inside, start⟩ := List.getElem?_eq_some_iff.mp found
  obtain ⟨c, rest⟩ := Option.isSome_iff_exists.mp isOpen
  rw [between, List.take_length] at rest
  have parts : es = es.take i ++ .start kind span :: es.drop (i + 1) := by
    rw [← start, ← List.drop_eq_getElem_cons inside, List.take_append_drop]
  rw [IsBalanced, parts, depthAfter?_append] at balanced
  obtain ⟨d, -, more⟩ := Option.bind_eq_some_iff.mp balanced
  rw [depthAfter?_cons, depth?, Option.bind_some] at more
  have deeper := depthAfter?_add (d + 1) rest
  rw [Nat.zero_add, more] at deeper
  have depth := Option.some.inj deeper
  omega

/-- The events are not balanced if the end comes first. -/
example : ¬ IsBalanced [.stop, .start .paragraph ⟨0, 9⟩] := by
  decide

/-! ### Open nodes -/

/-- The node that begins at position `i` is open after some events, and `d` nodes inside it are. -/
def OpenAt (es : List Event) (i d : Nat) : Prop :=
  BeginsAt es i ∧ depthAfter? 0 (es.drop (i + 1)) = some d

/-- After one more event a node is open if it was and this is not its end, or if it begins with the
event. -/
theorem openAt_concat {e : Event} :
  OpenAt (es ++ [e]) i d
    ↔ (∃ c, OpenAt es i c ∧ e.depth? c = some d)
      ∨ i = es.length ∧ (∃ kind span, e = .start kind span) ∧ d = 0
  := by
  rw [OpenAt, BeginsAt]
  rcases Nat.lt_trichotomy i es.length with before | rfl | after
  · rw [List.getElem?_append_left before, List.drop_append_of_le_length before, depthAfter?_append,
      Option.bind_eq_some_iff]
    have last (c : Nat) : depthAfter? c [e] = e.depth? c := by
      rw [depthAfter?_cons]
      exact Option.bind_fun_some (e.depth? c)
    simp only [last, OpenAt, BeginsAt, before.ne, false_and, or_false, and_assoc, exists_and_left]
  · have old (c : Nat) : ¬ OpenAt es es.length c := by
      rintro ⟨begins, -⟩
      exact Nat.lt_irrefl _ (lt_length_of_beginsAt begins)
    simp only [old, false_and, exists_false, false_or, true_and, List.getElem?_concat_length,
      Option.some.injEq]
    rw [List.drop_eq_nil_of_le (by simp)]
    exact and_congr_right fun _ => Option.some.injEq 0 d ▸ eq_comm
  · have old (c : Nat) : ¬ OpenAt es i c := by
      rintro ⟨begins, -⟩
      exact Nat.lt_asymm after (lt_length_of_beginsAt begins)
    have none : (es ++ [e])[i]? = none := by
      rw [List.getElem?_eq_none_iff, List.length_append, List.length_singleton]
      omega
    simp [old, none, after.ne']

/-! ### The numbers of the nodes -/

/-- The number of the node that an event makes, in the order of the nodes.  The root is number
zero. -/
def nodeNumber (es : List Event) (i : Nat) : Nat :=
  ((es.take i).filterMap label?).length + 1

/-- The node that an event makes has its number in the list of all nodes. -/
theorem getElem?_nodeNumber {root l : NodeKind × Option Span} {e : Event} (found : es[i]? = some e)
    (made : e.label? = some l) :
  (root :: es.filterMap label?)[nodeNumber es i]? = some l
  := by
  obtain ⟨inside, rfl⟩ := List.getElem?_eq_some_iff.mp found
  have parts : es.filterMap label?
      = (es.take i).filterMap label? ++ l :: (es.drop (i + 1)).filterMap label? := by
    rw [← List.filterMap_cons_some made, ← List.filterMap_append, ← List.drop_eq_getElem_cons inside,
      List.take_append_drop]
  rw [nodeNumber, List.getElem?_cons_succ, parts, List.getElem?_append_right le_rfl, Nat.sub_self,
    List.getElem?_cons_zero]

theorem nodeNumber_append_of_le (h : i ≤ xs.length) :
  nodeNumber (xs ++ ys) i = nodeNumber xs i
  := by
  rw [nodeNumber, nodeNumber, List.take_append_of_le_length h]

theorem nodeNumber_take (h : i ≤ j) :
  nodeNumber (es.take j) i = nodeNumber es i
  := by
  rw [nodeNumber, nodeNumber, List.take_take, Nat.min_eq_left h]

/-- Later events make later nodes. -/
theorem nodeNumber_lt (h : MakesAt es i) (order : i < j) :
  nodeNumber es i < nodeNumber es j
  := by
  obtain ⟨e, found, makes⟩ := h
  obtain ⟨inside, rfl⟩ := List.getElem?_eq_some_iff.mp found
  obtain ⟨label, made⟩ := Option.isSome_iff_exists.mp makes
  have first : es.take (i + 1) = es.take i ++ [es[i]] := List.take_concat_get' es i inside |>.symm
  have more : es.take (i + 1) <+: es.take j := List.take_prefix_take_left order
  have count := (more.filterMap label?).length_le
  rw [first, List.filterMap_append, List.length_append, List.filterMap_cons_some made] at count
  simp only [nodeNumber, List.filterMap_nil, List.length_cons, List.length_nil] at count ⊢
  omega

theorem nodeNumber_inj (hi : MakesAt es i) (hj : MakesAt es j)
    (same : nodeNumber es i = nodeNumber es j) :
  i = j
  := by
  rcases Nat.lt_trichotomy i j with before | equal | after
  · exact absurd same (nodeNumber_lt hi before).ne
  · exact equal
  · exact absurd same (nodeNumber_lt hj after).ne'

theorem BeginsAt.makesAt (h : BeginsAt es i) :
  MakesAt es i
  := by
  obtain ⟨kind, span, found⟩ := h
  exact ⟨_, found, rfl⟩

end Event

end LiveMarkdown
