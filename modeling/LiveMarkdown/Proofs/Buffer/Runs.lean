import LiveMarkdown.Buffer.Runs
import LiveMarkdown.Proofs.Buffer.Equality

/-!
# Runs are canonical

The runs of a buffer are found in one scan.  They are not empty and follow one another from the start
of the buffer to its end, and two runs that meet have different attributes.  If no number is undefined
the attributes of each code unit are equal to those of its run.

There is only one such list of runs, up to equality: where the first runs of two lists stop at
different places, the code unit after the shorter one is in two runs with different attributes.  So
two buffers have equal runs exactly when they have equal attributes everywhere.
-/

namespace LiveMarkdown

/-! ### Spans that follow one another -/

/-- Spans follow one another from `i` to `stop`, and none of them is empty. -/
def Tile (stop : Nat) : Nat → List Span → Prop
  | i, [] => i = stop
  | i, s :: rest => s.start = i ∧ i < s.stop ∧ Tile stop s.stop rest

theorem Tile.le {i stop : Nat} {spans : List Span} (tile : Tile stop i spans) :
  i ≤ stop
  := by
  induction spans generalizing i with
  | nil => exact Nat.le_of_eq tile
  | cons s rest ih =>
    obtain ⟨-, order, next⟩ := tile
    exact order.le.trans (ih next)

theorem tile_concat {i stop : Nat} {spans : List Span} {s : Span} :
  Tile stop i (spans ++ [s]) ↔ Tile s.start i spans ∧ s.start < s.stop ∧ s.stop = stop
  := by
  induction spans generalizing i with
  | nil =>
    change s.start = i ∧ i < s.stop ∧ s.stop = stop ↔ i = s.start ∧ s.start < s.stop ∧ s.stop = stop
    constructor
    · rintro ⟨rfl, rest⟩
      exact ⟨rfl, rest⟩
    · rintro ⟨rfl, rest⟩
      exact ⟨rfl, rest⟩
  | cons t rest ih =>
    change _ ∧ _ ∧ Tile stop t.stop (rest ++ [s]) ↔ (_ ∧ _ ∧ Tile s.start t.stop rest) ∧ _
    rw [ih, and_assoc, and_assoc]

/-- Spans that follow one another stop at one place only. -/
theorem Tile.unique {i stop stop' : Nat} {spans : List Span} (tile : Tile stop i spans)
    (tile' : Tile stop' i spans) :
  stop = stop'
  := by
  induction spans generalizing i with
  | nil => exact Eq.trans (Eq.symm tile) tile'
  | cons s rest ih => exact ih tile.2.2 tile'.2.2

/-- Every position is in one of the spans. -/
theorem Tile.exists_mem {i stop u : Nat} {spans : List Span} (tile : Tile stop i spans)
    (lower : i ≤ u) (upper : u < stop) :
  ∃ s ∈ spans, u ∈ s
  := by
  induction spans generalizing i with
  | nil =>
    obtain rfl : i = stop := tile
    omega
  | cons s rest ih =>
    obtain ⟨rfl, -, next⟩ := tile
    by_cases here : u < s.stop
    · exact ⟨s, List.mem_cons_self, lower, here⟩
    · obtain ⟨t, ht, inside⟩ := ih next (Nat.le_of_not_lt here)
      exact ⟨t, List.mem_cons_of_mem s ht, inside⟩

namespace Run

/-! ### The scan -/

/-- One more code unit makes the last run longer or starts a new one. -/
theorem tile_extend {n : Nat} {runs : List Run}
    (tile : Tile n 0 (runs.reverse.map Run.span)) (a : Attributes) :
  Tile (n + 1) 0 ((Run.extend runs a).reverse.map Run.span)
  := by
  cases runs with
  | nil =>
    obtain rfl : 0 = n := tile
    exact ⟨rfl, Nat.zero_lt_one, rfl⟩
  | cons run rest =>
    have known := tile
    rw [List.reverse_cons, List.map_append, List.map_singleton, tile_concat] at known
    obtain ⟨before, order, stop⟩ := known
    rw [Run.extend]
    split
    · rw [List.reverse_cons, List.map_append, List.map_singleton, tile_concat]
      exact ⟨before, Nat.lt_succ_of_lt order, congrArg Nat.succ stop⟩
    · rw [List.reverse_cons, List.map_append, List.map_singleton, tile_concat]
      refine ⟨?_, Nat.lt_succ_self _, congrArg Nat.succ stop⟩
      rw [stop]
      exact tile

/-- A run has the attributes of one of its code units.  The others have equal ones. -/
def Carries (as : List Attributes) (run : Run) : Prop :=
  ∀ u ∈ run.span, ∃ a ∈ as[u]?, a = run.attributes ∨ run.attributes == a

/-- Runs that a scan has found in some attributes, the last run first. -/
structure IsScan (as : List Attributes) (runs : List Run) : Prop where
  /-- The runs follow one another up to where the scan is. -/
  tile : Tile as.length 0 (runs.reverse.map Run.span)
  /-- The attributes are those of the runs. -/
  carries : ∀ run ∈ runs, run.Carries as
  /-- Runs that meet have different attributes. -/
  differ : runs.IsChain fun later earlier => ¬ earlier.attributes == later.attributes

variable {as : List Attributes} {run : Run} {runs : List Run}

theorem Carries.concat (h : run.Carries as) (b : Attributes) :
  run.Carries (as ++ [b])
  := by
  intro u hu
  obtain ⟨a, ha, same⟩ := h u hu
  obtain ⟨inside, -⟩ := List.getElem?_eq_some_iff.mp ha
  exact ⟨a, (List.getElem?_append_left inside).trans ha, same⟩

theorem carries_last (as : List Attributes) (a : Attributes) :
  Carries (as ++ [a]) ⟨⟨as.length, as.length + 1⟩, a⟩
  := by
  intro u hu
  obtain rfl : u = as.length := Nat.le_antisymm (Nat.le_of_lt_succ hu.2) hu.1
  exact ⟨a, List.getElem?_concat_length, .inl rfl⟩

/-- What a scan has found is found still when it has gone on by one code unit. -/
theorem IsScan.extend (scan : IsScan as runs) (a : Attributes) :
  IsScan (as ++ [a]) (Run.extend runs a)
  := by
  have tile : Tile (as ++ [a]).length 0 ((Run.extend runs a).reverse.map Run.span) := by
    rw [List.length_append, List.length_singleton]
    exact tile_extend scan.tile a
  cases runs with
  | nil =>
    obtain rfl : as = [] := List.eq_nil_of_length_eq_zero (Eq.symm scan.tile)
    refine ⟨tile, ?_, List.isChain_singleton _⟩
    rw [Run.extend, List.forall_mem_singleton]
    exact carries_last [] a
  | cons run rest =>
    obtain ⟨known, carries, differ⟩ := scan
    rw [List.reverse_cons, List.map_append, List.map_singleton, tile_concat] at known
    obtain ⟨-, -, stop⟩ := known
    rw [List.forall_mem_cons] at carries
    obtain ⟨last, others⟩ := carries
    have others' : ∀ r ∈ rest, r.Carries (as ++ [a]) := fun r hr => (others r hr).concat a
    refine ⟨tile, ?_, ?_⟩
    · rw [Run.extend]
      split
      · rename_i equal
        rw [List.forall_mem_cons]
        refine ⟨?_, others'⟩
        intro u hu
        by_cases before : u < run.span.stop
        · exact last.concat a u ⟨hu.1, before⟩
        · obtain rfl : u = as.length := by
            have bound := Nat.le_of_lt_succ hu.2
            omega
          exact ⟨a, List.getElem?_concat_length, .inr equal⟩
      · rw [List.forall_mem_cons, List.forall_mem_cons, stop]
        exact ⟨carries_last as a, last.concat a, others'⟩
    · rw [Run.extend]
      split
      · rw [List.isChain_cons] at differ ⊢
        exact differ
      · rename_i different
        exact .cons_cons different differ

/-- The scan of all attributes. -/
theorem isScan_foldl (as : List Attributes) :
  IsScan as (as.foldl Run.extend [])
  := by
  induction as using List.reverseRecOn with
  | nil => exact ⟨rfl, List.forall_mem_nil _, .nil⟩
  | append_singleton as a ih =>
    rw [List.foldl_concat]
    exact ih.extend a

/-! ### The canonical form -/

theorem beq_iff (r s : Run) :
  r == s ↔ r.span = s.span ∧ r.attributes == s.attributes
  := by
  change (_ && _) = true ↔ _
  simp only [Bool.and_eq_true, beq_iff_eq]

/-- Runs are the canonical form of some attributes from index `i` on. -/
structure AreCanonical (as : Array Attributes) (i : Nat) (runs : List Run) : Prop where
  /-- The runs follow one another up to the end, and none of them is empty. -/
  tile : Tile as.size i (runs.map Run.span)
  /-- The attributes at each index of a run are equal to those of the run. -/
  equal : ∀ run ∈ runs, ∀ u ∈ run.span, ∃ a ∈ as[u]?, a == run.attributes
  /-- Runs that meet have different attributes. -/
  differ : runs.IsChain fun earlier later => ¬ earlier.attributes == later.attributes

namespace AreCanonical

variable {as : Array Attributes} {i : Nat} {r r' : Run} {rest rest' runs runs' : List Run}

theorem tail (h : AreCanonical as i (r :: rest)) :
  AreCanonical as r.span.stop rest
  where
  tile := h.tile.2.2
  equal run hr := h.equal run (List.mem_cons_of_mem r hr)
  differ := h.differ.tail

/-- Two runs with an index in common have equal attributes. -/
theorem beq_of_mem (h : AreCanonical as i runs) (h' : AreCanonical as i runs') (hr : r ∈ runs)
    (hr' : r' ∈ runs') {u : Nat} (hu : u ∈ r.span) (hu' : u ∈ r'.span) :
  r.attributes == r'.attributes
  := by
  obtain ⟨a, ha, equal⟩ := h.equal r hr u hu
  obtain ⟨a', ha', equal'⟩ := h'.equal r' hr' u hu'
  obtain rfl := Option.some.inj (ha.symm.trans ha')
  exact BEq.trans (BEq.symm equal) equal'

/-- A first run does not stop before the first run of another canonical form, as the run that would
follow it has an index in common with that one. -/
theorem stop_le (h : AreCanonical as i (r :: rest)) (h' : AreCanonical as i (r' :: rest')) :
  r'.span.stop ≤ r.span.stop
  := by
  obtain ⟨start, order, next⟩ := h.tile
  obtain ⟨start', order', next'⟩ := h'.tile
  by_contra longer
  have same : r.attributes == r'.attributes :=
    h.beq_of_mem h' List.mem_cons_self List.mem_cons_self ⟨start.le, order⟩ ⟨start'.le, order'⟩
  cases rest with
  | nil =>
    have stop : r.span.stop = as.size := next
    have bound := next'.le
    omega
  | cons s rest =>
    obtain ⟨meet, order_s, -⟩ := next
    have common : s.attributes == r'.attributes :=
      h.beq_of_mem h' (List.mem_cons_of_mem r List.mem_cons_self) List.mem_cons_self
        ⟨meet.le, order_s⟩ ⟨by omega, by omega⟩
    exact (List.isChain_cons_cons.mp h.differ).1 (BEq.trans same (BEq.symm common))

/-- There is only one canonical form, up to equality. -/
theorem beq (h : AreCanonical as i runs) (h' : AreCanonical as i runs') :
  runs == runs'
  := by
  induction runs generalizing i runs' with
  | nil =>
    cases runs' with
    | nil => rfl
    | cons r' rest' =>
      have done : i = as.size := h.tile
      have bound := h'.tile.2.2.le
      have order := h'.tile.2.1
      omega
  | cons r rest ih =>
    cases runs' with
    | nil =>
      have done : i = as.size := h'.tile
      have bound := h.tile.2.2.le
      have order := h.tile.2.1
      omega
    | cons r' rest' =>
      obtain ⟨start, order, -⟩ := h.tile
      obtain ⟨start', order', -⟩ := h'.tile
      have stop : r.span.stop = r'.span.stop := Nat.le_antisymm (h'.stop_le h) (h.stop_le h')
      have same : r.attributes == r'.attributes :=
        h.beq_of_mem h' List.mem_cons_self List.mem_cons_self ⟨start.le, order⟩ ⟨start'.le, order'⟩
      have span : r.span = r'.span := congrArg₂ Span.mk (start.trans start'.symm) stop
      have rests : rest == rest' := ih h.tail (stop ▸ h'.tail)
      rw [List.cons_beq_cons, Bool.and_eq_true, Run.beq_iff]
      exact ⟨⟨span, same⟩, rests⟩

/-- Runs that are equal to a canonical form are one. -/
theorem of_beq (h : AreCanonical as i runs) (same : runs == runs') :
  AreCanonical as i runs'
  := by
  induction runs generalizing i runs' with
  | nil =>
    cases runs' with
    | nil => exact h
    | cons r' rest' => cases same
  | cons r rest ih =>
    cases runs' with
    | nil => cases same
    | cons r' rest' =>
      rw [List.cons_beq_cons, Bool.and_eq_true, Run.beq_iff] at same
      obtain ⟨⟨span, attributes⟩, rests⟩ := same
      obtain ⟨tile, equal, differ⟩ := ih h.tail rests
      refine ⟨?_, ?_, ?_⟩
      · obtain ⟨start, order, -⟩ := h.tile
        rw [span] at start order tile
        exact ⟨start, order, tile⟩
      · rw [List.forall_mem_cons]
        refine ⟨?_, equal⟩
        intro u hu
        rw [← span] at hu
        obtain ⟨a, ha, first⟩ := h.equal r List.mem_cons_self u hu
        exact ⟨a, ha, BEq.trans first attributes⟩
      · rw [List.isChain_cons]
        refine ⟨?_, differ⟩
        intro s' hs' meets
        obtain ⟨more', rfl⟩ := List.head?_eq_some_iff.mp hs'
        cases rest with
        | nil => cases rests
        | cons s more =>
          rw [List.cons_beq_cons, Bool.and_eq_true, Run.beq_iff] at rests
          apply (List.isChain_cons_cons.mp h.differ).1
          exact BEq.trans attributes (BEq.trans meets (BEq.symm rests.1.2))

/-- A canonical form of some attributes is one of equal attributes. -/
theorem of_beq_attributes {bs : Array Attributes} (h : AreCanonical as i runs)
    (size : as.size = bs.size) (same : ∀ u : Nat, as[u]? == bs[u]?) :
  AreCanonical bs i runs
  where
  tile := size ▸ h.tile
  equal run hr u hu := by
    obtain ⟨a, ha, equal⟩ := h.equal run hr u hu
    have here := same u
    rw [ha] at here
    cases hb : bs[u]? with
    | none => rw [hb] at here; cases here
    | some b =>
      rw [hb] at here
      exact ⟨b, rfl, BEq.trans (BEq.symm here) equal⟩
  differ := h.differ

end AreCanonical

end Run

namespace Buffer

variable {b c : Buffer}

/-- The runs of a buffer are what a scan of its attributes finds. -/
theorem exists_isScan_runs (b : Buffer) :
  ∃ runs, b.runs = runs.reverse ∧ Run.IsScan b.attributes.toList runs
  := by
  refine ⟨_, rfl, ?_⟩
  rw [← Array.foldl_toList]
  apply Run.isScan_foldl

/-- The runs of a buffer follow one another from its start to its end. -/
theorem tile_runs (b : Buffer) :
  Tile b.length 0 (b.runs.map Run.span)
  := by
  obtain ⟨runs, same, scan⟩ := b.exists_isScan_runs
  rw [same]
  exact scan.tile

/-- The runs of a buffer whose attributes are equal to themselves are canonical. -/
theorem areCanonical_runs (h : ∀ a ∈ b.attributes, a == a) :
  Run.AreCanonical b.attributes 0 b.runs
  := by
  obtain ⟨runs, same, scan⟩ := b.exists_isScan_runs
  refine ⟨b.tile_runs, ?_, ?_⟩
  · intro run hr u hu
    rw [same, List.mem_reverse] at hr
    obtain ⟨a, ha, equal⟩ := scan.carries run hr u hu
    rw [Array.getElem?_toList] at ha
    have self := h a (Array.mem_of_getElem? ha)
    refine ⟨a, ha, ?_⟩
    rcases equal with rfl | equal
    · exact self
    · exact BEq.symm equal
  · rw [same, List.isChain_reverse]
    exact scan.differ

/-- The canonical forms of the attributes of a buffer are the lists that are equal to its runs. -/
theorem areCanonical_iff (h : ∀ a ∈ b.attributes, a == a) {runs : List Run} :
  Run.AreCanonical b.attributes 0 runs ↔ b.runs == runs
  := by
  constructor
  · intro canonical
    exact (areCanonical_runs h).beq canonical
  · intro same
    exact (areCanonical_runs h).of_beq same

/-- The attributes of two buffers are equal everywhere. -/
theorem beq_of_runs_beq (h : ∀ a ∈ b.attributes, a == a) (same : b.runs == c.runs) (u : Nat) :
  b.attributes[u]? == c.attributes[u]?
  := by
  have canonical := (areCanonical_iff h).mpr same
  have size : b.length = c.length := canonical.tile.unique c.tile_runs
  by_cases inside : u < c.length
  · obtain ⟨span, hspan, hu⟩ := c.tile_runs.exists_mem (Nat.zero_le u) inside
    obtain ⟨run, hr, rfl⟩ := List.mem_map.mp hspan
    obtain ⟨a, ha, equal⟩ := canonical.equal run hr u hu
    obtain ⟨runs, found, scan⟩ := c.exists_isScan_runs
    rw [found, List.mem_reverse] at hr
    obtain ⟨a', ha', equal'⟩ := scan.carries run hr u hu
    rw [Array.getElem?_toList] at ha'
    rw [ha, ha']
    change a == a'
    rcases equal' with rfl | equal'
    · exact equal
    · exact BEq.trans equal equal'
  · have outside : c.length ≤ u := Nat.le_of_not_lt inside
    rw [Array.getElem?_eq_none outside, Array.getElem?_eq_none (size.le.trans outside)]
    rfl

/-- Buffers whose attributes are equal everywhere have the same length. -/
theorem length_le_of_beq (same : ∀ u : Nat, b.attributes[u]? == c.attributes[u]?) :
  b.length ≤ c.length
  := by
  by_contra longer
  have last := same c.length
  rw [Array.getElem?_eq_none (Nat.le_refl c.length),
    Array.getElem?_eq_getElem (Nat.lt_of_not_le longer)] at last
  cases last

/-- Buffers with equal attributes everywhere have equal runs. -/
theorem runs_beq_of_beq (h : ∀ a ∈ b.attributes, a == a)
    (same : ∀ u : Nat, b.attributes[u]? == c.attributes[u]?) :
  b.runs == c.runs
  := by
  have back (u : Nat) : c.attributes[u]? == b.attributes[u]? := BEq.symm (same u)
  have size : c.length = b.length :=
    Nat.le_antisymm (length_le_of_beq back) (length_le_of_beq same)
  have self : ∀ a ∈ c.attributes, a == a := by
    intro a ha
    obtain ⟨u, hu⟩ := Array.mem_iff_getElem?.mp ha
    have twice : c.attributes[u]? == c.attributes[u]? := BEq.trans (back u) (same u)
    rwa [hu] at twice
  exact (areCanonical_iff h).mp ((areCanonical_runs self).of_beq_attributes size back)

/-- The runs of a buffer without undefined numbers are the only canonical form of its attributes, so
they are equal to the runs of another buffer exactly if all attributes are. -/
theorem runs_canonical (b : Buffer) (numbers : ∀ a ∈ b.attributes, a.HasNumbers) :
  Run.AreCanonical b.attributes 0 b.runs
    ∧ (∀ runs, Run.AreCanonical b.attributes 0 runs → b.runs == runs)
    ∧ ∀ c : Buffer, b.runs == c.runs ↔ ∀ u : Nat, b.attributes[u]? == c.attributes[u]?
  := by
  have h : ∀ a ∈ b.attributes, a == a := fun a ha => (numbers a ha).beq_self
  refine ⟨areCanonical_runs h, fun runs => (areCanonical_iff h).mp, ?_⟩
  intro c
  constructor
  · exact beq_of_runs_beq h
  · exact runs_beq_of_beq h

/-- A layout with a negative zero and one with a positive zero are in one run, which stops in the
middle of a character. -/
theorem runs_canonical_zeros :
  let b := ((ofText "ab😀".toList {}).addAttribute ⟨0, 1⟩ (.layout ⟨0, 0, 12, 12, 4⟩)).addAttribute
    ⟨1, 3⟩ (.layout ⟨-0, 0, 12, 12, 4⟩)
  (∀ a ∈ b.attributes, a.HasNumbers)
    ∧ (Run.AreCanonical b.attributes 0 b.runs
      ∧ (∀ runs, Run.AreCanonical b.attributes 0 runs → b.runs == runs)
      ∧ ∀ c : Buffer, b.runs == c.runs ↔ ∀ u : Nat, b.attributes[u]? == c.attributes[u]?)
    ∧ b.runs.map Run.span = [⟨0, 3⟩, ⟨3, 4⟩]
  := by
  intro b
  have numbers : ∀ a ∈ b.attributes, a.HasNumbers := by decide +kernel
  exact ⟨numbers, runs_canonical b numbers, by decide +kernel⟩

end Buffer

end LiveMarkdown
