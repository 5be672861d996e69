import LiveMarkdown.Proofs.Buffer.Notes
import LiveMarkdown.Proofs.Styling.Layouts
import LiveMarkdown.Proofs.Styling.Pairs

/-!
# Where a layout is written

A paragraph gets a layout run by run: the run of a position is looked up, the layout is written
there if the run has another one, and the next turn goes on where the run ends.  The runs are looked
up in a buffer that has been written to, but only ahead of all writes.  A run does not reach back
beyond the position it is looked up for, and yet each run is found whole.

* The first run in a span is the one of its first position, and the other runs are those in the rest
  of the span.
* So each run that has another layout is written once and noted once, from left to right, and nothing
  else is.
* The runs are not empty, so there are no more turns than positions.
-/

namespace LiveMarkdown

/-! ### Runs of positions -/

/-- A span is a run of positions that are alike: among those of some kind, it is not part of a longer
one. -/
structure Span.IsRun (P : Nat → Prop) (R : Nat → Nat → Prop) (s : Span) : Prop where
  /-- There are positions in the span. -/
  nonempty : s.start < s.stop
  /-- They are of the kind. -/
  inside : ∀ u ∈ s, P u
  /-- They are alike. -/
  alike : ∀ u ∈ s, ∀ v ∈ s, R u v
  /-- No larger span is such. -/
  maximal : ∀ t : Span, (∀ u ∈ t, P u) → (∀ u ∈ t, ∀ v ∈ t, R u v) → t.covers s → t = s

namespace Span

section

variable {R : Nat → Nat → Prop} [Std.Symm R] [IsTrans Nat R] {i next stop : Nat} {s : Span}
  (order : i < next) (bound : next ≤ stop) (same : ∀ u, i ≤ u → u < next → R u i)
  (other : next < stop → ¬ R next i)
include order bound same other

/-- A position and those up to the next one that is not like it are the first run. -/
theorem isRun_first :
  Span.IsRun (fun u => i ≤ u ∧ u < stop) R ⟨i, next⟩
  where
  nonempty := order
  inside u hu := ⟨hu.1, Nat.lt_of_lt_of_le hu.2 bound⟩
  alike u hu v hv := IsTrans.trans u i v (same u hu.1 hu.2) (Std.Symm.symm v i (same v hv.1 hv.2))
  maximal t inside alike above := by
    obtain ⟨before, after⟩ := covers_iff.mp above
    dsimp only at before after
    have start : t.start = i := by
      have first := (inside t.start ⟨le_rfl, by omega⟩).1
      omega
    have stop : t.stop = next := by
      by_contra longer
      have hi : i ∈ t := ⟨before, by omega⟩
      have hnext : next ∈ t := ⟨by omega, by omega⟩
      exact other (inside next hnext).2 (alike next hnext i hi)
    cases t
    exact congrArg₂ Span.mk start stop

/-- A run that starts in the first run is the first run: both lie in a span of positions that are
alike. -/
theorem IsRun.eq_first (run : s.IsRun (fun u => i ≤ u ∧ u < stop) R) (early : s.start < next) :
  s = ⟨i, next⟩
  := by
  have nonempty := run.nonempty
  have hstart : s.start ∈ s := ⟨le_rfl, nonempty⟩
  have starts := run.inside s.start hstart
  have last := run.inside (s.stop - 1) ⟨by omega, by omega⟩
  let both : Span := ⟨i, max next s.stop⟩
  have inside (u : Nat) (hu : u ∈ both) : i ≤ u ∧ u < stop := by
    obtain ⟨lower, upper⟩ := hu
    dsimp only [both] at lower upper
    omega
  have like (u : Nat) (hu : u ∈ both) : R u i := by
    obtain ⟨lower, upper⟩ := hu
    dsimp only [both] at lower upper
    by_cases inFirst : u < next
    · exact same u lower inFirst
    · have hu : u ∈ s := ⟨by omega, by omega⟩
      exact IsTrans.trans u s.start i (run.alike u hu s.start hstart) (same s.start starts.1 early)
  have alike (u : Nat) (hu : u ∈ both) (v : Nat) (hv : v ∈ both) : R u v :=
    IsTrans.trans u i v (like u hu) (Std.Symm.symm v i (like v hv))
  have first := isRun_first order bound same other
  calc
    s = both := (run.maximal both inside alike (covers_iff.mpr ⟨starts.1, Nat.le_max_right ..⟩)).symm
    _ = ⟨i, next⟩ := first.maximal both inside alike (covers_iff.mpr ⟨le_rfl, Nat.le_max_left ..⟩)

omit [Std.Symm R] bound in
/-- A run in the rest is a run, since a larger span would take in both sides of the end of the first
run. -/
theorem IsRun.of_rest (run : s.IsRun (fun u => next ≤ u ∧ u < stop) R) :
  s.IsRun (fun u => i ≤ u ∧ u < stop) R
  where
  nonempty := run.nonempty
  inside u hu := ⟨order.le.trans (run.inside u hu).1, (run.inside u hu).2⟩
  alike := run.alike
  maximal t inside alike above := by
    have nonempty := run.nonempty
    have starts := (run.inside s.start ⟨le_rfl, nonempty⟩).1
    obtain ⟨before, after⟩ := covers_iff.mp above
    apply run.maximal t _ alike above
    intro u hu
    refine ⟨?_, (inside u hu).2⟩
    by_contra early
    have hnext : next ∈ t := ⟨hu.1.trans (by omega), by omega⟩
    have first := same u (inside u hu).1 (by omega)
    exact other (inside next hnext).2 (IsTrans.trans next u i (alike next hnext u hu) first)

/-- The runs from a position on are the one of this position and those from its end on. -/
theorem isRun_iff :
  s.IsRun (fun u => i ≤ u ∧ u < stop) R
    ↔ s = ⟨i, next⟩ ∨ s.IsRun (fun u => next ≤ u ∧ u < stop) R
  := by
  constructor
  · intro run
    by_cases early : s.start < next
    · left
      exact run.eq_first order bound same other early
    · right
      refine ⟨run.nonempty, ?_, run.alike, ?_⟩
      · intro u hu
        exact ⟨(Nat.le_of_not_lt early).trans hu.1, (run.inside u hu).2⟩
      · intro t inside
        apply run.maximal t
        intro u hu
        exact ⟨order.le.trans (inside u hu).1, (inside u hu).2⟩
  · rintro (rfl | run)
    · exact isRun_first order bound same other
    · exact run.of_rest order same other

end

end Span

/-! ### Layouts in a buffer -/

namespace Buffer

/-- Two code units have equal layouts, or both none. -/
def SameLayout (b : Buffer) (u v : Nat) : Prop :=
  ∃ a ∈ b.attributes[u]?, ∃ c ∈ b.attributes[v]?, a.layout == c.layout

/-- A code unit has another layout than `l`, or none. -/
def Deviates (b : Buffer) (l : Layout) (u : Nat) : Prop :=
  ∃ a ∈ b.attributes[u]?, ¬ a.layout == some l

/-- A buffer has a code unit in a span that a window shows. -/
def Sees (b : Buffer) (window : Option Span) (span : Span) (u : Nat) : Prop :=
  u ∈ span ∧ Shown window u ∧ u < b.length

/-- Spans are the runs of equal layouts, among some code units, that differ from `l`. -/
structure IsDeviating (b : Buffer) (l : Layout) (P : Nat → Prop) (spans : List Span) : Prop where
  /-- The spans are disjoint and go from left to right. -/
  ordered : spans.Pairwise fun s t => s.stop ≤ t.start
  /-- They are the runs of code units with equal layouts, those that have another one. -/
  mem_iff : ∀ s, s ∈ spans ↔ s.IsRun P b.SameLayout ∧ ∀ u ∈ s, b.Deviates l u
  /-- They cover the code units that have another one. -/
  covers : ∀ u, (∃ s ∈ spans, u ∈ s) ↔ P u ∧ b.Deviates l u

/-- One turn of laying out the code units from `i` up to `stop`: what has become of the buffer, and
where to go on.  After the last turn there is none. -/
def layOutTurn? (b : Buffer) (l : Layout) (stop i : Nat) : Option (Buffer × Nat) :=
  if i < stop then
    (b.attribute? .layout i ⟨i, stop⟩).map fun (current, run) =>
      (if current == some (.layout l) then b
        else b.addAttribute ⟨i, max run.stop (i + 1)⟩ (.layout l), max run.stop (i + 1))
  else none

/-- The turns of laying out the code units from `i` up to `stop` end, after `n` of them, with `c`. -/
inductive LayOutEnds (l : Layout) (stop : Nat) : Nat → Buffer → Nat → Buffer → Prop
  /-- There are no more turns. -/
  | done {b : Buffer} {i : Nat} (none : b.layOutTurn? l stop i = none) : LayOutEnds l stop 0 b i b
  /-- There is a turn, and others follow. -/
  | turn {n i next : Nat} {b b' c : Buffer} (made : b.layOutTurn? l stop i = some (b', next))
      (rest : LayOutEnds l stop n b' next c) : LayOutEnds l stop (n + 1) b i c

/-- A buffer becomes another one when a layout is written where the code units in a span that a
window shows have another one. -/
structure IsRelaid (b : Buffer) (window : Option Span) (span : Span) (l : Layout) (c : Buffer) :
    Prop where
  /-- The layout is written in a number of turns that is bounded by the length of the span. -/
  ends : ∀ s, span.visible? window = some s →
    ∃ n ≤ s.length, LayOutEnds l s.stop n b s.start c
  /-- The text and its revision stay the same. -/
  version : c.version = b.version
  /-- No batch is open. -/
  closed : c.depth = 0 ∧ c.batch = b.batch
  /-- What is seen has an equal layout. -/
  equal : ∀ u, b.Sees window span u → ∃ a ∈ c.attributes[u]?, a.layout == some l
  /-- Where the layout was another one it is replaced, and no other attribute is. -/
  changed : ∀ u, b.Sees window span u → b.Deviates l u →
    c.attributes[u]? = b.attributes[u]?.map fun a => { a with layout := some l }
  /-- Everywhere else all attributes stay the same. -/
  kept : ∀ u, ¬ (b.Sees window span u ∧ b.Deviates l u) → c.attributes[u]? = b.attributes[u]?
  /-- Each run that had another layout is noted once, from left to right, and nothing else is. -/
  noted : ∃ spans, b.IsDeviating l (b.Sees window span) spans
    ∧ c.edits = b.edits ++ (spans.map Edit.ofSpan).toArray
  /-- If there is none, the buffer stays the same. -/
  idle : (∀ u, b.Sees window span u → ¬ b.Deviates l u) → c = b

section

variable {b c o : Buffer} {l : Layout} {window : Option Span} {span : Span} {i next stop u : Nat}
  {P : Nat → Prop} {spans : List Span}

instance : Std.Symm b.SameLayout where
  symm := by
    rintro u v ⟨a, ha, c, hc, same⟩
    exact ⟨c, hc, a, ha, BEq.symm same⟩

instance : IsTrans Nat b.SameLayout where
  trans := by
    rintro u v w ⟨a, ha, c, hc, same⟩ ⟨c', hc', d, hd, same'⟩
    obtain rfl := Option.some.inj (hc.symm.trans hc')
    exact ⟨a, ha, d, hd, BEq.trans same same'⟩

/-- Code units with equal layouts have both another one, or neither. -/
theorem SameLayout.deviates (same : b.SameLayout u i) (other : b.Deviates l i) :
  b.Deviates l u
  := by
  obtain ⟨a, ha, c, hc, equal⟩ := same
  obtain ⟨c', hc', differs⟩ := other
  obtain rfl := Option.some.inj (hc.symm.trans hc')
  refine ⟨a, ha, ?_⟩
  intro match'
  exact differs (BEq.trans (BEq.symm equal) match')

theorem deviates_iff {a : Attributes} (here : b.attributes[u]? = some a) :
  b.Deviates l u ↔ ¬ a.layout == some l
  := by
  simp [Deviates, here]

theorem beq_layout_iff (a : Attributes) (l : Layout) :
  a.get? .layout == some (.layout l) ↔ a.layout == some l
  := by
  rw [Attributes.get?]
  cases a.layout <;> rfl

/-! ### One run -/

theorem attribute?_stop_le {key : AttributeKey} {current : Option Attribute} {run : Span}
    (starts : i < stop) (found : b.attribute? key i ⟨i, stop⟩ = some (current, run)) :
  run.stop ≤ b.length
  := by
  rw [attribute?, if_pos (Span.mem_iff.mpr ⟨le_rfl, starts⟩)] at found
  obtain ⟨a, ha, pair⟩ := Option.map_eq_some_iff.mp found
  obtain ⟨-, rfl⟩ := Prod.mk.inj pair
  have inside : i < b.length := (Array.getElem?_eq_some_iff.mp ha).1
  have bound := (runStop_spec b.attributes a key (min stop b.length) (i + 1)).2.1
  dsimp only
  omega

/-- The run of a position, in a buffer that is as it was from there on: it ends in the buffer, its
code units have equal layouts, and the next one has another layout. -/
theorem layout_run (starts : i < stop) {current : Option Attribute} {run : Span}
    (found : b.attribute? .layout i ⟨i, stop⟩ = some (current, run)) (size : b.length = o.length)
    (ahead : ∀ u, i ≤ u → b.attributes[u]? = o.attributes[u]?)
    (numbers : ∀ u, u < o.length → o.SameLayout u u) :
  i < run.stop ∧ run.stop ≤ min stop o.length
    ∧ (∀ u, i ≤ u → u < run.stop → o.SameLayout u i)
    ∧ (run.stop < min stop o.length → ¬ o.SameLayout run.stop i)
    ∧ (current == some (.layout l) ↔ ¬ o.Deviates l i)
  := by
  have short := attribute?_stop_le starts found
  obtain ⟨a, ha, rfl, after, bound, agree⟩ := attribute?_spec starts found
  have here : o.attributes[i]? = some a := (ahead i le_rfl).symm.trans ha
  refine ⟨after, by omega, ?_, ?_, ?_⟩
  · intro u lower upper
    have inside : u < o.length := by omega
    have hc : o.attributes[u]? = some o.attributes[u] := Array.getElem?_eq_getElem inside
    rcases agree u lower upper _ ((ahead u lower).trans hc) with rfl | same
    · exact numbers u inside
    · exact ⟨_, hc, a, here, same⟩
  · rintro more ⟨c, hc, a', ha', same⟩
    obtain rfl := Option.some.inj (here.symm.trans ha')
    exact attribute?_maximal found (by omega) ha ((ahead run.stop after.le).trans hc) same
  · rw [beq_layout_iff, deviates_iff here, not_not]

/-- Where there are no code units there are no runs. -/
theorem isDeviating_nil (none : ∀ u, ¬ P u) :
  o.IsDeviating l P []
  where
  ordered := .nil
  mem_iff s := by
    constructor
    · intro mem
      cases mem
    · rintro ⟨run, -⟩
      exact absurd (run.inside s.start ⟨le_rfl, run.nonempty⟩) (none s.start)
  covers u := by
    constructor
    · rintro ⟨s, mem, -⟩
      cases mem
    · rintro ⟨inside, -⟩
      exact absurd inside (none u)

section

variable (order : i < next) (bound : next ≤ stop)
  (same : ∀ u, i ≤ u → u < next → o.SameLayout u i) (other : next < stop → ¬ o.SameLayout next i)
include order bound same other

/-- A first run with another layout comes before the other runs. -/
theorem IsDeviating.cons (deviates : o.Deviates l i)
    (rest : o.IsDeviating l (fun u => next ≤ u ∧ u < stop) spans) :
  o.IsDeviating l (fun u => i ≤ u ∧ u < stop) (⟨i, next⟩ :: spans)
  := by
  have all (u : Nat) (hu : u ∈ (⟨i, next⟩ : Span)) : o.Deviates l u :=
    (same u hu.1 hu.2).deviates deviates
  refine ⟨?_, ?_, ?_⟩
  · rw [List.pairwise_cons]
    refine ⟨?_, rest.ordered⟩
    intro t ht
    have run := ((rest.mem_iff t).mp ht).1
    exact (run.inside t.start ⟨le_rfl, run.nonempty⟩).1
  · intro s
    rw [List.mem_cons, rest.mem_iff, Span.isRun_iff order bound same other, or_and_right]
    constructor
    · rintro (rfl | later)
      · exact .inl ⟨rfl, all⟩
      · exact .inr later
    · rintro (⟨first, -⟩ | later)
      · exact .inl first
      · exact .inr later
  · intro u
    rw [List.exists_mem_cons_iff, rest.covers]
    constructor
    · rintro (first | ⟨later, differs⟩)
      · exact ⟨⟨first.1, Nat.lt_of_lt_of_le first.2 bound⟩, all u first⟩
      · exact ⟨⟨order.le.trans later.1, later.2⟩, differs⟩
    · rintro ⟨inside, differs⟩
      by_cases first : u < next
      · exact .inl ⟨inside.1, first⟩
      · exact .inr ⟨⟨Nat.le_of_not_lt first, inside.2⟩, differs⟩

/-- A first run with an equal layout is left out. -/
theorem IsDeviating.skip (equal : ¬ o.Deviates l i)
    (rest : o.IsDeviating l (fun u => next ≤ u ∧ u < stop) spans) :
  o.IsDeviating l (fun u => i ≤ u ∧ u < stop) spans
  := by
  have none (u : Nat) (lower : i ≤ u) (upper : u < next) : ¬ o.Deviates l u := by
    intro differs
    exact equal (SameLayout.deviates (Std.Symm.symm u i (same u lower upper)) differs)
  refine ⟨rest.ordered, ?_, ?_⟩
  · intro s
    rw [rest.mem_iff, Span.isRun_iff order bound same other]
    constructor
    · rintro ⟨later, differ⟩
      exact ⟨.inr later, differ⟩
    · rintro ⟨rfl | later, differ⟩
      · exact absurd (differ i ⟨le_rfl, order⟩) equal
      · exact ⟨later, differ⟩
  · intro u
    rw [rest.covers]
    constructor
    · rintro ⟨later, differs⟩
      exact ⟨⟨order.le.trans later.1, later.2⟩, differs⟩
    · rintro ⟨inside, differs⟩
      refine ⟨⟨?_, inside.2⟩, differs⟩
      by_contra first
      exact none u inside.1 (Nat.lt_of_not_le first) differs

end

/-! ### All turns -/

/-- A write outside of all batches, in a span that lies in the buffer. -/
theorem addAttribute_of_closed (closed : b.depth = 0) (order : i < next) (bound : next ≤ b.length)
    (v : Attribute) :
  (b.addAttribute ⟨i, next⟩ v).depth = 0 ∧ (b.addAttribute ⟨i, next⟩ v).batch = b.batch
    ∧ (b.addAttribute ⟨i, next⟩ v).edits = b.edits ++ #[Edit.ofSpan ⟨i, next⟩]
  := by
  have clamped : b.clamp? ⟨i, next⟩ = some ⟨i, next⟩ := by
    have start : min i b.length = i := Nat.min_eq_left (order.le.trans bound)
    have stop : min next b.length = next := Nat.min_eq_left bound
    rw [clamp?, start, stop]
    exact Span.nonempty?_eq_some_iff.mpr ⟨rfl, order⟩
  obtain ⟨depth, batch, edits⟩ := update_of_closed closed clamped fun old => old.set v
  exact ⟨depth.trans closed, batch, edits⟩

/-- What is noted when a buffer is laid out that is as it was from some position on. -/
theorem exists_isDeviating_layOut (numbers : ∀ u, u < o.length → o.SameLayout u u)
    (closed : b.depth = 0) (size : b.length = o.length)
    (ahead : ∀ u, i ≤ u → b.attributes[u]? = o.attributes[u]?) :
  (b.layOut l stop i).depth = 0 ∧ (b.layOut l stop i).batch = b.batch
    ∧ ∃ spans, o.IsDeviating l (fun u => i ≤ u ∧ u < min stop o.length) spans
      ∧ (b.layOut l stop i).edits = b.edits ++ (spans.map Edit.ofSpan).toArray
  := by
  fun_induction Buffer.layOut b l stop i with
  | case1 b i starts missing =>
    have outside := attribute?_eq_none starts missing
    refine ⟨closed, rfl, [], isDeviating_nil ?_, Array.append_empty.symm⟩
    intro u inside
    omega
  | case2 b i starts current run found next b' ih =>
    obtain ⟨after, bound, same, other, test⟩ := layout_run (l := l) starts found size ahead numbers
    have stops : next = run.stop := Nat.max_eq_left after
    rw [← stops] at after bound same other
    by_cases deviates : o.Deviates l i
    · have write : b' = b.addAttribute ⟨i, next⟩ (.layout l) := if_neg fun equal => test.mp equal deviates
      obtain ⟨depth, batch, edits⟩ :=
        addAttribute_of_closed closed after (bound.trans (by omega)) (.layout l)
      rw [← write] at depth batch edits
      have length : b'.length = o.length := by
        rw [write]
        exact (length_update b _ _).trans size
      have still (u : Nat) (hu : next ≤ u) : b'.attributes[u]? = o.attributes[u]? := by
        have outside : u ∉ (⟨i, next⟩ : Span) := fun inside => absurd hu (Nat.not_le_of_lt inside.2)
        rw [write, addAttribute, getElem?_update, if_neg outside]
        exact ahead u (after.le.trans hu)
      obtain ⟨depth', batch', spans, runs, noted⟩ := ih depth length still
      refine ⟨depth', batch'.trans batch, ⟨i, next⟩ :: spans,
        runs.cons after bound same other deviates, ?_⟩
      rw [noted, edits, Array.append_assoc]
      simp
    · have write : b' = b := if_pos (test.mpr deviates)
      rw [write] at ih ⊢
      have still (u : Nat) (hu : next ≤ u) : b.attributes[u]? = o.attributes[u]? :=
        ahead u (after.le.trans hu)
      obtain ⟨depth, batch, spans, runs, noted⟩ := ih closed size still
      exact ⟨depth, batch, spans, runs.skip after bound same other deviates, noted⟩
  | case3 b i starts =>
    refine ⟨closed, rfl, [], isDeviating_nil ?_, Array.append_empty.symm⟩
    intro u inside
    omega

/-- The turns come to an end. -/
theorem exists_layOutEnds (b : Buffer) (l : Layout) (stop i : Nat) :
  ∃ n ≤ stop - i, LayOutEnds l stop n b i (b.layOut l stop i)
  := by
  fun_induction Buffer.layOut b l stop i with
  | case1 b i starts missing =>
    refine ⟨0, Nat.zero_le _, .done ?_⟩
    rw [layOutTurn?, if_pos starts, missing, Option.map_none]
  | case2 b i starts current run found next b' ih =>
    obtain ⟨n, bound, rest⟩ := ih
    refine ⟨n + 1, by omega, .turn ?_ rest⟩
    rw [layOutTurn?, if_pos starts, found]
    rfl
  | case3 b i starts =>
    refine ⟨0, Nat.zero_le _, .done ?_⟩
    rw [layOutTurn?, if_neg starts]

/-- Nothing is written where all layouts are equal to the one to be written. -/
theorem layOut_of_equal (equal : ∀ u, i ≤ u → u < stop → ¬ b.Deviates l u) :
  b.layOut l stop i = b
  := by
  fun_induction Buffer.layOut b l stop i with
  | case1 => rfl
  | case2 b i starts current run found next b' ih =>
    obtain ⟨a, ha, rfl, -⟩ := attribute?_spec starts found
    have test : a.layout == some l := by
      have first := equal i le_rfl starts
      rwa [deviates_iff ha, not_not] at first
    have write : b' = b := if_pos ((beq_layout_iff a l).mpr test)
    rw [write] at ih ⊢
    apply ih
    intro u lower
    exact equal u (by omega)
  | case3 => rfl

/-! ### One stroke -/

/-- What is seen is the visible part of the span, as far as the buffer goes. -/
theorem sees_iff :
  b.Sees window span u ↔
    ∃ s, span.visible? window = some s ∧ s.start ≤ u ∧ u < min s.stop b.length
  := by
  rw [Sees, ← and_assoc, ← Span.mem_visible?]
  constructor
  · rintro ⟨⟨s, visible, inside⟩, short⟩
    exact ⟨s, visible, inside.1, Nat.lt_min.mpr ⟨inside.2, short⟩⟩
  · rintro ⟨s, visible, lower, upper⟩
    obtain ⟨inside, short⟩ := Nat.lt_min.mp upper
    exact ⟨⟨s, visible, lower, inside⟩, short⟩

theorem sees_of_visible {s : Span} (visible : span.visible? window = some s) :
  b.Sees window span = fun u => s.start ≤ u ∧ u < min s.stop b.length
  := by
  funext u
  rw [sees_iff, visible]
  simp only [Option.some.injEq, exists_eq_left']

theorem stroke_of_visible {s : Span} (visible : span.visible? window = some s) :
  b.stroke window (.layOut span l) = b.layOut l s.stop s.start
  := by
  simp only [stroke, visible]

theorem stroke_of_invisible (invisible : span.visible? window = none) :
  b.stroke window (.layOut span l) = b
  := by
  simp only [stroke, invisible]

theorem exists_attributes (inside : u < b.length) :
  ∃ a, b.attributes[u]? = some a
  := ⟨_, Array.getElem?_eq_getElem inside⟩

/-- What is seen is laid out. -/
theorem getElem?_stroke_of_sees (seen : b.Sees window span u) :
  (b.stroke window (.layOut span l)).attributes[u]? = b.attributes[u]?.map (Attributes.layOut l)
  := by
  obtain ⟨s, visible, lower, upper⟩ := sees_iff.mp seen
  rw [stroke_of_visible visible, getElem?_layOut, if_pos ⟨lower, (Nat.lt_min.mp upper).1⟩]

/-- What is not seen stays as it is. -/
theorem getElem?_stroke_of_not_sees (unseen : ¬ b.Sees window span u) :
  (b.stroke window (.layOut span l)).attributes[u]? = b.attributes[u]?
  := by
  cases visible : span.visible? window with
  | none => rw [stroke_of_invisible visible]
  | some s =>
    rw [stroke_of_visible visible, getElem?_layOut]
    split
    · rename_i inside
      have outside : b.length ≤ u := by
        by_contra short
        apply unseen
        rw [sees_of_visible visible]
        omega
      rw [Array.getElem?_eq_none outside]
      rfl
    · rfl

/-- What is seen gets an equal layout. -/
theorem exists_layout_of_sees (numbers : l.HasNumbers) (seen : b.Sees window span u) :
  ∃ a ∈ (b.stroke window (.layOut span l)).attributes[u]?, a.layout == some l
  := by
  obtain ⟨a, ha⟩ := exists_attributes seen.2.2
  refine ⟨a.layOut l, ?_, ?_⟩
  · rw [getElem?_stroke_of_sees seen, ha]
    rfl
  · rw [Attributes.layOut]
    split
    · assumption
    · exact numbers.beq_self

/-- What is seen and has another layout gets a new one. -/
theorem getElem?_stroke_of_deviates (seen : b.Sees window span u) (deviates : b.Deviates l u) :
  (b.stroke window (.layOut span l)).attributes[u]?
    = b.attributes[u]?.map fun a => { a with layout := some l }
  := by
  obtain ⟨a, ha, differs⟩ := deviates
  rw [getElem?_stroke_of_sees seen, ha]
  exact congrArg some (if_neg differs)

/-- What is not seen or has an equal layout stays as it is. -/
theorem getElem?_stroke_of_not (still : ¬ (b.Sees window span u ∧ b.Deviates l u)) :
  (b.stroke window (.layOut span l)).attributes[u]? = b.attributes[u]?
  := by
  by_cases seen : b.Sees window span u
  · obtain ⟨a, ha⟩ := exists_attributes seen.2.2
    have same : a.layout == some l := by
      by_contra differs
      exact still ⟨seen, a, ha, differs⟩
    rw [getElem?_stroke_of_sees seen, ha]
    exact congrArg some (if_pos same)
  · exact getElem?_stroke_of_not_sees seen

/-- Each run of equal layouts that is seen and has another layout is noted. -/
theorem exists_isDeviating_stroke (numbers : ∀ u, u < b.length → b.SameLayout u u)
    (closed : b.depth = 0) :
  (b.stroke window (.layOut span l)).depth = 0
    ∧ (b.stroke window (.layOut span l)).batch = b.batch
    ∧ ∃ spans, b.IsDeviating l (b.Sees window span) spans
      ∧ (b.stroke window (.layOut span l)).edits = b.edits ++ (spans.map Edit.ofSpan).toArray
  := by
  cases visible : span.visible? window with
  | none =>
    have unseen (u : Nat) : ¬ b.Sees window span u := by
      rw [sees_iff, visible]
      rintro ⟨s, hs, -⟩
      cases hs
    rw [stroke_of_invisible visible]
    exact ⟨closed, rfl, [], isDeviating_nil unseen, Array.append_empty.symm⟩
  | some s =>
    rw [stroke_of_visible visible, sees_of_visible visible]
    exact exists_isDeviating_layOut numbers closed rfl fun _ _ => rfl

/-- Nothing is written where all that is seen has an equal layout. -/
theorem stroke_of_equal (equal : ∀ u, b.Sees window span u → ¬ b.Deviates l u) :
  b.stroke window (.layOut span l) = b
  := by
  cases visible : span.visible? window with
  | none => exact stroke_of_invisible visible
  | some s =>
    rw [stroke_of_visible visible]
    apply layOut_of_equal
    intro u lower upper deviates
    have short : u < b.length := by
      obtain ⟨a, ha, -⟩ := deviates
      exact (Array.getElem?_eq_some_iff.mp ha).1
    apply equal u _ deviates
    rw [sees_of_visible visible]
    exact ⟨lower, Nat.lt_min.mpr ⟨upper, short⟩⟩

end

/-- A layout is written exactly where the code units in a span that a window shows have another one,
and each run of them is noted once. -/
theorem isRelaid_stroke (b : Buffer) (window : Option Span) (span : Span) (l : Layout)
    (numbers : l.HasNumbers) (proper : ∀ a ∈ b.attributes, ∀ m ∈ a.layout, m.HasNumbers)
    (closed : b.depth = 0) :
  b.IsRelaid window span l (b.stroke window (.layOut span l))
  := by
  have reflexive (u : Nat) (inside : u < b.length) : b.SameLayout u u := by
    obtain ⟨a, ha⟩ := exists_attributes inside
    refine ⟨a, ha, a, ha, ?_⟩
    cases hm : a.layout with
    | none => rfl
    | some m => exact (proper a (Array.mem_of_getElem? ha) m hm).beq_self
  obtain ⟨depth, batch, noted⟩ := exists_isDeviating_stroke reflexive closed
  refine ⟨?_, version_strokes window b [.layOut span l], ⟨depth, batch⟩,
    fun u => exists_layout_of_sees numbers, fun u => getElem?_stroke_of_deviates,
    fun u => getElem?_stroke_of_not, noted, stroke_of_equal⟩
  intro s visible
  rw [stroke_of_visible visible]
  exact exists_layOutEnds b l s.stop s.start

/-- The layout is there already in the middle of a span, the start of which is not shown and the end
of which is out of bounds. -/
theorem isRelaid_stroke_around :
  let l : Layout := ⟨8, 0, 12, 12, 4⟩
  let b := (ofText "abcdef".toList {}).addAttribute ⟨2, 4⟩ (.layout l)
  let c := b.stroke (some ⟨1, 9⟩) (.layOut ⟨0, 8⟩ l)
  (l.HasNumbers ∧ (∀ a ∈ b.attributes, ∀ m ∈ a.layout, m.HasNumbers) ∧ b.depth = 0)
    ∧ b.IsRelaid (some ⟨1, 9⟩) ⟨0, 8⟩ l c
    ∧ c.edits = b.edits ++ #[Edit.ofSpan ⟨1, 2⟩, Edit.ofSpan ⟨4, 6⟩]
  := by
  intro l b c
  have numbers : l.HasNumbers := by decide +kernel
  have proper : ∀ a ∈ b.attributes, ∀ m ∈ a.layout, m.HasNumbers := by decide +kernel
  have closed : b.depth = 0 := rfl
  exact ⟨⟨numbers, proper, closed⟩, isRelaid_stroke b (some ⟨1, 9⟩) ⟨0, 8⟩ l numbers proper closed,
    by decide +kernel⟩

end Buffer

end LiveMarkdown
