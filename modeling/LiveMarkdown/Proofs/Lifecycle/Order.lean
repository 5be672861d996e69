import LiveMarkdown.Lifecycle.Clock
import Mathlib.Data.List.Basic

/-!
# The order of deliveries

The timer that a clock delivers next is one of those that are pending, and none of them
comes before it.  What every delivery preserves, and the passing of time, is preserved by
moving the clock and by running it.
-/

namespace LiveMarkdown

namespace PendingTimer

theorem isBefore_iff {p q : PendingTimer} :
  p.isBefore q ↔ p.due < q.due ∨ p.due = q.due ∧ p.handle < q.handle
  := by
  simp [isBefore]

theorem sooner_cases (p q : PendingTimer) :
  p.sooner q = p ∨ p.sooner q = q
  := by
  unfold sooner
  split
  · exact .inr rfl
  · exact .inl rfl

/-- Of two timers, neither comes before the one that is delivered first. -/
theorem not_isBefore_sooner (p q : PendingTimer) :
  ¬ p.isBefore (p.sooner q) ∧ ¬ q.isBefore (p.sooner q)
  := by
  unfold sooner
  split
  · rename_i before
    simp only [isBefore_iff] at before ⊢
    omega
  · rename_i after
    simp only [isBefore_iff] at after ⊢
    omega

/-- What does not come before a timer does not come before a later one. -/
theorem not_isBefore_trans {p q r : PendingTimer} (hp : ¬ p.isBefore q) (hq : ¬ q.isBefore r) :
  ¬ p.isBefore r
  := by
  simp only [isBefore_iff] at hp hq ⊢
  omega

theorem foldl_sooner_mem (p : PendingTimer) (ps : List PendingTimer) :
  ps.foldl sooner p ∈ p :: ps
  := by
  induction ps generalizing p with
  | nil => exact List.mem_singleton_self p
  | cons q ps ih =>
    rw [List.foldl_cons]
    rcases List.mem_cons.mp (ih (p.sooner q)) with same | later
    · rw [same]
      rcases sooner_cases p q with first | second
      · rw [first]
        exact List.mem_cons_self
      · rw [second]
        exact List.mem_cons_of_mem _ List.mem_cons_self
    · exact List.mem_cons_of_mem _ (List.mem_cons_of_mem _ later)

theorem not_isBefore_foldl_sooner (p : PendingTimer) (ps : List PendingTimer) :
  ∀ q ∈ p :: ps, ¬ q.isBefore (ps.foldl sooner p)
  := by
  induction ps generalizing p with
  | nil =>
    intro q hq
    obtain rfl := List.mem_singleton.mp hq
    simp [isBefore_iff]
  | cons r ps ih =>
    rw [List.foldl_cons]
    have least := ih (p.sooner r) _ List.mem_cons_self
    obtain ⟨first, second⟩ := not_isBefore_sooner p r
    intro q hq
    rcases List.mem_cons.mp hq with rfl | hq
    · exact not_isBefore_trans first least
    · rcases List.mem_cons.mp hq with rfl | hq
      · exact not_isBefore_trans second least
      · exact ih (p.sooner r) q (List.mem_cons_of_mem _ hq)

end PendingTimer

namespace Clock

theorem next?_eq_none_iff {c : Clock} :
  c.next? = none ↔ c.pending = []
  := by
  rw [next?]
  cases c.pending with
  | nil => simp
  | cons p ps => simp

theorem next?_spec {c : Clock} {p : PendingTimer} (next : c.next? = some p) :
  p ∈ c.pending ∧ ∀ q ∈ c.pending, ¬ q.isBefore p
  := by
  rw [next?] at next
  cases pending : c.pending with
  | nil =>
    rw [pending] at next
    cases next
  | cons q qs =>
    rw [pending] at next
    obtain rfl := Option.some.inj next
    exact ⟨PendingTimer.foldl_sooner_mem q qs, PendingTimer.not_isBefore_foldl_sooner q qs⟩

/-- No pending timer is due before the one that is delivered next. -/
theorem due_le_of_next? {c : Clock} {p q : PendingTimer} (next : c.next? = some p)
    (hq : q ∈ c.pending) :
  p.due ≤ q.due
  := by
  have first := (next?_spec next).2 q hq
  rw [PendingTimer.isBefore_iff] at first
  omega

/-- Either a timer is due at a time, or none is. -/
theorem due_or_late (c : Clock) (time : Nat) :
  (∃ p, c.next? = some p ∧ p.due ≤ time) ∨ ∀ q ∈ c.pending, time < q.due
  := by
  cases next : c.next? with
  | none =>
    right
    rw [next?_eq_none_iff.mp next]
    nofun
  | some p =>
    by_cases due : p.due ≤ time
    · exact .inl ⟨p, rfl, due⟩
    · right
      intro q hq
      exact Nat.lt_of_lt_of_le (Nat.lt_of_not_le due) (due_le_of_next? next hq)

variable {α : Type} {receive : Timer → α × Clock → α × Clock} {motive : α × Clock → Prop}

/-- When no timer is due, time passes. -/
theorem advanceTo?_of_late {time limit : Nat} {s : α × Clock}
    (late : ∀ q ∈ s.2.pending, time < q.due) :
  advanceTo? receive time limit s = some (s.1, { s.2 with now := time })
  := by
  rw [advanceTo?]
  cases next : s.2.next? with
  | none => rfl
  | some p => exact if_neg (Nat.not_le.mpr (late p (next?_spec next).1))

/-- When a timer is due, the next one is delivered first. -/
theorem advanceTo?_of_due {time limit : Nat} {s : α × Clock} {p : PendingTimer}
    (next : s.2.next? = some p) (due : p.due ≤ time) :
  advanceTo? receive time (limit + 1) s
    = advanceTo? receive time limit (receive p.timer (s.1, s.2.deliver p))
  := by
  rw [advanceTo?]
  simp only [next]
  exact if_pos due

/-- When a timer is due, a clock is not moved without a delivery. -/
theorem advanceTo?_zero_of_due {time : Nat} {s : α × Clock} {p : PendingTimer}
    (next : s.2.next? = some p) (due : p.due ≤ time) :
  advanceTo? receive time 0 s = none
  := by
  rw [advanceTo?]
  simp only [next]
  exact if_pos due

/-- More deliveries may be allowed than are made. -/
theorem advanceTo?_mono {time limit limit' : Nat} {s t : α × Clock} (more : limit ≤ limit')
    (advanced : advanceTo? receive time limit s = some t) :
  advanceTo? receive time limit' s = some t
  := by
  fun_induction advanceTo? receive time limit s generalizing limit' with
  | case1 limit s none =>
    rw [advanceTo?, none]
    exact advanced
  | case2 s p next due => cases advanced
  | case3 s p next due limit ih =>
    obtain ⟨more', rfl⟩ : ∃ n, limit' = n + 1 := ⟨limit' - 1, by omega⟩
    rw [advanceTo?_of_due next due]
    exact ih (Nat.le_of_succ_le_succ more) advanced
  | case4 limit s p next late =>
    rw [advanceTo?]
    simp only [next]
    exact (if_neg late).trans advanced

/-- What the delivery of the next timer and the passing of time preserve is preserved by
moving a clock to a time. -/
theorem advanceTo?_induction {time limit : Nat} {s t : α × Clock}
    (deliver : ∀ s p, motive s → s.2.next? = some p →
      motive (receive p.timer (s.1, s.2.deliver p)))
    (wait : ∀ s, motive s → motive (s.1, { s.2 with now := time }))
    (start : motive s) (advanced : advanceTo? receive time limit s = some t) :
  motive t
  := by
  fun_induction advanceTo? receive time limit s with
  | case1 limit s none =>
    obtain rfl := Option.some.inj advanced
    exact wait s start
  | case2 s p next due => cases advanced
  | case3 s p next due limit ih => exact ih (deliver s p start next) advanced
  | case4 limit s p next late =>
    obtain rfl := Option.some.inj advanced
    exact wait s start

/-- What the delivery of the next timer preserves is preserved by running a clock. -/
theorem run_induction {limit : Nat} {s : α × Clock}
    (deliver : ∀ s p, motive s → s.2.next? = some p →
      motive (receive p.timer (s.1, s.2.deliver p)))
    (start : motive s) :
  motive (run receive limit s).2
  := by
  fun_induction run receive limit s with
  | case1 s => exact start
  | case2 s limit none => exact start
  | case3 s limit p next n t last ih =>
    rw [last] at ih
    exact ih (deliver s p start next)

end Clock

end LiveMarkdown
