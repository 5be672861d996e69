import LiveMarkdown.Proofs.Lifecycle.Awaited
import LiveMarkdown.Proofs.Lifecycle.Order
import LiveMarkdown.Proofs.Lifecycle.Pending

/-!
# Tidy clocks

A clock is tidy if its timers can be told apart by their generations and none of them is
overdue.  The clocks of sessions stay tidy, whether they honour cancellations or not: a timer
that is set is of a new generation, and timers are delivered in the order in which they are
due.
-/

namespace LiveMarkdown

/-! ### Clocks -/

namespace Clock

/-- The timers of a clock are of different generations up to the `n`-th, and none of them is
overdue. -/
structure Tidy (c : Clock) (n : Nat) : Prop extends IsSound c where
  /-- Timers that were set later are of later generations. -/
  order : c.pending.Pairwise fun p q => p.timer.generation < q.timer.generation
  /-- No timer is of a later generation than the `n`-th. -/
  generations : ∀ p ∈ c.pending, p.timer.generation ≤ n
  /-- No timer is overdue. -/
  due : ∀ p ∈ c.pending, c.now ≤ p.due

variable {c d : Clock} {n : Nat}

theorem tidy_of_empty (empty : c.pending = []) :
  c.Tidy n
  := by
  refine ⟨⟨?_, ?_⟩, ?_, ?_, ?_⟩
  all_goals
    rw [empty]
  · nofun
  · nofun
  · exact .nil
  · nofun
  · nofun

namespace Tidy

theorem nodup (tidy : c.Tidy n) :
  c.pending.Nodup
  := by
  apply tidy.order.imp
  rintro p q later rfl
  exact Nat.lt_irrefl _ later

/-- A timer is found by its value. -/
theorem eq_of_timer (tidy : c.Tidy n) {p q : PendingTimer} (hp : p ∈ c.pending)
    (hq : q ∈ c.pending) (same : p.timer = q.timer) :
  p = q
  := by
  have generations : (c.pending.map fun p => p.timer.generation).Nodup :=
    (List.pairwise_map.mpr tidy.order).imp Nat.ne_of_lt
  exact List.inj_on_of_nodup_map generations hp hq (congrArg Timer.generation same)

/-- Fewer timers are still tidy. -/
theorem of_sublist (tidy : c.Tidy n) (last : c.lastHandle ≤ d.lastHandle)
    (fewer : d.pending.Sublist c.pending) (due : ∀ p ∈ d.pending, d.now ≤ p.due) :
  d.Tidy n
  where
  toIsSound := isSound_of_subset tidy.toIsSound last fewer.subset
  order := tidy.order.sublist fewer
  generations := by
    intro p hp
    exact tidy.generations p (fewer.subset hp)
  due := due

theorem cancel (tidy : c.Tidy n) (handle : Nat) :
  (c.cancel handle).Tidy n
  := by
  apply tidy.of_sublist (d := c.cancel handle) le_rfl List.filter_sublist
  intro p hp
  exact tidy.due p (List.mem_of_mem_filter hp)

/-- Timers are delivered in the order in which they are due, so none becomes overdue. -/
theorem deliver (tidy : c.Tidy n) {p : PendingTimer} (next : c.next? = some p) :
  (c.deliver p).Tidy n
  := by
  apply tidy.of_sublist (d := c.deliver p) le_rfl List.filter_sublist
  intro q hq
  have old := List.mem_of_mem_filter hq
  exact Nat.max_le.mpr ⟨tidy.due q old, due_le_of_next? next old⟩

theorem wait (tidy : c.Tidy n) {time : Nat} (late : ∀ p ∈ c.pending, time < p.due) :
  { c with now := time }.Tidy n
  := by
  apply tidy.of_sublist (d := { c with now := time }) le_rfl (List.Sublist.refl _)
  intro p hp
  exact (late p hp).le

theorem schedule (tidy : c.Tidy n) (delay : Nat) {timer : Timer}
    (fresh : timer.generation = n + 1) :
  (c.schedule delay timer).2.Tidy (n + 1)
  where
  toIsSound := tidy.toIsSound.schedule delay timer
  order := by
    apply List.pairwise_append.mpr ⟨tidy.order, List.pairwise_singleton _ _, ?_⟩
    intro p hp q hq
    obtain rfl := List.mem_singleton.mp hq
    rw [fresh]
    exact Nat.lt_succ_of_le (tidy.generations p hp)
  generations := by
    intro p hp
    rcases List.mem_append.mp hp with hp | hp
    · exact Nat.le_succ_of_le (tidy.generations p hp)
    · obtain rfl := List.mem_singleton.mp hp
      exact fresh.le
  due := by
    intro p hp
    rcases List.mem_append.mp hp with hp | hp
    · exact tidy.due p hp
    · obtain rfl := List.mem_singleton.mp hp
      exact Nat.le_add_right _ _

end Tidy

end Clock

theorem UnreliableClock.tidy_cancel {u : UnreliableClock} {n : Nat} (tidy : u.clock.Tidy n)
    (handle : Nat) :
  (u.cancel handle).clock.Tidy n
  := by
  rw [cancel]
  dsimp only
  split
  · exact tidy.cancel handle
  · exact tidy

/-! ### Sessions -/

namespace Session

variable {u u' : Session UnreliableClock} {base : UnreliableClock} {h : History} {n : Nat}

theorem tidy_unscheduled (tidy : u.scheduler.clock.Tidy n) :
  u.unscheduled.clock.Tidy n
  := by
  apply unscheduled_induction (motive := fun base : UnreliableClock => base.clock.Tidy n) _ tidy
  intro base handle tidy
  apply UnreliableClock.tidy_cancel tidy

theorem Turns.tidy (turns : u.Turns base u') (tidy : base.clock.Tidy u.coordinator.generation) :
  u'.scheduler.clock.Tidy u'.coordinator.generation
  := by
  cases turns with
  | rests awaited generation scheduler =>
    rw [scheduler, generation]
    exact tidy
  | waits kind delay awaited generation scheduler =>
    rw [scheduler, generation]
    exact tidy.schedule delay rfl

theorem Tracks.tidy_update (tracks : u.Tracks h)
    (tidy : u.scheduler.clock.Tidy u.coordinator.generation) {m : Message}
    (own : m.timer? = none) :
  (u.update m).scheduler.clock.Tidy (u.update m).coordinator.generation
  := by
  rcases tracks.turns_update own with same | turns
  · rw [same.scheduler, same.generation]
    exact tidy
  · exact turns.tidy (tidy_unscheduled tidy)

end Session

end LiveMarkdown
