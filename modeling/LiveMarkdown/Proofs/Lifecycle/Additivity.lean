import LiveMarkdown.Proofs.Lifecycle.Deliveries

/-!
# Moving a clock in parts

A clock that is moved forward in two parts does what it does when it is moved all the way at
once.  The same timers are delivered, in the same order and when the clock shows the same, and
whoever receives them can not tell the difference.

* What happens from a moment on does not depend on what was before that moment.
* While nothing is due, a clock may wait or not.  This is so because no pending timer was due
  before: a timer is delivered when it is due, wherever the clock has stopped on the way.
* So a move can be cut in two between any two deliveries, and this is what a stop on the way does.
-/

namespace LiveMarkdown

variable {α β : Type}

namespace Chronicle

variable {f : Callback α} {s s' r t : α × Chronicle} {p : PendingTimer} {stop time limit limit' : Nat}

/-- The present state of whoever receives timers, and the present moment. -/
def present (s : α × Chronicle) : α × Moment :=
  (s.1, s.2.today)

/-! ### One delivery after the other -/

/-- When no timer is due, time passes. -/
theorem advanceTo?_of_late (late : ∀ q ∈ s.2.today.clock.pending, time < q.due) :
  advanceTo? f time limit s = some (s.1, s.2.note (s.2.today.wait time))
  := by
  rw [advanceTo?]
  cases next : s.2.today.clock.next? with
  | none => rfl
  | some p => exact if_neg (Nat.not_le.mpr (late p (Clock.next?_spec next).1))

/-- When a timer is due, the next one is delivered first. -/
theorem advanceTo?_of_due (next : s.2.today.clock.next? = some p) (due : p.due ≤ time) :
  advanceTo? f time (limit + 1) s = advanceTo? f time limit (receive f p s)
  := by
  rw [advanceTo?]
  simp only [next]
  exact if_pos due

/-- When a timer is due, a clock is not moved without a delivery. -/
theorem advanceTo?_zero_of_due (next : s.2.today.clock.next? = some p) (due : p.due ≤ time) :
  advanceTo? f time 0 s = none
  := by
  rw [advanceTo?]
  simp only [next]
  exact if_pos due

/-- More deliveries may be allowed than are made. -/
theorem advanceTo?_mono (more : limit ≤ limit') (advanced : advanceTo? f time limit s = some t) :
  advanceTo? f time limit' s = some t
  := by
  induction limit generalizing s limit' with
  | zero =>
    rcases s.2.today.clock.due_or_late time with ⟨p, next, due⟩ | late
    · rw [advanceTo?_zero_of_due next due] at advanced
      cases advanced
    · rw [advanceTo?_of_late late] at advanced ⊢
      exact advanced
  | succ limit ih =>
    rcases s.2.today.clock.due_or_late time with ⟨p, next, due⟩ | late
    · obtain ⟨more', rfl⟩ : ∃ n, limit' = n + 1 := ⟨limit' - 1, by omega⟩
      rw [advanceTo?_of_due next due] at advanced ⊢
      exact ih (Nat.le_of_succ_le_succ more) advanced
    · rw [advanceTo?_of_late late] at advanced ⊢
      exact advanced

/-! ### What is past does not matter -/

theorem today_call {ch ch' : Chronicle} (same : ch.today = ch'.today) (c : Call) :
  (ch.call c).today = (ch'.call c).today
  := congrArg (fun m : Moment => m.call c) same

theorem today_calls {ch ch' : Chronicle} (same : ch.today = ch'.today) (calls : List Call) :
  (calls.foldl call ch).today = (calls.foldl call ch').today
  := by
  induction calls generalizing ch ch' with
  | nil => exact same
  | cons c calls ih => exact ih (today_call same c)

/-- Two deliveries that lead to the same moment have the same effect. -/
theorem present_receive (state : s.1 = s'.1)
    (delivered : s.2.today.deliver p = s'.2.today.deliver p) :
  present (receive f p s) = present (receive f p s')
  := by
  have clock : (s.2.note (s.2.today.deliver p)).today = (s'.2.note (s'.2.today.deliver p)).today :=
    delivered
  rw [present, present, receive, receive]
  dsimp only
  rw [clock, state]
  exact congrArg (Prod.mk _) (today_calls clock _)

/-- What happens from a moment on does not depend on what was before. -/
theorem present_advanceTo? (same : present s = present s') :
  (advanceTo? f time limit s).map present = (advanceTo? f time limit s').map present
  := by
  obtain ⟨state, today⟩ := Prod.mk.inj same
  induction limit generalizing s s' with
  | zero =>
    rcases s.2.today.clock.due_or_late time with ⟨p, next, due⟩ | late
    · rw [advanceTo?_zero_of_due next due, advanceTo?_zero_of_due (today ▸ next) due]
    · rw [advanceTo?_of_late late, advanceTo?_of_late (today ▸ late)]
      exact congrArg some (congrArg₂ (fun x m => (x, Moment.wait m time)) state today)
  | succ limit ih =>
    rcases s.2.today.clock.due_or_late time with ⟨p, next, due⟩ | late
    · rw [advanceTo?_of_due next due, advanceTo?_of_due (today ▸ next) due]
      have received : present (receive f p s) = present (receive f p s') :=
        present_receive state (congrArg (fun m : Moment => m.deliver p) today)
      obtain ⟨state', today'⟩ := Prod.mk.inj received
      exact ih received state' today'
    · rw [advanceTo?_of_late late, advanceTo?_of_late (today ▸ late)]
      exact congrArg some (congrArg₂ (fun x m => (x, Moment.wait m time)) state today)

/-! ### A stop on the way -/

/-- A clock at which nothing was due before may wait first. -/
theorem present_advanceTo?_wait (due : ∀ q ∈ s.2.today.clock.pending, s.2.today.clock.now ≤ q.due)
    (late : ∀ q ∈ s.2.today.clock.pending, stop < q.due) :
  (advanceTo? f time limit (s.1, s.2.note (s.2.today.wait stop))).map present
    = (advanceTo? f time limit s).map present
  := by
  let waiting : α × Chronicle := (s.1, s.2.note (s.2.today.wait stop))
  change (advanceTo? f time limit waiting).map present = _
  rcases s.2.today.clock.due_or_late time with ⟨p, next, inTime⟩ | tooLate
  · have next' : waiting.2.today.clock.next? = some p := next
    cases limit with
    | zero => rw [advanceTo?_zero_of_due next inTime, advanceTo?_zero_of_due next' inTime]
    | succ limit =>
      rw [advanceTo?_of_due next inTime, advanceTo?_of_due next' inTime]
      apply present_advanceTo?
      have state : waiting.1 = s.1 := rfl
      apply present_receive state
      -- both clocks show when the timer is due
      have hp := (Clock.next?_spec next).1
      have clock : max stop p.due = max s.2.today.clock.now p.due := by
        rw [Nat.max_eq_right (Nat.le_of_lt (late p hp)), Nat.max_eq_right (due p hp)]
      simp only [waiting, Chronicle.note, Moment.wait, Moment.deliver, Clock.deliver, clock]
  · have tooLate' : ∀ q ∈ waiting.2.today.clock.pending, time < q.due := tooLate
    rw [advanceTo?_of_late tooLate, advanceTo?_of_late tooLate']
    rfl

/-- A clock that gets to a time can stop on the way, and gets there all the same. -/
theorem exists_advanceTo?_stop (sound : s.2.IsSound) (before : stop ≤ time)
    (advanced : advanceTo? f time limit s = some t) :
  ∃ r, advanceTo? f stop limit s = some r
    ∧ (advanceTo? f time limit r).map present = some (present t)
  := by
  induction limit generalizing s with
  | zero =>
    rcases s.2.today.clock.due_or_late stop with ⟨p, next, due⟩ | late
    · rw [advanceTo?_zero_of_due next (Nat.le_trans due before)] at advanced
      cases advanced
    · refine ⟨_, advanceTo?_of_late late, ?_⟩
      rw [present_advanceTo?_wait sound.today.late late, advanced]
      rfl
  | succ limit ih =>
    rcases s.2.today.clock.due_or_late stop with ⟨p, next, due⟩ | late
    · rw [advanceTo?_of_due next (Nat.le_trans due before)] at advanced
      obtain ⟨r, stopped, rest⟩ := ih (sound.receive next f).1 advanced
      refine ⟨r, (advanceTo?_of_due next due).trans stopped, ?_⟩
      obtain ⟨t', advanced', same⟩ := Option.map_eq_some_iff.mp rest
      rw [advanceTo?_mono (Nat.le_succ limit) advanced', Option.map_some, same]
    · refine ⟨_, advanceTo?_of_late late, ?_⟩
      rw [present_advanceTo?_wait sound.today.late late, advanced]
      rfl

/-- A clock that gets to a time after a stop gets there without it. -/
theorem present_advanceTo?_of_stop (sound : s.2.IsSound) (before : stop ≤ time)
    (stopped : advanceTo? f stop limit s = some r)
    (advanced : advanceTo? f time limit' r = some t) :
  (advanceTo? f time (limit + limit') s).map present = some (present t)
  := by
  induction limit generalizing s with
  | zero =>
    rcases s.2.today.clock.due_or_late stop with ⟨p, next, due⟩ | late
    · rw [advanceTo?_zero_of_due next due] at stopped
      cases stopped
    · rw [advanceTo?_of_late late] at stopped
      obtain rfl := Option.some.inj stopped
      rw [Nat.zero_add, ← present_advanceTo?_wait sound.today.late late, advanced]
      rfl
  | succ limit ih =>
    rcases s.2.today.clock.due_or_late stop with ⟨p, next, due⟩ | late
    · rw [advanceTo?_of_due next due] at stopped
      rw [Nat.succ_add, advanceTo?_of_due next (Nat.le_trans due before)]
      exact ih (sound.receive next f).1 stopped
    · rw [advanceTo?_of_late late] at stopped
      obtain rfl := Option.some.inj stopped
      have whole := advanceTo?_mono (Nat.le_add_left limit' (limit + 1)) advanced
      rw [← present_advanceTo?_wait sound.today.late late, whole]
      rfl

/-! ### Two moves and one -/

theorem follow?_advance (a : Nat) (rest : List (Request α)) :
  follow? limit (.advance a f :: rest) s
    = (advanceTo? f (s.2.today.clock.now + a) limit s).bind (follow? limit rest)
  := by
  rw [follow?]

theorem follow?_advance_nil (a : Nat) :
  follow? limit [.advance a f] s = advanceTo? f (s.2.today.clock.now + a) limit s
  := by
  rw [follow?_advance]
  cases advanceTo? f (s.2.today.clock.now + a) limit s with
  | none => rfl
  | some t => rfl

theorem now_of_advanceTo? (advanced : advanceTo? f time limit s = some t) :
  t.2.today.clock.now = time
  := by
  have moved := forget_advanceTo? f time limit s
  rw [advanced] at moved
  exact (Clock.advanceTo?_done moved.symm).1

theorem exists_follow?_advance_advance {a b : Nat} (sound : s.2.IsSound)
    (once : follow? limit [.advance (a + b) f] s = some t) :
  ∃ t', follow? limit [.advance a f, .advance b f] s = some t' ∧ present t' = present t
  := by
  rw [follow?_advance_nil, ← Nat.add_assoc] at once
  obtain ⟨r, first, rest⟩ := exists_advanceTo?_stop sound (Nat.le_add_right _ _) once
  obtain ⟨t', second, same⟩ := Option.map_eq_some_iff.mp rest
  use t'
  constructor
  · rw [follow?_advance, first, Option.bind_some, follow?_advance_nil, now_of_advanceTo? first]
    exact second
  · exact same

theorem exists_follow?_advance_add {a b : Nat} (sound : s.2.IsSound)
    (twice : follow? limit [.advance a f, .advance b f] s = some t) :
  ∃ t', follow? (limit + limit) [.advance (a + b) f] s = some t' ∧ present t' = present t
  := by
  rw [follow?_advance] at twice
  obtain ⟨r, first, second⟩ := Option.bind_eq_some_iff.mp twice
  rw [follow?_advance_nil, now_of_advanceTo? first] at second
  rw [follow?_advance_nil, ← Nat.add_assoc]
  have whole := present_advanceTo?_of_stop sound (Nat.le_add_right _ _) first second
  exact Option.map_eq_some_iff.mp whole

theorem forget_eq_of_present (same : present s = present s') :
  forget s = forget s'
  := congrArg (fun w : α × Moment => (w.1, w.2.clock)) same

end Chronicle

namespace Clock

/-- From every state that a clock can reach, to move it forward by `a` and then by `b` is to move it
by `a + b`.  If the one comes to an end so does the other.  Whoever receives the timers is left
with the same, and so is the clock.  On the record, the same timers have been delivered in the same
order, and when the clock showed the same; the same timers have been set and cancelled. -/
theorem advance_add {limit : Nat} {requests : List (Request β)} {x y : β} {clock : Clock}
    (followed : follow? limit requests (x, {}) = some (y, clock)) (f : Callback α) (z : α)
    (a b : Nat) :
  ∃ ch, Chronicle.follow? limit requests (x, {}) = some (y, ch) ∧ ch.today.clock = clock
    ∧ (∀ n t, follow? n [.advance (a + b) f] (z, clock) = some t →
        follow? n [.advance a f, .advance b f] (z, clock) = some t
        ∧ ∃ once twice, Chronicle.follow? n [.advance (a + b) f] (z, ch) = some (t.1, once)
          ∧ Chronicle.follow? n [.advance a f, .advance b f] (z, ch) = some (t.1, twice)
          ∧ once.today = twice.today ∧ once.today.clock = t.2)
    ∧ ∀ n t, follow? n [.advance a f, .advance b f] (z, clock) = some t →
        follow? (n + n) [.advance (a + b) f] (z, clock) = some t
  := by
  have same := Chronicle.forget_follow? limit requests (x, {})
  change _ = follow? limit requests (x, {}) at same
  rw [followed] at same
  obtain ⟨⟨y', ch⟩, recorded, pair⟩ := Option.map_eq_some_iff.mp same
  obtain ⟨rfl, rfl⟩ := Prod.mk.inj pair
  have sound := Chronicle.isSound_follow? (s := (x, {})) Chronicle.isSound_start recorded
  -- what is done without a record is what is done with one
  have forgotten (n : Nat) (moves : List (Request α)) :
      follow? n moves (z, ch.today.clock)
        = (Chronicle.follow? n moves (z, ch)).map Chronicle.forget :=
    (Chronicle.forget_follow? n moves (z, ch)).symm
  refine ⟨ch, recorded, rfl, ?_, ?_⟩
  · intro n t once
    rw [forgotten] at once ⊢
    obtain ⟨w, moved, rfl⟩ := Option.map_eq_some_iff.mp once
    obtain ⟨w', moved', present⟩ := Chronicle.exists_follow?_advance_advance (s := (z, ch)) sound moved
    obtain ⟨state, today⟩ := Prod.mk.inj present
    constructor
    · rw [moved', Option.map_some, Chronicle.forget_eq_of_present present]
    · refine ⟨w.2, w'.2, moved, ?_, today.symm, rfl⟩
      rw [moved']
      exact congrArg some (Prod.ext state rfl)
  · intro n t twice
    rw [forgotten] at twice ⊢
    obtain ⟨w, moved, rfl⟩ := Option.map_eq_some_iff.mp twice
    obtain ⟨w', moved', present⟩ := Chronicle.exists_follow?_advance_add (s := (z, ch)) sound moved
    rw [moved', Option.map_some, Chronicle.forget_eq_of_present present]

/-- The stop is when a timer is due, and whoever receives it sets two others, one of them to be
delivered at once. -/
theorem advance_add_at_due :
  let f : Callback Nat := fun _ x _ =>
    (x + 1, if x = 0 then [.schedule 0 ⟨.nextLines, 1⟩, .schedule 1 ⟨.debounce, 1⟩] else [])
  let requests : List (Request Unit) :=
    [.call (.schedule 5 ⟨.debounce, 0⟩), .advance 3 fun _ x _ => (x, [])]
  follow? 9 requests ((), {}) = some ((), ⟨3, 1, [⟨1, 5, ⟨.debounce, 0⟩⟩]⟩)
    ∧ follow? 9 [.advance 2 f, .advance 4 f] (0, ⟨3, 1, [⟨1, 5, ⟨.debounce, 0⟩⟩]⟩) = some (3, ⟨9, 3, []⟩)
    ∧ ∃ ch, ch.today.clock = ⟨3, 1, [⟨1, 5, ⟨.debounce, 0⟩⟩]⟩
      ∧ ∃ once twice, Chronicle.follow? 9 [.advance 6 f] (0, ch) = some (3, once)
        ∧ Chronicle.follow? 9 [.advance 2 f, .advance 4 f] (0, ch) = some (3, twice)
        ∧ once.today = twice.today
  := by
  intro f requests
  have followed : follow? 9 requests ((), {}) = some ((), ⟨3, 1, [⟨1, 5, ⟨.debounce, 0⟩⟩]⟩) := by
    decide +kernel
  obtain ⟨ch, -, today, forward, -⟩ := advance_add followed f 0 2 4
  obtain ⟨moved, once, twice, first, second, same, -⟩ :=
    forward 9 (3, ⟨9, 3, []⟩) (by decide +kernel)
  exact ⟨followed, moved, ch, today, once, twice, first, second, same⟩

end Clock

end LiveMarkdown
