import LiveMarkdown.Proofs.Lifecycle.Awaited
import LiveMarkdown.Proofs.Lifecycle.Order

/-!
# Sessions and their clocks

A host that lets a clock deliver the timers of a session, and a clock that honours every
cancellation, never have a timer pending that the session does not wait for, nor is one
missing.  So the state of a session tells how many timers are pending: none if it is idle,
and one otherwise.
-/

namespace LiveMarkdown

/-- What a session waits for when it waits for a pending timer. -/
def PendingTimer.awaited (p : PendingTimer) : AwaitedTimer :=
  ⟨p.timer, p.handle⟩

namespace Clock

variable {c : Clock}

/-- Cancelling the one timer that is pending leaves none. -/
theorem pending_cancel {a : AwaitedTimer} (only : c.pending.map PendingTimer.awaited = [a]) :
  (c.cancel a.handle).pending = []
  := by
  obtain ⟨p, hp, rfl⟩ := List.map_eq_singleton_iff.mp only
  simp [cancel, hp, PendingTimer.awaited]

/-- Delivering the one timer that is pending leaves none. -/
theorem pending_deliver {p : PendingTimer} (only : c.pending = [p]) :
  (c.deliver p).pending = []
  := by
  simp [deliver, only]

end Clock

namespace Session

variable {s s' : Session Clock} {h : History} {base : Clock}

/-! ### Clocks that hold what is waited for -/

/-- The clock of a session holds the timers that the session waits for, and no others. -/
structure Orderly (s : Session Clock) : Prop where
  /-- The invariant of sessions. -/
  tracks : ∃ h, s.Tracks h
  /-- The pending timers. -/
  pending : s.scheduler.pending.map PendingTimer.awaited = s.awaited

/-- When the timers that a session waits for are cancelled, none is pending. -/
theorem pending_unscheduled (tracks : s.Tracks h)
    (pending : s.scheduler.pending.map PendingTimer.awaited = s.awaited) :
  s.unscheduled.pending = []
  := by
  cases hl : s.coordinator.loading with
  | some loading =>
    rw [awaited_eq_of_loading tracks hl] at pending
    simp only [unscheduled, unscheduledLines, tracks.debounce_eq_none hl, hl]
    exact Clock.pending_cancel pending
  | none =>
    cases ha : s.coordinator.debounce with
    | some a =>
      rw [awaited_eq_of_debounce tracks ha] at pending
      simp only [unscheduled, unscheduledLines, hl, ha]
      exact Clock.pending_cancel pending
    | none =>
      rw [awaited_eq_nil hl ha] at pending
      simp only [unscheduled, unscheduledLines, hl, ha]
      exact List.map_eq_nil_iff.mp pending

theorem now_unscheduled (s : Session Clock) :
  s.unscheduled.now = s.scheduler.now
  := by
  apply unscheduled_induction (motive := fun base : Clock => base.now = s.scheduler.now) _ rfl
  intro base handle now
  exact now

/-- A session that takes notice of something while no other timer is pending is left with
the timer that it sets. -/
theorem Turns.orderly (turns : s.Turns base s') (empty : base.pending = []) (tracks : s'.Tracks h) :
  s'.Orderly
  where
  tracks := ⟨h, tracks⟩
  pending := by
    cases turns with
    | rests awaited generation scheduler =>
      rw [awaited, scheduler, empty]
      rfl
    | waits kind delay awaited generation scheduler =>
      rw [awaited, scheduler]
      change (base.pending ++ [_]).map _ = _
      rw [empty]
      rfl

theorem Orderly.sameWork (orderly : s.Orderly) (same : s.SameWork s') :
  s'.Orderly
  where
  tracks := by
    obtain ⟨h, tracks⟩ := orderly.tracks
    exact ⟨h, tracks.sameWork same⟩
  pending := by
    rw [same.scheduler, same.awaited]
    exact orderly.pending

theorem Orderly.update (orderly : s.Orderly) {m : Message} (own : m.timer? = none) :
  (s.update m).Orderly
  := by
  obtain ⟨h, tracks⟩ := orderly.tracks
  rcases tracks.turns_update own with same | turns
  · exact orderly.sameWork same
  · exact turns.orderly (pending_unscheduled tracks orderly.pending) (tracks.update m)

theorem Orderly.replaced (orderly : s.Orderly) {b : Buffer} {span : Span} {text : List Char}
    {edit : Edit} (replaced : s.buffer.replace? span text = some (edit, b)) :
  { s with buffer := b }.Orderly
  where
  tracks := by
    obtain ⟨h, tracks⟩ := orderly.tracks
    exact ⟨_, tracks.replaced replaced⟩
  pending := orderly.pending

theorem Orderly.taken (orderly : s.Orderly) :
  { s with buffer := s.buffer.takeEdits.2 }.Orderly
  where
  tracks := by
    obtain ⟨h, tracks⟩ := orderly.tracks
    exact ⟨h, tracks.taken⟩
  pending := orderly.pending

/-- Only the timers count that are pending. -/
theorem Orderly.rescheduled (orderly : s.Orderly) {c : Clock}
    (same : c.pending = s.scheduler.pending) :
  { s with scheduler := c }.Orderly
  where
  tracks := by
    obtain ⟨h, tracks⟩ := orderly.tracks
    exact ⟨h, tracks.rescheduled c⟩
  pending := by
    rw [same]
    exact orderly.pending

/-- A session waits for the timer that its clock delivers, and no other is pending. -/
theorem Orderly.pending_eq (orderly : s.Orderly) {p : PendingTimer}
    (hp : p ∈ s.scheduler.pending) :
  s.scheduler.pending = [p] ∧ s.Expects p.timer
  := by
  obtain ⟨h, tracks⟩ := orderly.tracks
  have pending := orderly.pending
  have one : s.scheduler.pending.length ≤ 1 := by
    have length := congrArg List.length pending
    rw [List.length_map, tracks.length_awaited] at length
    split at length <;> omega
  constructor
  · cases ps : s.scheduler.pending with
    | nil =>
      rw [ps] at hp
      cases hp
    | cons q qs =>
      rw [ps] at hp one
      obtain rfl : qs = [] := List.eq_nil_of_length_eq_zero (by simpa using one)
      rw [List.mem_singleton.mp hp]
  · apply tracks.expects_iff.mpr
    use p.awaited
    rw [← pending]
    exact ⟨List.mem_map_of_mem hp, rfl⟩

/-- The session when a timer of its clock is being delivered takes notice of it. -/
theorem Orderly.acts (orderly : s.Orderly) {p : PendingTimer} (hp : p ∈ s.scheduler.pending) :
  let now := { s with scheduler := s.scheduler.deliver p }
  now.Acts (now.delivered p.timer)
  := by
  obtain ⟨h, tracks⟩ := orderly.tracks
  exact (tracks.rescheduled _).acts (orderly.pending_eq hp).2

theorem Orderly.delivered (orderly : s.Orderly) {p : PendingTimer}
    (hp : p ∈ s.scheduler.pending) :
  ({ s with scheduler := s.scheduler.deliver p }.delivered p.timer).Orderly
  := by
  obtain ⟨h, tracks⟩ := orderly.tracks
  have acts := orderly.acts hp
  have after := acts.tracks (tracks.rescheduled (s.scheduler.deliver p))
  exact acts.turns.orderly (Clock.pending_deliver (orderly.pending_eq hp).1) after

/-! ### The sessions that a host with a clock can bring about -/

/-- A session that is being moved along with its clock. -/
def OrderlyWith (t : Session Clock × Clock) : Prop :=
  { t.1 with scheduler := t.2 }.Orderly

theorem orderlyWith_receive {t : Session Clock × Clock} {p : PendingTimer}
    (orderly : OrderlyWith t) (next : t.2.next? = some p) :
  OrderlyWith (receive p.timer (t.1, t.2.deliver p))
  := orderly.delivered (Clock.next?_spec next).1

/-- A host starts with a clock without timers.  It tells the session that a text was loaded
or edited or is being closed, replaces text and tells the session of it or does not, takes
the edits that were noted, moves the clock, and lets it run.  Running a clock up to the
first timer shows the session after every single delivery. -/
inductive Hosted : Session Clock → Prop
  /-- Nothing has happened. -/
  | start {s : Session Clock} (state : s.coordinator.state = .idle)
      (debounce : s.coordinator.debounce = none) (loading : s.coordinator.loading = none)
      (pending : s.scheduler.pending = []) :
    Hosted s
  /-- The host tells the session something. -/
  | told {s : Session Clock} {m : Message} (own : m.timer? = none) (hosted : Hosted s) :
    Hosted (s.update m)
  /-- The host replaces text. -/
  | replaced {s : Session Clock} {b : Buffer} {span : Span} {text : List Char} {edit : Edit}
      (replaced : s.buffer.replace? span text = some (edit, b)) (hosted : Hosted s) :
    Hosted { s with buffer := b }
  /-- The host takes the edits that were noted. -/
  | taken {s : Session Clock} (hosted : Hosted s) :
    Hosted { s with buffer := s.buffer.takeEdits.2 }
  /-- The host moves the clock. -/
  | advanced {s s' : Session Clock} {clock : Clock} {by_ limit : Nat}
      (advanced : Clock.advance? receive by_ limit (s, s.scheduler) = some (s', clock))
      (hosted : Hosted s) :
    Hosted { s' with scheduler := clock }
  /-- The host lets the clock run. -/
  | ran {s s' : Session Clock} {clock : Clock} {limit n : Nat}
      (ran : Clock.run receive limit (s, s.scheduler) = (n, s', clock)) (hosted : Hosted s) :
    Hosted { s' with scheduler := clock }

theorem Hosted.orderly (hosted : s.Hosted) :
  s.Orderly
  := by
  induction hosted with
  | @start s state debounce loading pending =>
    refine ⟨⟨_, (Reached.start state debounce loading).tracks⟩, ?_⟩
    rw [pending, awaited_eq_nil loading debounce]
    rfl
  | told own _ ih => exact ih.update own
  | replaced replaced _ ih => exact ih.replaced replaced
  | taken _ ih => exact ih.taken
  | @advanced s s' clock by_ limit advanced _ ih =>
    have start : OrderlyWith (s, s.scheduler) := ih
    apply Clock.advanceTo?_induction (motive := OrderlyWith) _ _ start advanced
    · intro t p orderly next
      exact orderlyWith_receive orderly next
    · intro t orderly
      exact orderly.rescheduled rfl
  | @ran s s' clock limit n ran _ ih =>
    have start : OrderlyWith (s, s.scheduler) := ih
    have orderly : OrderlyWith (Clock.run receive limit (s, s.scheduler)).2 := by
      apply Clock.run_induction (motive := OrderlyWith) _ start
      intro t p orderly next
      exact orderlyWith_receive orderly next
    rw [ran] at orderly
    exact orderly

/-- The state of a session says what it waits for, and this is what its clock holds.  A
session is never seen while it writes; it does not wait for a pause while it styles a long
text, of which there is a next line; and a timer is pending if the session waits for it,
and only then, so that none is left over when it is idle. -/
theorem Hosted.state_spec (hosted : s.Hosted) :
  let c := s.coordinator
  c.state ≠ .writing
  ∧ (c.state = .loading ↔ c.loading.isSome)
  ∧ (c.state = .waiting ↔ c.debounce.isSome)
  ∧ (c.state = .idle ↔ c.loading = none ∧ c.debounce = none)
  ∧ ¬ (c.loading.isSome ∧ c.debounce.isSome)
  ∧ (∀ loading, c.loading = some loading → loading.nextLine < loading.snapshot.lineCount)
  ∧ s.scheduler.pending.map PendingTimer.awaited = s.awaited
  ∧ s.scheduler.pending.length = if c.state = .idle then 0 else 1
  := by
  intro c
  obtain ⟨⟨h, tracks⟩, pending⟩ := hosted.orderly
  have state : c.state = c.restingState := tracks.state
  have line : ∀ loading, c.loading = some loading →
      loading.nextLine < loading.snapshot.lineCount := by
    intro loading hl
    rw [(tracks.lines loading hl).snapshot]
    exact (tracks.lines loading hl).line
  have count : s.scheduler.pending.length = if c.state = .idle then 0 else 1 := by
    rw [← tracks.length_awaited, ← pending, List.length_map]
  refine ⟨?_, ?_, ?_, tracks.state_eq_idle_iff, ?_, line, pending, count⟩
  · rw [state]
    exact restingState_ne_writing c
  · rw [state, Coordinator.restingState]
    cases c.loading with
    | some loading => simp
    | none => cases c.debounce <;> simp
  · rw [state, Coordinator.restingState]
    cases hl : c.loading with
    | some loading => simp [c, tracks.debounce_eq_none hl]
    | none => cases c.debounce <;> simp
  · rintro ⟨loading, debounce⟩
    rcases tracks.single with none | none
    · simp [c, none] at loading
    · simp [c, none] at debounce

/-- A heading and a line of text.  When the heading has been styled, the session waits for
the timer to style the line, and this one is pending. -/
theorem Hosted.state_spec_heading :
  let s := (ofText .standard { longText := 0, linesAtOnce := 1 } "# a\nb".toList ({} : Clock)).load
  ∃ s' clock, Clock.advance? receive 0 1 (s, s.scheduler) = some (s', clock)
    ∧ s'.coordinator.loading.isSome ∧ clock.pending.length = 1
  := by
  intro s
  let opened := ofText .standard { longText := 0, linesAtOnce := 1 } "# a\nb".toList ({} : Clock)
  have hosted : (opened.update .load).Hosted := .told rfl (.start rfl rfl rfl rfl)
  have moved : (Clock.advance? receive 0 1 (s, s.scheduler)).map (fun t => t.1.coordinator.state)
      = some .loading := by decide +kernel
  obtain ⟨⟨s', clock⟩, advanced, state⟩ := Option.map_eq_some_iff.mp moved
  dsimp only at state
  have after : { s' with scheduler := clock }.Hosted := .advanced advanced hosted
  obtain ⟨-, loading, -, -, -, -, -, count⟩ := after.state_spec
  rw [if_neg (by simp [state])] at count
  exact ⟨s', clock, advanced, loading.mp state, count⟩

end Session

end LiveMarkdown
