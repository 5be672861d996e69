import LiveMarkdown.Proofs.Lifecycle.History

/-!
# Timers that are pending

The clock of a session holds every timer that the session waits for, even if the clock
does not honour every cancellation: a handle is given out once, so neither a cancellation
nor the delivery of another timer removes a timer that is waited for.
-/

namespace LiveMarkdown

/-! ### Clocks -/

namespace Clock

/-- Timers have different handles, all of them given out. -/
structure IsSound (c : Clock) : Prop where
  /-- The handles have been given out. -/
  handles : ∀ p ∈ c.pending, p.handle ≤ c.lastHandle
  /-- A handle stands for one timer. -/
  distinct : ∀ p ∈ c.pending, ∀ q ∈ c.pending, p.handle = q.handle → p = q

/-- A timer that is waited for is to be delivered. -/
def Holds (c : Clock) (a : AwaitedTimer) : Prop :=
  ∃ p ∈ c.pending, p.handle = a.handle ∧ p.timer = a.timer

variable {c : Clock}

theorem isSound_of_subset {d : Clock} (sound : c.IsSound) (last : c.lastHandle ≤ d.lastHandle)
    (subset : ∀ p ∈ d.pending, p ∈ c.pending) :
  d.IsSound
  := by
  constructor
  · intro p hp
    exact (sound.handles p (subset p hp)).trans last
  · intro p hp q hq
    exact sound.distinct p (subset p hp) q (subset q hq)

theorem IsSound.schedule (sound : c.IsSound) (delay : Nat) (timer : Timer) :
  (c.schedule delay timer).2.IsSound
  := by
  constructor
  · intro p hp
    rcases List.mem_append.mp hp with hp | hp
    · exact (sound.handles p hp).trans (Nat.le_succ _)
    · obtain rfl := List.mem_singleton.mp hp
      exact le_rfl
  · intro p hp q hq same
    rcases List.mem_append.mp hp with hp | hp
    · have old := sound.handles p hp
      rcases List.mem_append.mp hq with hq | hq
      · exact sound.distinct p hp q hq same
      · obtain rfl := List.mem_singleton.mp hq
        dsimp only at same
        omega
    · obtain rfl := List.mem_singleton.mp hp
      rcases List.mem_append.mp hq with hq | hq
      · have old := sound.handles q hq
        dsimp only at same
        omega
      · exact (List.mem_singleton.mp hq).symm

theorem holds_schedule (c : Clock) (delay : Nat) (timer : Timer) :
  (c.schedule delay timer).2.Holds ⟨timer, (c.schedule delay timer).1⟩
  := ⟨_, List.mem_append_right _ (List.mem_singleton.mpr rfl), rfl, rfl⟩

theorem IsSound.cancel (sound : c.IsSound) (handle : Nat) :
  (c.cancel handle).IsSound
  := by
  apply isSound_of_subset (d := c.cancel handle) sound le_rfl
  intro p hp
  exact List.mem_of_mem_filter hp

theorem IsSound.deliver (sound : c.IsSound) (p : PendingTimer) :
  (c.deliver p).IsSound
  := by
  apply isSound_of_subset (d := c.deliver p) sound le_rfl
  intro q hq
  exact List.mem_of_mem_filter hq

/-- The delivery of a timer leaves those with other values alone. -/
theorem Holds.deliver (sound : c.IsSound) {a : AwaitedTimer} (holds : c.Holds a)
    {p : PendingTimer} (hp : p ∈ c.pending) (other : p.timer ≠ a.timer) :
  (c.deliver p).Holds a
  := by
  obtain ⟨q, hq, handle, timer⟩ := holds
  refine ⟨q, ?_, handle, timer⟩
  apply List.mem_filter.mpr
  constructor
  · exact hq
  · rw [decide_eq_true_eq]
    intro same
    obtain rfl := sound.distinct q hq p hp same
    exact other timer

theorem length_deliver (c : Clock) {p : PendingTimer} (hp : p ∈ c.pending) :
  (c.deliver p).pending.length < c.pending.length
  := by
  apply List.length_filter_lt_length_iff_exists.mpr
  exact ⟨p, hp, by simp⟩

theorem length_schedule (c : Clock) (delay : Nat) (timer : Timer) :
  (c.schedule delay timer).2.pending.length = c.pending.length + 1
  := by
  simp [schedule]

end Clock

namespace UnreliableClock

theorem isSound_cancel {u : UnreliableClock} (sound : u.clock.IsSound) (handle : Nat) :
  (u.cancel handle).clock.IsSound
  := by
  rw [cancel]
  dsimp only
  split
  · exact sound.cancel handle
  · exact sound

end UnreliableClock

/-! ### Sessions -/

namespace Session

variable {s s' : Session UnreliableClock} {h : History}

/-- The timers that a session waits for are pending. -/
structure Armed (s : Session UnreliableClock) : Prop where
  /-- The clock is sound. -/
  sound : s.scheduler.clock.IsSound
  /-- The timer for a pause is pending. -/
  pause : ∀ awaited, s.coordinator.debounce = some awaited → s.scheduler.clock.Holds awaited
  /-- The timer for lines is pending. -/
  lines : ∀ loading, s.coordinator.loading = some loading → s.scheduler.clock.Holds loading.awaited

theorem Armed.sameWork (armed : s.Armed) (same : s.SameWork s') :
  s'.Armed
  where
  sound := by
    rw [same.scheduler]
    exact armed.sound
  pause := by
    rw [same.scheduler, same.debounce]
    exact armed.pause
  lines := by
    rw [same.scheduler, same.loading]
    exact armed.lines

theorem armed_asIdle (s : Session UnreliableClock) (b : Buffer) {u : UnreliableClock}
    (sound : u.clock.IsSound) (stats : Stats) (log : Array Happening) :
  (s.asIdle b u stats log).Armed
  := ⟨sound, nofun, nofun⟩

theorem armed_asWaiting (s : Session UnreliableClock) (b : Buffer) {u : UnreliableClock}
    (sound : u.clock.IsSound) (stats : Stats) (log : Array Happening) :
  (s.asWaiting b u stats log).Armed
  where
  sound := sound.schedule _ _
  pause := by
    intro awaited ha
    obtain rfl := Option.some.inj ha
    exact Clock.holds_schedule _ _ _
  lines := nofun

theorem armed_asLoading (s : Session UnreliableClock) (b : Buffer) {u : UnreliableClock}
    (sound : u.clock.IsSound) (delay : Nat) (snapshot : Snapshot) (line : Nat) (stats : Stats)
    (log : Array Happening) :
  (s.asLoading b u delay snapshot line stats log).Armed
  where
  sound := sound.schedule _ _
  pause := nofun
  lines := by
    intro loading hl
    obtain rfl := Option.some.inj hl
    exact Clock.holds_schedule _ _ _

theorem isSound_unscheduled (sound : s.scheduler.clock.IsSound) :
  s.unscheduled.clock.IsSound
  := by
  have lines : s.unscheduledLines.clock.IsSound := by
    rw [unscheduledLines]
    split
    · exact UnreliableClock.isSound_cancel sound _
    · exact sound
  rw [unscheduled]
  split
  · exact UnreliableClock.isSound_cancel lines _
  · exact lines

/-- A timer that a session waits for leaves the session with the timers that it sets. -/
theorem Acts.armed (acts : s.Acts s') (sound : s.scheduler.clock.IsSound) :
  s'.Armed
  := by
  cases acts with
  | pause debounce loading stats log => exact armed_asIdle s _ sound _ _
  | last hl current last stats log => exact armed_asIdle s _ sound _ _
  | more hl current more stats log => exact armed_asLoading s _ sound _ _ _ _ _
  | changed hl changed stats log => exact armed_asWaiting s _ sound _ _

theorem Armed.load (armed : s.Armed) :
  s.load.Armed
  := by
  have sound := isSound_unscheduled armed.sound
  by_cases short : s.buffer.length < s.coordinator.settings.longText
  · obtain ⟨stats, log, load⟩ := load_of_short short
    rw [load]
    exact armed_asIdle s _ sound _ _
  · obtain ⟨log, load⟩ := load_of_long short
    rw [load]
    exact armed_asLoading s _ sound _ _ _ _ _

theorem Armed.edited (armed : s.Armed) (tracks : s.Tracks h) (edit : Edit) :
  (s.edited edit).Armed
  := by
  rcases tracks.edited_cases edit with ⟨same, -⟩ | ⟨b, stats, log, -, edited⟩
  · exact armed.sameWork same
  · rw [edited]
    exact armed_asWaiting s _ (isSound_unscheduled armed.sound) _ _

theorem Armed.delivered (armed : s.Armed) (tracks : s.Tracks h) (timer : Timer) :
  (s.delivered timer).Armed
  := by
  by_cases expected : s.Expects timer
  · exact (tracks.acts expected).armed armed.sound
  · obtain ⟨log, stale⟩ := delivered_of_stale expected
    exact armed.sameWork (sameWork_of_log stale)

theorem Armed.cancel (armed : s.Armed) :
  s.cancel.Armed
  := by
  obtain ⟨log, cancel⟩ := cancel_eq s
  rw [cancel]
  exact armed_asIdle s _ (isSound_unscheduled armed.sound) _ _

theorem Armed.update (armed : s.Armed) (tracks : s.Tracks h) (m : Message) :
  (s.update m).Armed
  := by
  cases m with
  | load => exact armed.load
  | edited edit => exact armed.edited tracks edit
  | delivered timer => exact armed.delivered tracks timer
  | close => exact armed.cancel

/-! ### Deliveries -/

/-- The session when a timer of its clock is being delivered. -/
def without (s : Session UnreliableClock) (p : PendingTimer) : Session UnreliableClock :=
  { s with scheduler := { s.scheduler with clock := s.scheduler.clock.deliver p } }

/-- Delivers a timer of its clock to a session. -/
def fire (s : Session UnreliableClock) (p : PendingTimer) : Session UnreliableClock :=
  (s.without p).delivered p.timer

theorem Tracks.without (tracks : s.Tracks h) (p : PendingTimer) :
  (s.without p).Tracks h
  := tracks.rescheduled _

/-- Taking a timer that a session does not wait for leaves those that it waits for. -/
theorem Armed.without (armed : s.Armed) (tracks : s.Tracks h) {p : PendingTimer}
    (hp : p ∈ s.scheduler.clock.pending) (unexpected : ¬ s.Expects p.timer) :
  (s.without p).Armed
  where
  sound := armed.sound.deliver p
  pause := by
    intro awaited ha
    apply (armed.pause awaited ha).deliver armed.sound hp
    intro same
    apply unexpected
    rw [same, Expects, tracks.pause awaited ha]
    exact ⟨awaited, ha, rfl⟩
  lines := by
    intro loading hl
    apply (armed.lines loading hl).deliver armed.sound hp
    intro same
    apply unexpected
    rw [same, Expects, (tracks.lines loading hl).kind]
    exact ⟨loading, hl, rfl⟩

theorem Armed.fire (armed : s.Armed) (tracks : s.Tracks h) {p : PendingTimer}
    (hp : p ∈ s.scheduler.clock.pending) :
  (s.fire p).Armed
  := by
  by_cases expected : s.Expects p.timer
  · exact ((tracks.without p).acts expected).armed (armed.sound.deliver p)
  · obtain ⟨log, stale⟩ := delivered_of_stale (s := s.without p) expected
    exact (armed.without tracks hp expected).sameWork (sameWork_of_log stale)

/-- A host starts with a clock without timers.  It tells the session what it likes, whether
that happened or not, replaces text and tells the session of it or does not, takes the edits
that were noted, delivers timers of the clock in any order, and lets time pass.  The clock
need not honour cancellations. -/
inductive Operated : Session UnreliableClock → History → Prop
  /-- Nothing has happened. -/
  | start {s : Session UnreliableClock} (state : s.coordinator.state = .idle)
      (debounce : s.coordinator.debounce = none) (loading : s.coordinator.loading = none)
      (pending : s.scheduler.clock.pending = []) :
    Operated s (.ofBuffer s.buffer)
  /-- The host tells the session something. -/
  | told {s : Session UnreliableClock} {h : History} (m : Message) (operated : Operated s h) :
    Operated (s.update m) (h.told s.buffer m)
  /-- The host replaces text. -/
  | replaced {s : Session UnreliableClock} {h : History} {b : Buffer} {span : Span}
      {text : List Char} {edit : Edit} (replaced : s.buffer.replace? span text = some (edit, b))
      (operated : Operated s h) :
    Operated { s with buffer := b } h.replaced
  /-- The host takes the edits that were noted. -/
  | taken {s : Session UnreliableClock} {h : History} (operated : Operated s h) :
    Operated { s with buffer := s.buffer.takeEdits.2 } h
  /-- A timer of the clock is delivered. -/
  | fired {s : Session UnreliableClock} {h : History} {p : PendingTimer}
      (pending : p ∈ s.scheduler.clock.pending) (operated : Operated s h) :
    Operated (s.fire p) h
  /-- Time passes. -/
  | waited {s : Session UnreliableClock} {h : History} (now : Nat) (operated : Operated s h) :
    Operated { s with scheduler := { s.scheduler with
      clock := { s.scheduler.clock with now } } } h

theorem Operated.reached {s : Session UnreliableClock} {h : History} (operated : s.Operated h) :
  s.Reached h
  := by
  induction operated with
  | start state debounce loading pending => exact .start state debounce loading
  | told m _ ih => exact .told m ih
  | replaced replaced _ ih => exact .replaced replaced ih
  | taken _ ih => exact .taken ih
  | @fired s h p pending _ ih => exact .told (.delivered p.timer) (.rescheduled _ ih)
  | waited now _ ih => exact .rescheduled _ ih

theorem Operated.armed {s : Session UnreliableClock} {h : History} (operated : s.Operated h) :
  s.Armed
  := by
  induction operated with
  | @start s state debounce loading pending =>
    refine ⟨⟨?_, ?_⟩, ?_, ?_⟩
    · rw [pending]
      nofun
    · rw [pending]
      nofun
    · rw [debounce]
      nofun
    · rw [loading]
      nofun
  | told m operated ih => exact ih.update operated.reached.tracks m
  | replaced _ _ ih => exact ⟨ih.sound, ih.pause, ih.lines⟩
  | taken _ ih => exact ⟨ih.sound, ih.pause, ih.lines⟩
  | fired pending operated ih => exact ih.fire operated.reached.tracks pending
  | waited now _ ih => exact ⟨⟨ih.sound.handles, ih.sound.distinct⟩, ih.pause, ih.lines⟩

end Session

end LiveMarkdown
