import LiveMarkdown.Proofs.Lifecycle.History

/-!
# The timer that a session waits for

A session waits for one timer at most.  Whatever it takes notice of, it waits afterwards for
nothing, or for a timer that it has just set and that is of a new generation; the timers that
it waited for before are cancelled, unless it is one of them that is delivered.
-/

namespace LiveMarkdown

/-- The timer that a message delivers, if it delivers one. -/
def Message.timer? : Message → Option Timer
  | .delivered timer => some timer
  | _ => none

namespace Session

/-- The timers that a session waits for. -/
def awaited {σ : Type} (s : Session σ) : List AwaitedTimer :=
  (s.coordinator.loading.map Loading.awaited).toList ++ s.coordinator.debounce.toList

section

variable {σ : Type} {s s' : Session σ} {h : History}

theorem mem_awaited {a : AwaitedTimer} :
  a ∈ s.awaited ↔ (∃ loading, s.coordinator.loading = some loading ∧ loading.awaited = a)
    ∨ s.coordinator.debounce = some a
  := by
  rw [awaited, List.mem_append, Option.mem_toList, Option.mem_toList, Option.map_eq_some_iff]

theorem awaited_eq_of_loading (tracks : s.Tracks h) {loading : Loading}
    (hl : s.coordinator.loading = some loading) :
  s.awaited = [loading.awaited]
  := by
  rw [awaited, hl, tracks.debounce_eq_none hl]
  rfl

theorem awaited_eq_of_debounce (tracks : s.Tracks h) {a : AwaitedTimer}
    (ha : s.coordinator.debounce = some a) :
  s.awaited = [a]
  := by
  rw [awaited, ha, tracks.loading_eq_none ha]
  rfl

theorem awaited_eq_nil (hl : s.coordinator.loading = none) (ha : s.coordinator.debounce = none) :
  s.awaited = []
  := by
  rw [awaited, hl, ha]
  rfl

/-- A session waits for one timer if it is not idle. -/
theorem Tracks.length_awaited (tracks : s.Tracks h) :
  s.awaited.length = if s.coordinator.state = .idle then 0 else 1
  := by
  simp only [tracks.state_eq_idle_iff]
  cases hl : s.coordinator.loading with
  | some loading =>
    rw [awaited_eq_of_loading tracks hl, if_neg (by simp)]
    rfl
  | none =>
    cases ha : s.coordinator.debounce with
    | some a =>
      rw [awaited_eq_of_debounce tracks ha, if_neg (by simp)]
      rfl
    | none =>
      rw [awaited_eq_nil hl ha, if_pos ⟨rfl, rfl⟩]
      rfl

/-- A session expects the timers that it waits for, and no others. -/
theorem Tracks.expects_iff (tracks : s.Tracks h) {timer : Timer} :
  s.Expects timer ↔ ∃ a ∈ s.awaited, a.timer = timer
  := by
  rw [Expects]
  constructor
  · intro expected
    split at expected
    · obtain ⟨a, ha, same⟩ := expected
      exact ⟨a, mem_awaited.mpr (.inr ha), same⟩
    · obtain ⟨loading, hl, same⟩ := expected
      exact ⟨loading.awaited, mem_awaited.mpr (.inl ⟨loading, hl, rfl⟩), same⟩
  · rintro ⟨a, ha, rfl⟩
    rcases mem_awaited.mp ha with ⟨loading, hl, rfl⟩ | ha
    · rw [(tracks.lines loading hl).kind]
      exact ⟨loading, hl, rfl⟩
    · rw [tracks.pause a ha]
      exact ⟨a, ha, rfl⟩

theorem SameWork.awaited (same : s.SameWork s') :
  s'.awaited = s.awaited
  := by
  rw [Session.awaited, Session.awaited, same.loading, same.debounce]

end

variable {σ : Type} [Scheduler σ] {s s' : Session σ} {h : History} {base : σ}

/-- What every cancellation preserves is preserved by cancelling the timers that a session
waits for. -/
theorem unscheduled_induction {motive : σ → Prop}
    (cancel : ∀ a handle, motive a → motive (Scheduler.cancel a handle))
    (start : motive s.scheduler) :
  motive s.unscheduled
  := by
  have lines : motive s.unscheduledLines := by
    rw [unscheduledLines]
    split
    · exact cancel _ _ start
    · exact start
  rw [unscheduled]
  split
  · exact cancel _ _ lines
  · exact lines

/-- What a session waits for after it has taken notice of something and left its scheduler
as `base`. -/
inductive Turns (s : Session σ) (base : σ) (s' : Session σ) : Prop
  /-- It waits for nothing. -/
  | rests (awaited : s'.awaited = [])
      (generation : s'.coordinator.generation = s.coordinator.generation)
      (scheduler : s'.scheduler = base)
  /-- It waits for a timer that it has set. -/
  | waits (kind : TimerKind) (delay : Nat)
      (awaited : s'.awaited =
        [⟨s.nextTimer kind, (Scheduler.schedule base delay (s.nextTimer kind)).1⟩])
      (generation : s'.coordinator.generation = s.coordinator.generation + 1)
      (scheduler : s'.scheduler = (Scheduler.schedule base delay (s.nextTimer kind)).2)

theorem turns_asIdle (s : Session σ) (b : Buffer) (base : σ) (stats : Stats)
    (log : Array Happening) :
  s.Turns base (s.asIdle b base stats log)
  := .rests rfl rfl rfl

theorem turns_asWaiting (s : Session σ) (b : Buffer) (base : σ) (stats : Stats)
    (log : Array Happening) :
  s.Turns base (s.asWaiting b base stats log)
  := .waits .debounce s.coordinator.settings.debounce rfl rfl rfl

theorem turns_asLoading (s : Session σ) (b : Buffer) (base : σ) (delay : Nat)
    (snapshot : Snapshot) (line : Nat) (stats : Stats) (log : Array Happening) :
  s.Turns base (s.asLoading b base delay snapshot line stats log)
  := .waits .nextLines delay rfl rfl rfl

theorem turns_load (s : Session σ) :
  s.Turns s.unscheduled s.load
  := by
  by_cases short : s.buffer.length < s.coordinator.settings.longText
  · obtain ⟨stats, log, load⟩ := load_of_short short
    rw [load]
    exact turns_asIdle s _ _ _ _
  · obtain ⟨log, load⟩ := load_of_long short
    rw [load]
    exact turns_asLoading s _ _ _ _ _ _ _

theorem turns_cancel (s : Session σ) :
  s.Turns s.unscheduled s.cancel
  := by
  obtain ⟨log, cancel⟩ := cancel_eq s
  rw [cancel]
  exact turns_asIdle s _ _ _ _

theorem Acts.turns (acts : s.Acts s') :
  s.Turns s.scheduler s'
  := by
  cases acts with
  | pause debounce loading stats log => exact turns_asIdle s _ _ _ _
  | last hl current last stats log => exact turns_asIdle s _ _ _ _
  | more hl current more stats log => exact turns_asLoading s _ _ _ _ _ _ _
  | changed hl changed stats log => exact turns_asWaiting s _ _ _ _

/-- A message other than a delivery leaves the timers alone, or cancels those that the
session waits for. -/
theorem Tracks.turns_update (tracks : s.Tracks h) {m : Message} (own : m.timer? = none) :
  s.SameWork (s.update m) ∨ s.Turns s.unscheduled (s.update m)
  := by
  cases m with
  | load => exact .inr (turns_load s)
  | edited edit =>
    rcases tracks.edited_cases edit with ⟨same, -⟩ | ⟨b, stats, log, -, edited⟩
    · exact .inl same
    · right
      rw [Session.update, edited]
      exact turns_asWaiting s _ _ _ _
  | delivered timer => cases own
  | close => exact .inr (turns_cancel s)

/-- The delivery of a timer changes nothing, or it is one that the session waits for. -/
theorem Tracks.turns_delivered (tracks : s.Tracks h) (timer : Timer) :
  (¬ s.Expects timer ∧ ∃ log, s.delivered timer = { s with log })
  ∨ s.Expects timer ∧ s.Turns s.scheduler (s.delivered timer)
  := by
  by_cases expected : s.Expects timer
  · exact .inr ⟨expected, (tracks.acts expected).turns⟩
  · exact .inl ⟨expected, delivered_of_stale expected⟩

end Session

end LiveMarkdown
