import LiveMarkdown.Lifecycle.Session
import LiveMarkdown.Proofs.Styling.Passes

/-!
# The steps of a session

Whatever a session is told, it either goes on as before, or it is idle afterwards, waits
for a pause, or waits to style the next lines of a long text.  For each of these there is
one description of the session that results; what a session was told and what it was doing
decide only which one it is, with which buffer and which scheduler.
-/

namespace LiveMarkdown

namespace Session

variable {σ : Type}

/-! ### What a session can become -/

/-- Two sessions that differ at most in their statistics and logs. -/
structure SameWork (s s' : Session σ) : Prop where
  /-- The style is the same. -/
  style : s'.coordinator.style = s.coordinator.style
  /-- The settings are the same. -/
  settings : s'.coordinator.settings = s.coordinator.settings
  /-- The state is the same. -/
  state : s'.coordinator.state = s.coordinator.state
  /-- The generation is the same. -/
  generation : s'.coordinator.generation = s.coordinator.generation
  /-- The timer for a pause is the same. -/
  debounce : s'.coordinator.debounce = s.coordinator.debounce
  /-- The long text is the same. -/
  loading : s'.coordinator.loading = s.coordinator.loading
  /-- The buffer is the same. -/
  buffer : s'.buffer = s.buffer
  /-- The scheduler is the same. -/
  scheduler : s'.scheduler = s.scheduler

theorem sameWork_of_log {s s' : Session σ} {log : Array Happening} (h : s' = { s with log }) :
  s.SameWork s'
  := by
  rw [h]
  exact ⟨rfl, rfl, rfl, rfl, rfl, rfl, rfl, rfl⟩

/-- The session with nothing to do. -/
def asIdle (s : Session σ) (b : Buffer) (scheduler : σ) (stats : Stats) (log : Array Happening) :
    Session σ :=
  ⟨{ s.coordinator with state := .idle, debounce := none, loading := none, stats }, b, scheduler,
    log⟩

/-- The timer that a session sets next. -/
def nextTimer (s : Session σ) (kind : TimerKind) : Timer :=
  ⟨kind, s.coordinator.generation + 1⟩

/-- The session that waits for a pause. -/
def asWaiting [Scheduler σ] (s : Session σ) (b : Buffer) (scheduler : σ) (stats : Stats)
    (log : Array Happening) : Session σ :=
  let timer := s.nextTimer .debounce
  let set := Scheduler.schedule scheduler s.coordinator.settings.debounce timer
  ⟨{ s.coordinator with
      state := .waiting
      generation := timer.generation
      debounce := some ⟨timer, set.1⟩
      loading := none
      stats }, b, set.2, log⟩

/-- The session that waits to style a text from a line on. -/
def asLoading [Scheduler σ] (s : Session σ) (b : Buffer) (scheduler : σ) (delay : Nat) (snapshot : Snapshot)
    (line : Nat) (stats : Stats) (log : Array Happening) : Session σ :=
  let timer := s.nextTimer .nextLines
  let set := Scheduler.schedule scheduler delay timer
  ⟨{ s.coordinator with
      state := .loading
      generation := timer.generation
      debounce := none
      loading := some ⟨snapshot, line, ⟨timer, set.1⟩⟩
      stats }, b, set.2, log⟩

/-! ### Small steps -/

@[simp] theorem tell_eq (s : Session σ) (h : Happening) :
  s.tell h = ⟨s.coordinator, s.buffer, s.scheduler, s.log.push h⟩
  := rfl

theorem move_eq (s : Session σ) (state : StylingState) :
  ∃ log, s.move state = ⟨{ s.coordinator with state }, s.buffer, s.scheduler, log⟩
  := by
  rw [move]
  split
  · rename_i same
    use s.log
    rw [← same]
  · use s.log.push (.moved s.coordinator.state state)
    rfl

theorem settle_eq (s : Session σ) :
  ∃ log, s.settle
    = ⟨{ s.coordinator with state := s.coordinator.restingState }, s.buffer, s.scheduler, log⟩
  := move_eq s _

theorem fullPass_eq (s : Session σ) :
  ∃ stats log, s.fullPass
    = ⟨{ s.coordinator with state := s.coordinator.restingState, stats },
      s.coordinator.style.applyAll s.buffer, s.scheduler, log⟩
  := by
  obtain ⟨log, first⟩ := move_eq s .writing
  rw [fullPass]
  rw [first]
  obtain ⟨log', last⟩ := settle_eq (count
    ⟨{ s.coordinator with state := .writing }, s.coordinator.style.applyAll s.buffer, s.scheduler,
      log⟩ fun stats => { stats with fullPasses := stats.fullPasses + 1 })
  exact ⟨_, log', last⟩

theorem restingState_ne_writing (c : Coordinator) :
  c.restingState ≠ .writing
  := by
  rw [Coordinator.restingState]
  split
  · nofun
  · split <;> nofun

theorem linesAtOnce_pos (c : Coordinator) :
  0 < c.linesAtOnce
  := by
  rw [Coordinator.linesAtOnce]
  omega

theorem not_ignored {s : Session σ} {edit : Edit} (kind : edit.kind = .characters)
    (state : s.coordinator.state = s.coordinator.restingState) :
  ¬ (edit.kind = .attributes ∨ s.coordinator.state = .writing)
  := by
  rw [kind, state]
  rintro (ignored | ignored)
  · cases ignored
  · exact restingState_ne_writing _ ignored

variable [Scheduler σ]

/-- The scheduler after the timer for lines, if any, is cancelled. -/
def unscheduledLines (s : Session σ) : σ :=
  match s.coordinator.loading with
  | some loading => Scheduler.cancel s.scheduler loading.awaited.handle
  | none => s.scheduler

/-- The scheduler after the timers that the session waits for are cancelled. -/
def unscheduled (s : Session σ) : σ :=
  match s.coordinator.debounce with
  | some awaited => Scheduler.cancel s.unscheduledLines awaited.handle
  | none => s.unscheduledLines

theorem cancelLoading_eq (s : Session σ) :
  ∃ log, s.cancelLoading
    = ⟨{ s.coordinator with loading := none }, s.buffer, s.unscheduledLines, log⟩
  := by
  obtain ⟨⟨style, settings, state, generation, debounce, loading, stats⟩, b, scheduler, log⟩ := s
  cases loading with
  | none => exact ⟨log, rfl⟩
  | some loading => exact ⟨log.push _, rfl⟩

theorem cancelPause_eq (s : Session σ) (h : s.coordinator.loading = none) :
  ∃ log, s.cancelPause
    = ⟨{ s.coordinator with debounce := none }, s.buffer, s.unscheduled, log⟩
  := by
  obtain ⟨⟨style, settings, state, generation, debounce, loading, stats⟩, b, scheduler, log⟩ := s
  obtain rfl : loading = none := h
  cases debounce with
  | none => exact ⟨log, rfl⟩
  | some awaited => exact ⟨log.push _, rfl⟩

theorem awaitPause_eq (s : Session σ) (h : s.coordinator.loading = none) :
  ∃ log, s.awaitPause = s.asWaiting s.buffer s.unscheduled s.coordinator.stats log
  := by
  obtain ⟨⟨style, settings, state, generation, debounce, loading, stats⟩, b, scheduler, log⟩ := s
  obtain rfl : loading = none := h
  cases debounce with
  | none => exact move_eq _ _
  | some awaited => exact move_eq _ _

/-! ### Messages -/

theorem cancel_eq (s : Session σ) :
  ∃ log, s.cancel = s.asIdle s.buffer s.unscheduled s.coordinator.stats log
  := by
  rw [cancel]
  obtain ⟨log, lines⟩ := cancelLoading_eq s
  rw [lines]
  obtain ⟨log, pause⟩ := cancelPause_eq
    ⟨{ s.coordinator with loading := none }, s.buffer, s.unscheduledLines, log⟩ rfl
  rw [pause]
  exact settle_eq _

theorem load_of_short {s : Session σ} (h : s.buffer.length < s.coordinator.settings.longText) :
  ∃ stats log, s.load
    = s.asIdle (s.coordinator.style.applyAll s.buffer) s.unscheduled stats log
  := by
  obtain ⟨log, cancelled⟩ := cancel_eq s
  obtain ⟨stats, log, full⟩ := fullPass_eq
    ((s.asIdle s.buffer s.unscheduled s.coordinator.stats log).tell (.loadedAtOnce s.buffer.length))
  use stats, log
  rw [load, cancelled]
  exact (if_pos h).trans full

theorem load_of_long {s : Session σ} (h : ¬ s.buffer.length < s.coordinator.settings.longText) :
  ∃ log, s.load
    = s.asLoading (s.coordinator.style.reset s.buffer) s.unscheduled 0
      (Snapshot.ofText s.buffer.chars s.buffer.revision) 0 s.coordinator.stats log
  := by
  obtain ⟨first, cancelled⟩ := cancel_eq s
  have version := Style.version_reset s.coordinator.style s.buffer
  have capture : Snapshot.capture (s.coordinator.style.reset s.buffer)
      = Snapshot.ofText s.buffer.chars s.buffer.revision := by
    rw [Snapshot.capture, Buffer.chars_eq_of_version version, Buffer.revision_eq_of_version version]
  obtain ⟨second, writing⟩ := move_eq
    (s.asIdle s.buffer s.unscheduled s.coordinator.stats first) .writing
  rw [load, cancelled, ← capture]
  simp only [writing]
  have long : ¬ (s.asIdle s.buffer s.unscheduled s.coordinator.stats first).buffer.length
      < s.coordinator.settings.longText := h
  let loaded := s.asLoading (s.coordinator.style.reset s.buffer) s.unscheduled 0
    (Snapshot.capture (s.coordinator.style.reset s.buffer)) 0 s.coordinator.stats
    (second.push (.loadedByLines s.buffer.length
      (Snapshot.capture (s.coordinator.style.reset s.buffer)).lineCount s.coordinator.linesAtOnce))
  obtain ⟨log, loading⟩ :=
    move_eq { loaded with coordinator := { loaded.coordinator with state := .writing } } .loading
  use log
  exact (if_neg long).trans loading

/-- An edit of attributes is passed over. -/
theorem edited_of_attributes {s : Session σ} {edit : Edit} (h : edit.kind = .attributes) :
  s.SameWork (s.edited edit)
  := by
  rw [edited, if_pos (.inl h)]
  exact ⟨rfl, rfl, rfl, rfl, rfl, rfl, rfl, rfl⟩

/-- An edit that touches no paragraph while no long text is being styled. -/
theorem edited_of_nowhere {s : Session σ} {edit : Edit} (kind : edit.kind = .characters)
    (state : s.coordinator.state = s.coordinator.restingState)
    (loading : s.coordinator.loading = none) (nowhere : (affected s.buffer edit).isEmpty) :
  s.SameWork (s.edited edit)
  := by
  obtain ⟨log, cancelled⟩ := cancelLoading_eq s
  rw [edited, if_neg (not_ignored kind state)]
  simp only [cancelled, loading]
  rw [if_pos nowhere, if_neg (by simp)]
  obtain ⟨log, settled⟩ := settle_eq (tell
    ⟨{ s.coordinator with loading := none }, s.buffer, s.unscheduledLines, log⟩
    (.noParagraph edit.span))
  rw [settled]
  refine ⟨rfl, rfl, ?_, rfl, rfl, loading.symm, rfl, ?_⟩
  · rw [state]
    unfold Coordinator.restingState
    rw [loading]
    rfl
  · simp only [tell_eq, unscheduledLines, loading]

/-- An edit that touches no paragraph while a long text is being styled. -/
theorem edited_of_nowhere_loading {s : Session σ} {edit : Edit} (kind : edit.kind = .characters)
    (state : s.coordinator.state = s.coordinator.restingState)
    (loading : s.coordinator.loading.isSome) (nowhere : (affected s.buffer edit).isEmpty) :
  ∃ stats log, s.edited edit = s.asWaiting s.buffer s.unscheduled stats log
  := by
  obtain ⟨log, cancelled⟩ := cancelLoading_eq s
  obtain ⟨log, waiting⟩ := awaitPause_eq (tell
    ⟨{ s.coordinator with loading := none }, s.buffer, s.unscheduledLines, log⟩
    (.noParagraph edit.span)) rfl
  use s.coordinator.stats, log
  rw [edited, if_neg (not_ignored kind state)]
  simp only [cancelled]
  rw [if_pos nowhere, if_pos loading, waiting]
  rfl

/-- An edit that touches a paragraph. -/
theorem edited_of_paragraph {s : Session σ} {edit : Edit} (kind : edit.kind = .characters)
    (state : s.coordinator.state = s.coordinator.restingState)
    (somewhere : ¬ (affected s.buffer edit).isEmpty) :
  ∃ stats log, s.edited edit
    = s.asWaiting
      ((s.coordinator.style.applyPart? s.buffer (affected s.buffer edit)).getD s.buffer)
      s.unscheduled stats log
  := by
  obtain ⟨log, cancelled⟩ := cancelLoading_eq s
  obtain ⟨log', writing⟩ := move_eq
    ⟨{ s.coordinator with loading := none }, s.buffer, s.unscheduledLines, log⟩ .writing
  rw [edited, if_neg (not_ignored kind state)]
  simp only [cancelled]
  rw [if_neg somewhere]
  simp only [writing]
  cases s.coordinator.style.applyPart? s.buffer (affected s.buffer edit) with
  | none =>
    obtain ⟨log, waiting⟩ := awaitPause_eq
      ⟨{ s.coordinator with loading := none, state := .writing }, s.buffer, s.unscheduledLines,
        log'⟩ rfl
    exact ⟨_, log, waiting⟩
  | some b =>
    let stats := { s.coordinator.stats with partialPasses := s.coordinator.stats.partialPasses + 1 }
    obtain ⟨log, waiting⟩ := awaitPause_eq
      ⟨{ s.coordinator with loading := none, state := .writing, stats }, b, s.unscheduledLines,
        log'.push (.restyled (affected s.buffer edit))⟩ rfl
    exact ⟨_, log, waiting⟩

/-! ### Timers -/

/-- The timer that a session waits for. -/
def Expects (s : Session σ) (timer : Timer) : Prop :=
  match timer.kind with
  | .debounce => ∃ awaited, s.coordinator.debounce = some awaited ∧ awaited.timer = timer
  | .nextLines => ∃ loading, s.coordinator.loading = some loading ∧ loading.awaited.timer = timer

/-- A timer that is out of date is passed over. -/
theorem delivered_of_stale {s : Session σ} {timer : Timer} (h : ¬ s.Expects timer) :
  ∃ log, s.delivered timer = { s with log }
  := by
  obtain ⟨kind, generation⟩ := timer
  use s.log.push (match kind with
    | .debounce => .staleDebounce generation
    | .nextLines => .staleLines generation)
  rw [delivered]
  cases kind with
  | debounce =>
    have stale : s.coordinator.debounce.map AwaitedTimer.timer ≠ some ⟨.debounce, generation⟩ := by
      intro same
      obtain ⟨awaited, ha, same⟩ := Option.map_eq_some_iff.mp same
      exact h ⟨awaited, ha, same⟩
    exact if_neg stale
  | nextLines =>
    cases hl : s.coordinator.loading with
    | none => rfl
    | some loading =>
      have stale : loading.awaited.timer ≠ ⟨.nextLines, generation⟩ := by
        intro same
        exact h ⟨loading, hl, same⟩
      exact if_neg stale

/-- The timer for a pause makes all of the buffer be styled. -/
theorem delivered_of_pause {s : Session σ} {awaited : AwaitedTimer}
    (h : s.coordinator.debounce = some awaited) (kind : awaited.timer.kind = .debounce)
    (loading : s.coordinator.loading = none) :
  ∃ stats log, s.delivered awaited.timer
    = s.asIdle (s.coordinator.style.applyAll s.buffer) s.scheduler stats log
  := by
  have live : s.coordinator.debounce.map AwaitedTimer.timer = some awaited.timer := by rw [h]; rfl
  obtain ⟨stats, log, full⟩ := fullPass_eq
    (tell { s with coordinator := { s.coordinator with debounce := none } } .paused)
  use stats, log
  rw [delivered]
  simp only [kind]
  rw [if_pos live, full]
  simp only [tell_eq, asIdle, Coordinator.restingState, loading]
  rfl

/-- The timer for lines makes the next lines be styled. -/
theorem delivered_of_lines {s : Session σ} {loading : Loading}
    (h : s.coordinator.loading = some loading) (kind : loading.awaited.timer.kind = .nextLines) :
  s.delivered loading.awaited.timer = s.nextLines loading
  := by
  rw [delivered]
  simp only [kind, h]
  rfl

/-- The line up to which a session styles a long text next. -/
def nextStop (s : Session σ) (loading : Loading) : Nat :=
  min (loading.nextLine + s.coordinator.linesAtOnce) lastLine

/-- The buffer after the next lines of a long text are styled. -/
def nextBuffer (s : Session σ) (loading : Loading) : Buffer :=
  s.coordinator.style.applyLines loading.snapshot s.buffer loading.nextLine (s.nextStop loading)

/-- A text that has changed is given up, and its styling is put off to the next pause. -/
theorem nextLines_of_changed {s : Session σ} {loading : Loading}
    (h : ¬ loading.snapshot.isOf s.buffer) (debounce : s.coordinator.debounce = none) :
  ∃ stats log, s.nextLines loading = s.asWaiting s.buffer s.scheduler stats log
  := by
  let given := { s.coordinator with
    loading := none
    stats := { s.coordinator.stats with staleLoads := s.coordinator.stats.staleLoads + 1 } }
  obtain ⟨log, waiting⟩ := awaitPause_eq
    ⟨given, s.buffer, s.scheduler, s.log.push (.textChanged loading.nextLine)⟩ rfl
  have same : unscheduled
      ⟨given, s.buffer, s.scheduler, s.log.push (.textChanged loading.nextLine)⟩ = s.scheduler := by
    simp only [unscheduled, unscheduledLines, given, debounce]
  obtain ⟨log, settled⟩ := settle_eq (s.asWaiting s.buffer s.scheduler given.stats log)
  use given.stats, log
  have outdated : (!loading.snapshot.isOf s.buffer) = true := by simpa using h
  have armed : s.coordinator.debounce.isNone = true := by rw [debounce]; rfl
  rw [nextLines, if_pos outdated]
  change (if s.coordinator.debounce.isNone = true then awaitPause
    ⟨given, s.buffer, s.scheduler, s.log.push (.textChanged loading.nextLine)⟩ else _).settle = _
  rw [if_pos armed, waiting, same]
  exact settled

/-- What a session has done after the next lines of a long text are styled, which is one line
pass more unless nothing stands on them. -/
def nextStats (s : Session σ) (loading : Loading) : Stats :=
  if (s.coordinator.style.applyLines? s.buffer loading.snapshot loading.nextLine
      (s.nextStop loading)).isSome then
    { s.coordinator.stats with linePasses := s.coordinator.stats.linePasses + 1 }
  else s.coordinator.stats

/-- The session after the next lines of a long text are styled, before it goes on. -/
def withLines (s : Session σ) (loading : Loading) (log : Array Happening) : Session σ :=
  ⟨{ s.coordinator with state := .loading, stats := s.nextStats loading }, s.nextBuffer loading,
    s.scheduler, log⟩

theorem nextLines_of_current {s : Session σ} {loading : Loading}
    (h : loading.snapshot.isOf s.buffer) (debounce : s.coordinator.debounce = none) :
  ∃ log, s.nextLines loading
    = if loading.snapshot.lineCount ≤ s.nextStop loading then
        let lines := s.withLines loading (log.push (.loaded (s.nextStats loading).linePasses))
        settle { lines with coordinator := { lines.coordinator with loading := none } }
      else
        s.asLoading (s.nextBuffer loading) s.scheduler s.coordinator.settings.linePause
          loading.snapshot (s.nextStop loading) (s.nextStats loading) log
  := by
  have current : ¬ (!loading.snapshot.isOf s.buffer) = true := by simpa using h
  rw [nextLines, if_neg current]
  cases result : s.coordinator.style.applyLines? s.buffer loading.snapshot loading.nextLine
    (min (loading.nextLine + s.coordinator.linesAtOnce) lastLine) with
  | none =>
    have same : s.nextBuffer loading = s.buffer := by
      rw [nextBuffer, Style.applyLines, nextStop, result]
      rfl
    have stats : s.nextStats loading = s.coordinator.stats := by
      rw [nextStats, nextStop, result]
      rfl
    use s.log
    simp only [result, withLines]
    rw [same, stats]
    refine if_congr Iff.rfl rfl ?_
    simp only [await, asLoading, debounce]
    rfl
  | some pair =>
    obtain ⟨window, b⟩ := pair
    have same : s.nextBuffer loading = b := by
      rw [nextBuffer, Style.applyLines, nextStop, result]
      rfl
    have stats : s.nextStats loading
        = { s.coordinator.stats with linePasses := s.coordinator.stats.linePasses + 1 } := by
      rw [nextStats, nextStop, result]
      rfl
    use s.log.push (.styledLines loading.nextLine (s.nextStop loading) window)
    simp only [result, withLines]
    rw [same, stats]
    refine if_congr Iff.rfl rfl ?_
    simp only [await, tell_eq, count, asLoading, debounce]
    rfl

/-- The last lines of a text are styled. -/
theorem nextLines_of_last {s : Session σ} {loading : Loading} (h : loading.snapshot.isOf s.buffer)
    (last : loading.snapshot.lineCount ≤ s.nextStop loading)
    (debounce : s.coordinator.debounce = none) :
  ∃ log, s.nextLines loading
    = s.asIdle (s.nextBuffer loading) s.scheduler (s.nextStats loading) log
  := by
  obtain ⟨log, next⟩ := nextLines_of_current h debounce
  rw [if_pos last] at next
  let lines := s.withLines loading (log.push (.loaded (s.nextStats loading).linePasses))
  obtain ⟨log, settled⟩ :=
    settle_eq { lines with coordinator := { lines.coordinator with loading := none } }
  use log
  rw [next, settled]
  simp only [lines, withLines, asIdle, Coordinator.restingState, debounce]
  rfl

/-- Some lines of a text that are not the last ones are styled. -/
theorem nextLines_of_more {s : Session σ} {loading : Loading} (h : loading.snapshot.isOf s.buffer)
    (more : ¬ loading.snapshot.lineCount ≤ s.nextStop loading)
    (debounce : s.coordinator.debounce = none) :
  ∃ log, s.nextLines loading
    = s.asLoading (s.nextBuffer loading) s.scheduler s.coordinator.settings.linePause
      loading.snapshot (s.nextStop loading) (s.nextStats loading) log
  := by
  obtain ⟨log, next⟩ := nextLines_of_current h debounce
  rw [if_neg more] at next
  exact ⟨log, next⟩

end Session

end LiveMarkdown
