import LiveMarkdown.Lifecycle.Clock
import LiveMarkdown.Lifecycle.Coordinator

/-!
# Sessions

A session is a coordinator at work on a buffer, with a scheduler for its timers and a log
of what happened.  The host edits the buffer and tells the coordinator so; everything the
coordinator writes, it writes while it is being told something.
-/

namespace LiveMarkdown

/-- A coordinator with its buffer and its scheduler. -/
structure Session (σ : Type) where
  /-- The coordinator. -/
  coordinator : Coordinator
  /-- The buffer. -/
  buffer : Buffer
  /-- The scheduler. -/
  scheduler : σ
  /-- What happened. -/
  log : Array Happening := #[]

namespace Session

variable {σ : Type}

/-- Notes that something happened. -/
def tell (s : Session σ) (h : Happening) : Session σ :=
  { s with log := s.log.push h }

/-- Puts the coordinator into a state. -/
def move (s : Session σ) (state : StylingState) : Session σ :=
  if s.coordinator.state = state then s
  else
    { s with coordinator := { s.coordinator with state } }.tell
      (.moved s.coordinator.state state)

/-- Puts the coordinator into the state in which it rests. -/
def settle (s : Session σ) : Session σ :=
  s.move s.coordinator.restingState

/-- Changes what the coordinator has done. -/
def count (s : Session σ) (f : Stats → Stats) : Session σ :=
  { s with coordinator := { s.coordinator with stats := f s.coordinator.stats } }

/-- Styles all of the buffer. -/
def fullPass (s : Session σ) : Session σ :=
  let s := s.move .writing
  let style := s.coordinator.style
  let s := { s with buffer := style.applyAll s.buffer }
  (s.count fun stats => { stats with fullPasses := stats.fullPasses + 1 }).settle

/-- The paragraphs around an edit, and the next one if the new text ends a paragraph. -/
def affected (b : Buffer) (edit : Edit) : Span :=
  let start := min edit.span.start b.length
  let stop := min (max edit.span.stop start) b.length
  let around := b.paragraphSpan ⟨start, stop⟩
  let inserted := (b.textIn? ⟨start, stop⟩).getD []
  let last :=
    if containsParagraphBreak inserted ∧ around.stop < b.length then
      (b.paragraphSpan ⟨around.stop, around.stop⟩).stop
    else around.stop
  ⟨min around.start b.length, min last b.length⟩

variable [Scheduler σ]

/-- Sets a timer of a new generation. -/
def await (s : Session σ) (kind : TimerKind) (delay : Nat) : AwaitedTimer × Session σ :=
  let generation := s.coordinator.generation + 1
  let timer : Timer := ⟨kind, generation⟩
  let (handle, scheduler) := Scheduler.schedule s.scheduler delay timer
  (⟨timer, handle⟩, { s with coordinator := { s.coordinator with generation }, scheduler })

/-- Cancels a timer. -/
def forget (s : Session σ) (awaited : AwaitedTimer) : Session σ :=
  { s with scheduler := Scheduler.cancel s.scheduler awaited.handle }

/-- Waits, from now on, for the user to pause. -/
def awaitPause (s : Session σ) : Session σ :=
  let s := match s.coordinator.debounce with
    | some awaited => s.forget awaited
    | none => s
  let (awaited, s) := s.await .debounce s.coordinator.settings.debounce
  { s with coordinator := { s.coordinator with debounce := some awaited } }.move .waiting

/-- Gives up the long text that is being styled, if any. -/
def cancelLoading (s : Session σ) : Session σ :=
  match s.coordinator.loading with
  | none => s
  | some loading =>
    ({ s with coordinator := { s.coordinator with loading := none } }.forget loading.awaited).tell
      (.loadCancelled loading.nextLine)

/-- Gives up the wait for a pause, if any. -/
def cancelPause (s : Session σ) : Session σ :=
  match s.coordinator.debounce with
  | none => s
  | some awaited =>
    ({ s with coordinator := { s.coordinator with debounce := none } }.forget awaited).tell
      .debounceCancelled

/-- Gives up all pending work. -/
def cancel (s : Session σ) : Session σ :=
  s.cancelLoading.cancelPause.settle

/-- Styles a text that was just loaded, a few lines at a time if it is long. -/
def load (s : Session σ) : Session σ :=
  let s := s.cancel
  let length := s.buffer.length
  if length < s.coordinator.settings.longText then (s.tell (.loadedAtOnce length)).fullPass
  else
    let s := s.move .writing
    let style := s.coordinator.style
    let s := { s with buffer := style.reset s.buffer }
    let snapshot := Snapshot.capture s.buffer
    let s := s.tell (.loadedByLines length snapshot.lineCount s.coordinator.linesAtOnce)
    let (awaited, s) := s.await .nextLines 0
    { s with coordinator := { s.coordinator with
        loading := some ⟨snapshot, 0, awaited⟩ } }.move .loading

/-- Styles the paragraphs around an edit and waits for the user to pause.  An edit of
attributes is passed over. -/
def edited (s : Session σ) (edit : Edit) : Session σ :=
  if edit.kind = .attributes ∨ s.coordinator.state = .writing then
    (s.count fun stats => { stats with ignoredEdits := stats.ignoredEdits + 1 }).tell
      (.ignored edit.kind)
  else
    let wasLoading := s.coordinator.loading.isSome
    let s := s.cancelLoading
    let span := affected s.buffer edit
    if span.isEmpty then
      let s := s.tell (.noParagraph edit.span)
      if wasLoading then s.awaitPause else s.settle
    else
      let s := s.move .writing
      let style := s.coordinator.style
      let s := match style.applyPart? s.buffer span with
        | none => s
        | some buffer =>
          ({ s with buffer }.count fun stats =>
            { stats with partialPasses := stats.partialPasses + 1 }).tell (.restyled span)
      s.awaitPause

/-- The greatest number of a line. -/
def lastLine : Nat :=
  UInt64.size - 1

/-- Styles the next lines of a long text, unless the text has changed. -/
def nextLines (s : Session σ) (loading : Loading) : Session σ :=
  if !loading.snapshot.isOf s.buffer then
    let s := (s.count fun stats => { stats with staleLoads := stats.staleLoads + 1 }).tell
      (.textChanged loading.nextLine)
    let s := { s with coordinator := { s.coordinator with loading := none } }
    let s := if s.coordinator.debounce.isNone then s.awaitPause else s
    s.settle
  else
    let first := loading.nextLine
    let last := min (first + s.coordinator.linesAtOnce) lastLine
    let style := s.coordinator.style
    let s := match style.applyLines? s.buffer loading.snapshot first last with
      | none => s
      | some (window, buffer) =>
        ({ s with buffer }.count fun stats =>
          { stats with linePasses := stats.linePasses + 1 }).tell (.styledLines first last window)
    let s := { s with coordinator := { s.coordinator with state := .loading } }
    if loading.snapshot.lineCount ≤ last then
      let s := s.tell (.loaded s.coordinator.stats.linePasses)
      { s with coordinator := { s.coordinator with loading := none } }.settle
    else
      let (awaited, s) := s.await .nextLines s.coordinator.settings.linePause
      { s with coordinator := { s.coordinator with
          loading := some { loading with nextLine := last, awaited } } }

/-- Does the work that a timer was set for, unless the timer is out of date. -/
def delivered (s : Session σ) (timer : Timer) : Session σ :=
  match timer.kind with
  | .debounce =>
    if s.coordinator.debounce.map AwaitedTimer.timer = some timer then
      ({ s with coordinator := { s.coordinator with debounce := none } }.tell .paused).fullPass
    else s.tell (.staleDebounce timer.generation)
  | .nextLines =>
    match s.coordinator.loading with
    | none => s.tell (.staleLines timer.generation)
    | some loading =>
      if loading.awaited.timer = timer then s.nextLines loading
      else s.tell (.staleLines timer.generation)

/-- Takes a message of the host into account. -/
def update (s : Session σ) : Message → Session σ
  | .load => s.load
  | .edited edit => s.edited edit
  | .delivered timer => s.delivered timer
  | .close => s.cancel

end Session

namespace Session

/-- Delivers a timer of a clock to a session. -/
def receive (timer : Timer) (s : Session Clock × Clock) : Session Clock × Clock :=
  let session := { s.1 with scheduler := s.2 }.delivered timer
  (session, session.scheduler)

/-- Delivers timers until none is left.  There are not more of them than lines of the text,
and perhaps one for a pause. -/
def finish (s : Session Clock) : Session Clock :=
  let (_, session, scheduler) := Clock.run receive (s.buffer.length + 3) (s, s.scheduler)
  { session with scheduler }

end Session

end LiveMarkdown
