import LiveMarkdown.Proofs.Lifecycle.Awaited

/-!
# Sessions with different schedulers

A session learns nothing of its scheduler but the handles that it is given.  So two sessions
that differ in their schedulers only, and whose schedulers give out the same handles, differ
in their schedulers only after any message.
-/

namespace LiveMarkdown

/-- Schedulers that are related give out the same handles and stay related. -/
structure Simulates {σ τ : Type} [Scheduler σ] [Scheduler τ] (R : σ → τ → Prop) : Prop where
  /-- Setting a timer. -/
  schedule : ∀ {a b}, R a b → ∀ delay timer,
    (Scheduler.schedule a delay timer).1 = (Scheduler.schedule b delay timer).1
      ∧ R (Scheduler.schedule a delay timer).2 (Scheduler.schedule b delay timer).2
  /-- Cancelling a timer. -/
  cancel : ∀ {a b}, R a b → ∀ handle, R (Scheduler.cancel a handle) (Scheduler.cancel b handle)

namespace Session

/-- Two sessions that differ in their logs, and in their schedulers, which are related. -/
inductive Alike {σ τ : Type} (R : σ → τ → Prop) : Session σ → Session τ → Prop
  /-- The coordinators and the buffers are the same. -/
  | mk {a : σ} {b : τ} (coordinator : Coordinator) (buffer : Buffer) (related : R a b)
      (log log' : Array Happening) :
    Alike R ⟨coordinator, buffer, a, log⟩ ⟨coordinator, buffer, b, log'⟩

namespace Alike

section

variable {σ τ : Type} {R : σ → τ → Prop} {s : Session σ} {t : Session τ}

theorem coordinator_eq (alike : Alike R s t) :
  s.coordinator = t.coordinator
  := by
  cases alike
  rfl

theorem buffer_eq (alike : Alike R s t) :
  s.buffer = t.buffer
  := by
  cases alike
  rfl

theorem related (alike : Alike R s t) :
  R s.scheduler t.scheduler
  := by
  cases alike with
  | mk coordinator buffer related log log' => exact related

theorem awaited_eq (alike : Alike R s t) :
  s.awaited = t.awaited
  := by
  cases alike
  rfl

/-- The schedulers may be changed to others that are related. -/
theorem rescheduled {R' : σ → τ → Prop} (alike : Alike R s t) {a : σ} {b : τ} (related : R' a b) :
  Alike R' { s with scheduler := a } { t with scheduler := b }
  := by
  obtain ⟨c, buffer, -, log, log'⟩ := alike
  exact ⟨c, buffer, related, log, log'⟩

/-- The log does not matter. -/
theorem logged (alike : Alike R s t) (log : Array Happening) :
  Alike R s { t with log }
  := by
  obtain ⟨c, buffer, related, log', -⟩ := alike
  exact ⟨c, buffer, related, log', log⟩

/-- The same change may be made to both buffers. -/
theorem replaced (alike : Alike R s t) (b : Buffer) :
  Alike R { s with buffer := b } { t with buffer := b }
  := by
  obtain ⟨c, -, related, log, log'⟩ := alike
  exact ⟨c, b, related, log, log'⟩

/-- What is known of the one session is known of the other. -/
theorem tracks (alike : Alike R s t) {h : History} (tracks : s.Tracks h) :
  t.Tracks h
  := by
  obtain ⟨c, b, related, log, log'⟩ := alike
  refine ⟨tracks.state, tracks.single, tracks.pause, tracks.fits, ?_⟩
  intro loading hl
  obtain ⟨snapshot, line, number, kind, half⟩ := tracks.lines loading hl
  exact ⟨snapshot, line, number, kind, half⟩

theorem tell (alike : Alike R s t) (h h' : Happening) :
  Alike R (s.tell h) (t.tell h')
  := by
  obtain ⟨c, b, related, log, log'⟩ := alike
  exact ⟨c, b, related, _, _⟩

theorem move (alike : Alike R s t) (state : StylingState) :
  Alike R (s.move state) (t.move state)
  := by
  obtain ⟨c, b, related, log, log'⟩ := alike
  unfold Session.move
  dsimp only
  split
  · exact ⟨c, b, related, _, _⟩
  · exact ⟨{ c with state }, b, related, _, _⟩

theorem settle (alike : Alike R s t) :
  Alike R s.settle t.settle
  := by
  obtain ⟨c, b, related, log, log'⟩ := alike
  exact move ⟨c, b, related, log, log'⟩ c.restingState

theorem count (alike : Alike R s t) (f : Stats → Stats) :
  Alike R (s.count f) (t.count f)
  := by
  obtain ⟨c, b, related, log, log'⟩ := alike
  exact ⟨{ c with stats := f c.stats }, b, related, log, log'⟩

theorem fullPass (alike : Alike R s t) :
  Alike R s.fullPass t.fullPass
  := by
  have writing := alike.move .writing
  unfold Session.fullPass
  generalize s.move .writing = s at writing ⊢
  generalize t.move .writing = t at writing ⊢
  obtain ⟨c, b, related, log, log'⟩ := writing
  exact (count ⟨c, c.style.applyAll b, related, log, log'⟩ _).settle

end

variable {σ τ : Type} [Scheduler σ] [Scheduler τ] {R : σ → τ → Prop} {s : Session σ}
  {t : Session τ}

/-- The same timer is set, with the same handle. -/
theorem await (simulates : Simulates R) (alike : Alike R s t) (kind : TimerKind) (delay : Nat) :
  (s.await kind delay).1 = (t.await kind delay).1
    ∧ Alike R (s.await kind delay).2 (t.await kind delay).2
  := by
  obtain ⟨c, b, related, log, log'⟩ := alike
  obtain ⟨handle, related⟩ := simulates.schedule related delay ⟨kind, c.generation + 1⟩
  unfold Session.await
  dsimp only
  rw [handle]
  exact ⟨rfl, { c with generation := c.generation + 1 }, b, related, log, log'⟩

theorem forget (simulates : Simulates R) (alike : Alike R s t) (awaited : AwaitedTimer) :
  Alike R (s.forget awaited) (t.forget awaited)
  := by
  obtain ⟨c, b, related, log, log'⟩ := alike
  exact ⟨c, b, simulates.cancel related awaited.handle, log, log'⟩

/-- A timer is set, and the coordinator is told of it. -/
theorem awaited (simulates : Simulates R) (alike : Alike R s t) (kind : TimerKind) (delay : Nat)
    (f : AwaitedTimer → Coordinator → Coordinator) :
  Alike R
    { (s.await kind delay).2 with
      coordinator := f (s.await kind delay).1 (s.await kind delay).2.coordinator }
    { (t.await kind delay).2 with
      coordinator := f (t.await kind delay).1 (t.await kind delay).2.coordinator }
  := by
  obtain ⟨timer, set⟩ := alike.await simulates kind delay
  rw [timer]
  generalize (s.await kind delay).2 = s at set ⊢
  generalize t.await kind delay = t at set ⊢
  obtain ⟨timer, t⟩ := t
  obtain ⟨c, b, related, log, log'⟩ := set
  exact ⟨f timer c, b, related, log, log'⟩

theorem awaitPause (simulates : Simulates R) (alike : Alike R s t) :
  Alike R s.awaitPause t.awaitPause
  := by
  obtain ⟨c, b, related, log, log'⟩ := alike
  unfold Session.awaitPause
  dsimp only
  split
  · rename_i awaited _
    have cancelled := forget simulates ⟨c, b, related, log, log'⟩ awaited
    exact (cancelled.awaited simulates .debounce c.settings.debounce fun timer c =>
      { c with debounce := some timer }).move .waiting
  · exact (awaited simulates ⟨c, b, related, log, log'⟩ .debounce c.settings.debounce
      fun timer c => { c with debounce := some timer }).move .waiting

theorem cancelLoading (simulates : Simulates R) (alike : Alike R s t) :
  Alike R s.cancelLoading t.cancelLoading
  := by
  obtain ⟨c, b, related, log, log'⟩ := alike
  unfold Session.cancelLoading
  dsimp only
  split
  · exact ⟨c, b, related, log, log'⟩
  · exact (forget simulates ⟨{ c with loading := none }, b, related, log, log'⟩ _).tell _ _

theorem cancelPause (simulates : Simulates R) (alike : Alike R s t) :
  Alike R s.cancelPause t.cancelPause
  := by
  obtain ⟨c, b, related, log, log'⟩ := alike
  unfold Session.cancelPause
  dsimp only
  split
  · exact ⟨c, b, related, log, log'⟩
  · exact (forget simulates ⟨{ c with debounce := none }, b, related, log, log'⟩ _).tell _ _

theorem cancel (simulates : Simulates R) (alike : Alike R s t) :
  Alike R s.cancel t.cancel
  := ((alike.cancelLoading simulates).cancelPause simulates).settle

theorem load (simulates : Simulates R) (alike : Alike R s t) :
  Alike R s.load t.load
  := by
  have cancelled := alike.cancel simulates
  unfold Session.load
  generalize s.cancel = s at cancelled ⊢
  generalize t.cancel = t at cancelled ⊢
  obtain ⟨c, b, related, log, log'⟩ := cancelled
  dsimp only
  split
  · exact (tell ⟨c, b, related, log, log'⟩ _ _).fullPass
  · have writing := move ⟨c, b, related, log, log'⟩ .writing
    generalize Session.move (⟨c, b, _, log⟩ : Session σ) .writing = s at writing ⊢
    generalize Session.move (⟨c, b, _, log'⟩ : Session τ) .writing = t at writing ⊢
    obtain ⟨c, b, related, log, log'⟩ := writing
    let snapshot := Snapshot.capture (c.style.reset b)
    exact (awaited simulates ⟨c, c.style.reset b, related, _, _⟩ .nextLines 0
      fun timer c => { c with loading := some ⟨snapshot, 0, timer⟩ }).move .loading

theorem edited (simulates : Simulates R) (alike : Alike R s t) (edit : Edit) :
  Alike R (s.edited edit) (t.edited edit)
  := by
  have cancelled := alike.cancelLoading simulates
  unfold Session.edited
  generalize s.cancelLoading = s' at cancelled ⊢
  generalize t.cancelLoading = t' at cancelled ⊢
  obtain ⟨c, b, related, log, log'⟩ := alike
  dsimp only
  split
  · exact (count ⟨c, b, related, log, log'⟩ _).tell _ _
  · obtain ⟨c, b, related, log, log'⟩ := cancelled
    dsimp only
    split
    · split
      · exact (tell ⟨c, b, related, log, log'⟩ _ _).awaitPause simulates
      · exact (tell ⟨c, b, related, log, log'⟩ _ _).settle
    · have writing := move ⟨c, b, related, log, log'⟩ .writing
      generalize Session.move (⟨c, b, _, log⟩ : Session σ) .writing = s at writing ⊢
      generalize Session.move (⟨c, b, _, log'⟩ : Session τ) .writing = t at writing ⊢
      obtain ⟨c, b, related, log, log'⟩ := writing
      dsimp only
      split
      · exact awaitPause simulates ⟨c, b, related, log, log'⟩
      · rename_i b _
        exact ((count ⟨c, b, related, log, log'⟩ _).tell _ _).awaitPause simulates

theorem nextLines (simulates : Simulates R) (alike : Alike R s t) (loading : Loading) :
  Alike R (s.nextLines loading) (t.nextLines loading)
  := by
  obtain ⟨c, b, related, log, log'⟩ := alike
  unfold Session.nextLines
  dsimp only
  split
  · let stats := { c.stats with staleLoads := c.stats.staleLoads + 1 }
    have given := tell ⟨{ c with stats, loading := none }, b, related, log, log'⟩
      (.textChanged loading.nextLine) (.textChanged loading.nextLine)
    obtain ⟨style, settings, state, generation, debounce, _, _⟩ := c
    cases debounce with
    | none => exact (given.awaitPause simulates).settle
    | some _ => exact given.settle
  · let last := min (loading.nextLine + c.linesAtOnce) lastLine
    by_cases done : loading.snapshot.lineCount ≤ last
    · rw [if_pos done, if_pos done]
      split
      · exact settle ⟨_, _, related, _, _⟩
      · exact settle ⟨_, _, related, _, _⟩
    · rw [if_neg done, if_neg done]
      split
      · exact awaited simulates ⟨_, _, related, _, _⟩ .nextLines c.settings.linePause
          fun timer c =>
            { c with loading := some { loading with nextLine := last, awaited := timer } }
      · exact awaited simulates ⟨_, _, related, _, _⟩ .nextLines c.settings.linePause
          fun timer c =>
            { c with loading := some { loading with nextLine := last, awaited := timer } }

theorem delivered (simulates : Simulates R) (alike : Alike R s t) (timer : Timer) :
  Alike R (s.delivered timer) (t.delivered timer)
  := by
  obtain ⟨c, b, related, log, log'⟩ := alike
  unfold Session.delivered
  dsimp only
  split
  · split
    · exact (tell ⟨{ c with debounce := none }, b, related, log, log'⟩ _ _).fullPass
    · exact tell ⟨c, b, related, log, log'⟩ _ _
  · split
    · exact tell ⟨c, b, related, log, log'⟩ _ _
    · split
      · exact nextLines simulates ⟨c, b, related, log, log'⟩ _
      · exact tell ⟨c, b, related, log, log'⟩ _ _

theorem update (simulates : Simulates R) (alike : Alike R s t) (m : Message) :
  Alike R (s.update m) (t.update m)
  := by
  cases m with
  | load => exact alike.load simulates
  | edited edit => exact alike.edited simulates edit
  | delivered timer => exact alike.delivered simulates timer
  | close => exact alike.cancel simulates

end Alike

end Session

end LiveMarkdown
