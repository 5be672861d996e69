import LiveMarkdown.Proofs.Lifecycle.Awaited

/-!
# Timers take effect once

A recorder is a scheduler that keeps a list of the timers that were set, and a list of those
that were cancelled.  With it one can say of every timer that a session ever set whether it
is still of use: it is the one that was set last, and it has neither been acted upon nor
cancelled.  No other timer is taken notice of, however often and in whatever order timers are
delivered.
-/

namespace LiveMarkdown

/-- A scheduler whose calls are recorded. -/
structure Recorder (σ : Type) where
  /-- The scheduler. -/
  scheduler : σ
  /-- The timers that were set, the last one first. -/
  set : List AwaitedTimer := []
  /-- The timers that were cancelled. -/
  cancelled : List Timer := []

namespace Recorder

variable {σ : Type} [Scheduler σ]

/-- Sets a timer. -/
def schedule (r : Recorder σ) (delay : Nat) (timer : Timer) : Nat × Recorder σ :=
  let (handle, scheduler) := Scheduler.schedule r.scheduler delay timer
  (handle, { r with scheduler, set := ⟨timer, handle⟩ :: r.set })

/-- Cancels the timers that were set with a handle. -/
def cancel (r : Recorder σ) (handle : Nat) : Recorder σ :=
  { r with
    scheduler := Scheduler.cancel r.scheduler handle
    cancelled := (r.set.filter (·.handle = handle)).map AwaitedTimer.timer ++ r.cancelled }

instance : Scheduler (Recorder σ) where
  schedule := schedule
  cancel := cancel

/-- The timers that were set, the last one first. -/
def timers {σ : Type} (r : Recorder σ) : List Timer :=
  r.set.map AwaitedTimer.timer

/-- Cancelling cancels a timer that was set, and no others than those that were set. -/
theorem cancelled_cancel (r : Recorder σ) (handle : Nat) :
  r.cancelled ⊆ (r.cancel handle).cancelled
  ∧ (∀ a ∈ r.set, a.handle = handle → a.timer ∈ (r.cancel handle).cancelled)
  ∧ (r.cancelled ⊆ r.timers → (r.cancel handle).cancelled ⊆ r.timers)
  := by
  refine ⟨List.subset_append_right _ _, ?_, ?_⟩
  · intro a ha same
    apply List.mem_append_left
    apply List.mem_map_of_mem
    exact List.mem_filter.mpr ⟨ha, decide_eq_true same⟩
  · intro known
    apply List.append_subset_of_subset_of_subset _ known
    intro t ht
    obtain ⟨a, ha, rfl⟩ := List.mem_map.mp ht
    exact List.mem_map_of_mem (List.mem_of_mem_filter ha)

end Recorder

namespace Session

section

variable {σ : Type} [Scheduler σ] {s : Session σ} {h : History}

/-- The delivery of a timer leaves the buffer, the scheduler and the coordinator alone. -/
def Disregards (s : Session σ) (timer : Timer) : Prop :=
  (s.delivered timer).buffer = s.buffer ∧ (s.delivered timer).scheduler = s.scheduler
    ∧ (s.delivered timer).coordinator = s.coordinator

/-- A session takes notice of the timers that it expects, and of no others. -/
theorem Tracks.disregards_iff (tracks : s.Tracks h) {timer : Timer} :
  s.Disregards timer ↔ ¬ s.Expects timer
  := by
  rcases tracks.turns_delivered timer with ⟨unexpected, log, stale⟩ | ⟨expected, turns⟩
  · simp only [unexpected, not_false_eq_true, iff_true, Disregards]
    rw [stale]
    exact ⟨rfl, rfl, rfl⟩
  · simp only [expected, not_true, iff_false]
    rintro ⟨-, -, coordinator⟩
    cases turns with
    | rests awaited _ _ =>
      obtain ⟨a, ha, -⟩ := tracks.expects_iff.mp expected
      have same : (s.delivered timer).awaited = s.awaited := by
        rw [Session.awaited, Session.awaited, coordinator]
      rw [← same, awaited] at ha
      cases ha
    | waits kind delay _ generation _ =>
      rw [coordinator] at generation
      omega

end

variable {σ : Type} [Scheduler σ] {s s' : Session (Recorder σ)} {acted acted' : List Timer}
  {base : Recorder σ} {h : History}

/-- What is known of the timers that a session has set, of which some were acted upon. -/
structure Numbered (s : Session (Recorder σ)) (acted : List Timer) : Prop where
  /-- The invariant of sessions. -/
  tracks : ∃ h, s.Tracks h
  /-- Later timers are of later generations. -/
  order : s.scheduler.timers.Pairwise fun t u => u.generation < t.generation
  /-- No timer is of a later generation than the session. -/
  bound : ∀ t ∈ s.scheduler.timers, t.generation ≤ s.coordinator.generation
  /-- A timer that the session waits for was set last and is not spent. -/
  live : ∀ a ∈ s.awaited, s.scheduler.set.head? = some a
    ∧ a.timer ∉ acted ∧ a.timer ∉ s.scheduler.cancelled
  /-- A timer that was set last is waited for, or it is spent. -/
  last : ∀ a, s.scheduler.set.head? = some a →
    a ∈ s.awaited ∨ a.timer ∈ acted ∨ a.timer ∈ s.scheduler.cancelled
  /-- No timer was acted upon twice. -/
  once : acted.Nodup
  /-- Timers that were acted upon were set before. -/
  acted : acted ⊆ s.scheduler.timers
  /-- Timers that were cancelled were set before. -/
  cancelled : s.scheduler.cancelled ⊆ s.scheduler.timers

namespace Numbered

omit [Scheduler σ] in
theorem sameWork (numbered : s.Numbered acted) (same : s.SameWork s') :
  s'.Numbered acted
  where
  tracks := by
    obtain ⟨h, tracks⟩ := numbered.tracks
    exact ⟨h, tracks.sameWork same⟩
  order := by
    rw [same.scheduler]
    exact numbered.order
  bound := by
    rw [same.scheduler, same.generation]
    exact numbered.bound
  live := by
    rw [same.scheduler, same.awaited]
    exact numbered.live
  last := by
    rw [same.scheduler, same.awaited]
    exact numbered.last
  once := numbered.once
  acted := by
    rw [same.scheduler]
    exact numbered.acted
  cancelled := by
    rw [same.scheduler]
    exact numbered.cancelled

/-- A session takes notice of something, and the timer that it was waiting for is spent
thereby. -/
theorem turns (numbered : s.Numbered acted) (turns : s.Turns base s') (tracks : s'.Tracks h)
    (set : base.set = s.scheduler.set) (once : acted'.Nodup) (known : acted' ⊆ base.timers)
    (known' : base.cancelled ⊆ base.timers) (more : acted ⊆ acted')
    (more' : s.scheduler.cancelled ⊆ base.cancelled)
    (spent : ∀ a ∈ s.awaited, a.timer ∈ acted' ∨ a.timer ∈ base.cancelled) :
  s'.Numbered acted'
  := by
  have timers : base.timers = s.scheduler.timers := congrArg (List.map _) set
  have order := numbered.order
  have bound := numbered.bound
  rw [← timers] at order bound
  cases turns with
  | rests awaited generation scheduler =>
    refine ⟨⟨h, tracks⟩, ?_, ?_, ?_, ?_, once, ?_, ?_⟩
    · rw [scheduler]
      exact order
    · rw [scheduler, generation]
      exact bound
    · rw [awaited]
      nofun
    · rw [scheduler, set]
      intro a ha
      right
      rcases numbered.last a ha with waited | acted | cancelled
      · exact spent a waited
      · exact .inl (more acted)
      · exact .inr (more' cancelled)
    · rw [scheduler]
      exact known
    · rw [scheduler]
      exact known'
  | waits kind delay awaited generation scheduler =>
    have fresh : s.nextTimer kind ∉ base.timers := by
      intro old
      exact Nat.not_succ_le_self _ (bound _ old)
    have timers' : s'.scheduler.timers = s.nextTimer kind :: base.timers := by
      rw [scheduler]
      rfl
    have cancelled : s'.scheduler.cancelled = base.cancelled := by
      rw [scheduler]
      rfl
    refine ⟨⟨h, tracks⟩, ?_, ?_, ?_, ?_, once, ?_, ?_⟩
    · rw [timers']
      apply List.pairwise_cons.mpr ⟨_, order⟩
      intro t ht
      exact Nat.lt_succ_of_le (bound t ht)
    · rw [timers', generation]
      intro t ht
      rcases List.mem_cons.mp ht with rfl | ht
      · exact le_rfl
      · exact Nat.le_succ_of_le (bound t ht)
    · rw [awaited, cancelled]
      intro a ha
      obtain rfl := List.mem_singleton.mp ha
      refine ⟨?_, fun h => fresh (known h), fun h => fresh (known' h)⟩
      rw [scheduler]
      rfl
    · rw [awaited]
      intro a ha
      rw [scheduler] at ha
      obtain rfl := Option.some.inj ha
      exact .inl (List.mem_singleton_self _)
    · rw [timers']
      exact List.subset_cons_of_subset _ known
    · rw [timers', cancelled]
      exact List.subset_cons_of_subset _ known'

/-- Of the timers that a session waits for, each is cancelled. -/
theorem cancelled_unscheduled (numbered : s.Numbered acted) :
  s.unscheduled.set = s.scheduler.set ∧ s.scheduler.cancelled ⊆ s.unscheduled.cancelled
  ∧ s.unscheduled.cancelled ⊆ s.scheduler.timers
  ∧ ∀ a ∈ s.awaited, a.timer ∈ s.unscheduled.cancelled
  := by
  obtain ⟨h, tracks⟩ := numbered.tracks
  have known := numbered.cancelled
  have set {a : AwaitedTimer} (ha : a ∈ s.awaited) : a ∈ s.scheduler.set :=
    List.mem_of_mem_head? (numbered.live a ha).1
  cases hl : s.coordinator.loading with
  | some loading =>
    have only := awaited_eq_of_loading tracks hl
    have unscheduled : s.unscheduled = s.scheduler.cancel loading.awaited.handle := by
      simp only [Session.unscheduled, unscheduledLines, tracks.debounce_eq_none hl, hl]
      rfl
    obtain ⟨more, cancels, known'⟩ := s.scheduler.cancelled_cancel loading.awaited.handle
    rw [unscheduled, only]
    rw [only] at set
    refine ⟨rfl, more, known' known, ?_⟩
    intro a ha
    obtain rfl := List.mem_singleton.mp ha
    exact cancels _ (set ha) rfl
  | none =>
    cases ha : s.coordinator.debounce with
    | some awaited =>
      have only := awaited_eq_of_debounce tracks ha
      have unscheduled : s.unscheduled = s.scheduler.cancel awaited.handle := by
        simp only [Session.unscheduled, unscheduledLines, hl, ha]
        rfl
      obtain ⟨more, cancels, known'⟩ := s.scheduler.cancelled_cancel awaited.handle
      rw [unscheduled, only]
      rw [only] at set
      refine ⟨rfl, more, known' known, ?_⟩
      intro a ha
      obtain rfl := List.mem_singleton.mp ha
      exact cancels _ (set ha) rfl
    | none =>
      have unscheduled : s.unscheduled = s.scheduler := by
        simp only [Session.unscheduled, unscheduledLines, hl, ha]
      rw [unscheduled, awaited_eq_nil hl ha]
      refine ⟨rfl, List.Subset.refl _, known, ?_⟩
      intro a ha
      cases ha

theorem update (numbered : s.Numbered acted) {m : Message} (own : m.timer? = none) :
  (s.update m).Numbered acted
  := by
  obtain ⟨h, tracks⟩ := numbered.tracks
  rcases tracks.turns_update own with same | turns
  · exact numbered.sameWork same
  · obtain ⟨set, more, known, spent⟩ := numbered.cancelled_unscheduled
    have timers : s.unscheduled.timers = s.scheduler.timers := congrArg (List.map _) set
    rw [← timers] at known
    apply numbered.turns turns (tracks.update m) set numbered.once _ known
      (List.Subset.refl _) more (fun a ha => .inr (spent a ha))
    rw [timers]
    exact numbered.acted

/-- A timer that the session waits for is spent by being delivered. -/
theorem delivered (numbered : s.Numbered acted) {timer : Timer} (expected : s.Expects timer) :
  (s.delivered timer).Numbered (timer :: acted)
  := by
  obtain ⟨h, tracks⟩ := numbered.tracks
  obtain ⟨a, ha, rfl⟩ := tracks.expects_iff.mp expected
  obtain ⟨head, fresh, -⟩ := numbered.live a ha
  have set : a.timer ∈ s.scheduler.timers := List.mem_map_of_mem (List.mem_of_mem_head? head)
  apply numbered.turns (tracks.acts expected).turns (tracks.delivered a.timer) rfl
    (List.nodup_cons.mpr ⟨fresh, numbered.once⟩) (List.cons_subset.mpr ⟨set, numbered.acted⟩)
    numbered.cancelled (List.subset_cons_self _ _) (List.Subset.refl _)
  intro b hb
  obtain rfl := Option.some.inj (head.symm.trans (numbered.live b hb).1)
  exact .inl List.mem_cons_self

end Numbered

/-- A host starts with a session that has set no timer.  It tells the session that a text was
loaded or edited or is being closed, replaces text and tells the session of it or does not,
takes the edits that were noted, and delivers timers, in any order and any number of times.
Those timers are recorded whose delivery changed something.  Nothing is assumed of the
scheduler. -/
inductive Recorded : Session (Recorder σ) → List Timer → Prop
  /-- Nothing has happened. -/
  | start {s : Session (Recorder σ)} (state : s.coordinator.state = .idle)
      (debounce : s.coordinator.debounce = none) (loading : s.coordinator.loading = none)
      (set : s.scheduler.set = []) (cancelled : s.scheduler.cancelled = []) :
    Recorded s []
  /-- The host tells the session something. -/
  | told {s : Session (Recorder σ)} {acted : List Timer} {m : Message} (own : m.timer? = none)
      (recorded : Recorded s acted) :
    Recorded (s.update m) acted
  /-- The host replaces text. -/
  | replaced {s : Session (Recorder σ)} {acted : List Timer} {b : Buffer} {span : Span}
      {text : List Char} {edit : Edit} (replaced : s.buffer.replace? span text = some (edit, b))
      (recorded : Recorded s acted) :
    Recorded { s with buffer := b } acted
  /-- The host takes the edits that were noted. -/
  | taken {s : Session (Recorder σ)} {acted : List Timer} (recorded : Recorded s acted) :
    Recorded { s with buffer := s.buffer.takeEdits.2 } acted
  /-- A timer is delivered that changes nothing. -/
  | disregarded {s : Session (Recorder σ)} {acted : List Timer} {timer : Timer}
      (disregards : s.Disregards timer) (recorded : Recorded s acted) :
    Recorded (s.delivered timer) acted
  /-- A timer is delivered that changes something. -/
  | acted {s : Session (Recorder σ)} {acted : List Timer} {timer : Timer}
      (acts : ¬ s.Disregards timer) (recorded : Recorded s acted) :
    Recorded (s.delivered timer) (timer :: acted)
  /-- The scheduler changes. -/
  | rescheduled {s : Session (Recorder σ)} {acted : List Timer} (scheduler : σ)
      (recorded : Recorded s acted) :
    Recorded { s with scheduler := { s.scheduler with scheduler } } acted

theorem Recorded.numbered (recorded : s.Recorded acted) :
  s.Numbered acted
  := by
  induction recorded with
  | @start s state debounce loading set cancelled =>
    have timers : s.scheduler.timers = [] := congrArg (List.map _) set
    refine ⟨⟨_, (Reached.start state debounce loading).tracks⟩, ?_, ?_, ?_, ?_, List.nodup_nil,
      List.nil_subset _, ?_⟩
    · rw [timers]
      exact .nil
    · rw [timers]
      nofun
    · rw [awaited_eq_nil loading debounce]
      nofun
    · rw [set]
      nofun
    · rw [cancelled]
      exact List.nil_subset _
  | told own _ ih => exact ih.update own
  | replaced replaced _ ih =>
    obtain ⟨h, tracks⟩ := ih.tracks
    exact { ih with tracks := ⟨_, tracks.replaced replaced⟩ }
  | taken _ ih =>
    obtain ⟨h, tracks⟩ := ih.tracks
    exact { ih with tracks := ⟨h, tracks.taken⟩ }
  | disregarded disregards _ ih =>
    obtain ⟨h, tracks⟩ := ih.tracks
    obtain ⟨log, stale⟩ := delivered_of_stale (tracks.disregards_iff.mp disregards)
    exact ih.sameWork (sameWork_of_log stale)
  | acted acts _ ih =>
    obtain ⟨h, tracks⟩ := ih.tracks
    exact ih.delivered (not_not.mp fun unexpected => acts (tracks.disregards_iff.mpr unexpected))
  | rescheduled scheduler _ ih =>
    obtain ⟨h, tracks⟩ := ih.tracks
    exact { ih with tracks := ⟨h, tracks.rescheduled _⟩ }

/-- Each timer takes effect at most once.  No two timers that a session sets are equal, and
none of them is acted upon twice.  A timer that was set is passed over, so that the buffer,
the scheduler and the coordinator stay as they are, if it was acted upon or cancelled, or if
another one was set after it, as an edit, a load or the next lines of a long text do; and
otherwise it is not passed over. -/
theorem Recorded.takes_effect_once (recorded : s.Recorded acted) :
  let set := s.scheduler.timers
  set.Nodup ∧ acted.Nodup ∧ acted ⊆ set
  ∧ ∀ timer ∈ set, s.Disregards timer ↔
    timer ∈ acted ∨ timer ∈ s.scheduler.cancelled ∨ timer ∈ set.tail
  := by
  intro set
  have numbered := recorded.numbered
  obtain ⟨h, tracks⟩ := numbered.tracks
  have nodup : set.Nodup := by
    apply numbered.order.imp
    rintro t u later rfl
    exact Nat.lt_irrefl _ later
  refine ⟨nodup, numbered.once, numbered.acted, ?_⟩
  intro timer ht
  rw [tracks.disregards_iff, tracks.expects_iff]
  cases hs : s.scheduler.set with
  | nil => simp [set, Recorder.timers, hs] at ht
  | cons first rest =>
    have timers : set = first.timer :: rest.map AwaitedTimer.timer := by
      simp [set, Recorder.timers, hs]
    have head : s.scheduler.set.head? = some first := by rw [hs]; rfl
    rw [timers] at ht nodup ⊢
    constructor
    · intro unexpected
      rcases List.mem_cons.mp ht with rfl | earlier
      · rcases numbered.last first head with waited | spent | spent
        · exact absurd ⟨first, waited, rfl⟩ unexpected
        · exact .inl spent
        · exact .inr (.inl spent)
      · exact .inr (.inr earlier)
    · rintro spent ⟨a, ha, rfl⟩
      obtain ⟨only, fresh, kept⟩ := numbered.live a ha
      obtain rfl := Option.some.inj (head.symm.trans only)
      rcases spent with spent | spent | spent
      · exact fresh spent
      · exact kept spent
      · exact (List.nodup_cons.mp nodup).1 spent

/-- Of two timers that two edits set, the second is acted upon; then both are passed over. -/
theorem Recorded.takes_effect_once_edited :
  let edit : Edit := ⟨.characters, ⟨0, 1⟩, 0⟩
  let s := ((ofText .standard {} "# a".toList ({ scheduler := {} } : Recorder Clock)).edited
    edit).edited edit
  let paused := s.delivered ⟨.debounce, 2⟩
  paused.scheduler.timers = [⟨.debounce, 2⟩, ⟨.debounce, 1⟩]
  ∧ ¬ s.Disregards ⟨.debounce, 2⟩
  ∧ paused.Disregards ⟨.debounce, 1⟩ ∧ paused.Disregards ⟨.debounce, 2⟩
  := by
  intro edit s paused
  have recorded : s.Recorded [] :=
    .told (m := .edited edit) rfl (.told (m := .edited edit) rfl
      (.start (s := ofText .standard {} "# a".toList ({ scheduler := {} } : Recorder Clock))
        rfl rfl rfl rfl rfl))
  have acts : ¬ s.Disregards ⟨.debounce, 2⟩ := by
    rintro ⟨-, -, coordinator⟩
    have states : (s.delivered ⟨.debounce, 2⟩).coordinator.state ≠ s.coordinator.state := by
      decide +kernel
    exact states (congrArg Coordinator.state coordinator)
  have timers : paused.scheduler.timers = [⟨.debounce, 2⟩, ⟨.debounce, 1⟩] := by decide +kernel
  have after : paused.Recorded [⟨.debounce, 2⟩] := .acted acts recorded
  obtain ⟨-, -, -, spent⟩ := after.takes_effect_once
  simp only [timers] at spent
  refine ⟨timers, acts, ?_, ?_⟩
  · apply (spent ⟨.debounce, 1⟩ (by decide)).mpr
    exact .inr (.inr (List.mem_singleton_self _))
  · apply (spent ⟨.debounce, 2⟩ (by decide)).mpr
    exact .inl (List.mem_singleton_self _)

end Session

end LiveMarkdown
