import LiveMarkdown.Proofs.Lifecycle.Pending

/-!
# Pending work comes to an end

A session that is not idle waits for a timer that its clock holds.  Each delivery of such a
timer brings the session closer to being idle, and the delivery of any other timer changes
nothing.  So when no timer is left the session is idle, and then its buffer looks as if it
had just been rendered.
-/

namespace LiveMarkdown

namespace Session

/-! ### Sessions whose buffer is styled -/

section

variable {σ : Type}

/-- The attributes of the buffer are those that the style gives its text, up to the sign of
sizes that are zero, and without negative zeros if the style has none. -/
structure Reconciled (s : Session σ) : Prop where
  /-- The attributes. -/
  attributes : ∀ u, s.buffer.canonicalAt u = s.coordinator.style.attributesAt s.buffer.chars u
  /-- No size is a negative zero. -/
  sizes : s.coordinator.style.HasNoNegativeZero → s.buffer.IsCanonical

theorem Reconciled.eq_render {s : Session σ} (reconciled : s.Reconciled)
    (sizes : s.coordinator.style.HasNoNegativeZero) :
  s.buffer.attributes = (s.coordinator.style.render s.buffer.chars).attributes
  := by
  apply (reconciled.sizes sizes).attributes_eq (Style.isCanonical_render sizes _)
  intro u
  rw [reconciled.attributes, Style.canonicalAt_render]

theorem reconciled_applyAll (s : Session σ) (b : Buffer) (scheduler : σ) (stats : Stats)
    (log : Array Happening) :
  (s.asIdle (s.coordinator.style.applyAll b) scheduler stats log).Reconciled
  where
  attributes := by
    intro u
    have chars := Buffer.chars_eq_of_version (Style.version_applyAll s.coordinator.style b)
    simp only [asIdle]
    rw [chars, Style.canonicalAt_applyAll]
  sizes := by
    intro sizes
    exact Style.isCanonical_applyAll sizes b

variable {s : Session σ} {h : History}

/-- After the last lines of a long text are styled, all of it is. -/
theorem reconciled_nextBuffer (tracks : s.Tracks h) (few : h.since < 2 ^ 64) {loading : Loading}
    (hl : s.coordinator.loading = some loading) (current : loading.snapshot.isOf s.buffer)
    (last : loading.snapshot.lineCount ≤ s.nextStop loading)
    (nested : loading.snapshot.parsed.document.IsNested) (scheduler : σ) (stats : Stats)
    (log : Array Happening) :
  (s.asIdle (s.nextBuffer loading) scheduler stats log).Reconciled
  := by
  obtain ⟨snapshot, -, -, -, -⟩ := tracks.lines loading hl
  rw [snapshot] at current nested last
  have none := (tracks.fits.isOf_iff few).mp current
  have styled := tracks.halfway_nextBuffer hl none
  have chars : (s.nextBuffer loading).chars = h.loaded :=
    congrArg Prod.fst ((Style.version_applyLines _ _ _ _ _).trans (tracks.version_eq none))
  constructor
  · intro u
    simp only [asIdle]
    rw [chars]
    exact styled.canonicalAt nested chars last u
  · exact styled.sizes

/-! ### How much is left -/

/-- How many more times lines of a long text are styled. -/
def linePasses (s : Session σ) (loading : Loading) : Nat :=
  (loading.snapshot.lineCount - loading.nextLine + s.coordinator.linesAtOnce - 1)
    / s.coordinator.linesAtOnce

/-- How many more timers the session acts on. -/
def remaining (s : Session σ) : Nat :=
  match s.coordinator.loading with
  | some loading => if loading.snapshot.isOf s.buffer then s.linePasses loading else 2
  | none => if s.coordinator.debounce.isSome then 1 else 0

theorem isOf_nextBuffer (s : Session σ) {loading : Loading} (current : loading.snapshot.isOf s.buffer) :
  loading.snapshot.isOf (s.nextBuffer loading)
  := by
  have version : (s.nextBuffer loading).version = s.buffer.version :=
    Style.version_applyLines _ _ _ _ _
  rw [Snapshot.isOf, Buffer.revision_eq_of_version version, Buffer.length_eq_of_version version]
  exact current

/-- Lines are left of a long text while there is a next one. -/
theorem linePasses_pos (s : Session σ) {loading : Loading}
    (line : loading.nextLine < loading.snapshot.lineCount) :
  0 < s.linePasses loading
  := by
  have one := linesAtOnce_pos s.coordinator
  apply Nat.div_pos _ one
  omega

variable [Scheduler σ]

/-- Acting on a timer brings a session closer to being idle. -/
theorem Acts.remaining_lt {s s' : Session σ} (acts : s.Acts s') (tracks : s.Tracks h)
    (short : ∀ loading, s.coordinator.loading = some loading →
      loading.snapshot.lineCount ≤ lastLine) :
  s'.remaining < s.remaining
  := by
  have styling {loading : Loading} (hl : s.coordinator.loading = some loading)
      (current : loading.snapshot.isOf s.buffer) : s.remaining = s.linePasses loading := by
    simp only [remaining, hl]
    exact if_pos current
  cases acts with
  | pause debounce loading stats log => simp [remaining, asIdle, loading, debounce]
  | @last loading hl current last stats log =>
    rw [styling hl current]
    apply linePasses_pos
    rw [(tracks.lines loading hl).snapshot]
    exact (tracks.lines loading hl).line
  | @more loading hl current more stats log =>
    have after : (s.asLoading (s.nextBuffer loading) s.scheduler s.coordinator.settings.linePause
          loading.snapshot (s.nextStop loading) stats log).remaining
        = (loading.snapshot.lineCount - s.nextStop loading + s.coordinator.linesAtOnce - 1)
          / s.coordinator.linesAtOnce :=
      if_pos (isOf_nextBuffer s current)
    -- lines are left, so the number of the next one was not cut off
    have stop : s.nextStop loading = loading.nextLine + s.coordinator.linesAtOnce := by
      have := short loading hl
      rw [nextStop] at more ⊢
      omega
    have one := linesAtOnce_pos s.coordinator
    rw [after, styling hl current, linePasses, stop, ← Nat.add_one_le_iff, ← Nat.add_div_right _ one]
    rw [stop] at more
    apply Nat.div_le_div_right
    omega
  | @changed loading hl changed stats log =>
    have before : s.remaining = 2 := by
      simp only [remaining, hl]
      exact if_neg changed
    rw [before]
    exact Nat.one_lt_two

end

/-! ### Deliveries -/

variable {s s' : Session UnreliableClock} {h : History} {n k : Nat}

/-- A session takes no notice of a timer. -/
def Ignores (s : Session UnreliableClock) (p : PendingTimer) : Prop :=
  ∃ log, s.fire p = { s.without p with log }

/-- Timers of the clock are delivered in some order, `n` of them, of which `k` are taken
notice of. -/
inductive Deliveries : Nat → Nat → Session UnreliableClock → Session UnreliableClock → Prop
  /-- No timer is delivered. -/
  | none (s : Session UnreliableClock) : Deliveries 0 0 s s
  /-- The first timer is not taken notice of. -/
  | ignored {n k : Nat} {s s' : Session UnreliableClock} {p : PendingTimer}
      (pending : p ∈ s.scheduler.clock.pending) (ignores : s.Ignores p)
      (rest : Deliveries n k (s.fire p) s') :
    Deliveries (n + 1) k s s'
  /-- The first timer is taken notice of. -/
  | acted {n k : Nat} {s s' : Session UnreliableClock} {p : PendingTimer}
      (pending : p ∈ s.scheduler.clock.pending) (acts : ¬ s.Ignores p)
      (rest : Deliveries n k (s.fire p) s') :
    Deliveries (n + 1) (k + 1) s s'

/-- What holds of a session while its timers are delivered. -/
structure Settling (s : Session UnreliableClock) (h : History) : Prop where
  /-- The invariant of sessions. -/
  tracks : s.Tracks h
  /-- Text was not replaced too often. -/
  few : h.since < 2 ^ 64
  /-- A long text that is being styled has nodes that lie inside each other, and not too
  many lines. -/
  nested : ∀ loading, s.coordinator.loading = some loading →
    loading.snapshot.parsed.document.IsNested ∧ loading.snapshot.lineCount ≤ lastLine
  /-- A session that has nothing to do has a buffer that is styled. -/
  done : s.coordinator.loading = none → s.coordinator.debounce = none → s.Reconciled

/-- Acting on a timer either ends the work on a long text, or leaves the text the same. -/
theorem Acts.outcome (acts : s.Acts s') (settling : s.Settling h) :
  (s'.coordinator.loading = none ∧ (s'.coordinator.debounce = none → s'.Reconciled))
  ∨ ∃ loading loading', s.coordinator.loading = some loading
    ∧ s'.coordinator.loading = some loading' ∧ loading'.snapshot = loading.snapshot
  := by
  cases acts with
  | pause debounce loading stats log =>
    left
    exact ⟨rfl, fun _ => reconciled_applyAll s _ _ _ _⟩
  | @last loading hl current last stats log =>
    have nested := (settling.nested loading hl).1
    left
    exact ⟨rfl, fun _ => reconciled_nextBuffer settling.tracks settling.few hl current last nested
      _ _ _⟩
  | @more loading hl current more stats log =>
    right
    exact ⟨loading, _, hl, rfl, rfl⟩
  | changed hl changed stats log =>
    left
    exact ⟨rfl, nofun⟩

theorem Settling.without (settling : s.Settling h) (p : PendingTimer) :
  (s.without p).Settling h
  where
  tracks := settling.tracks.without p
  few := settling.few
  nested := settling.nested
  done := by
    intro loading debounce
    obtain ⟨attributes, sizes⟩ := settling.done loading debounce
    exact ⟨attributes, sizes⟩

theorem Settling.delivered (settling : s.Settling h) (timer : Timer) :
  (s.delivered timer).Settling h
  := by
  have tracks := settling.tracks.delivered timer
  by_cases expected : s.Expects timer
  · rcases (settling.tracks.acts expected).outcome settling with ⟨none, done⟩ | ⟨loading, loading', hl, hl', same⟩
    · refine ⟨tracks, settling.few, ?_, ?_⟩
      · rw [none]
        nofun
      · intro _
        exact done
    · refine ⟨tracks, settling.few, ?_, ?_⟩
      · intro other ho
        obtain rfl := Option.some.inj (ho.symm.trans hl')
        rw [same]
        exact settling.nested loading hl
      · rw [hl']
        nofun
  · obtain ⟨log, stale⟩ := delivered_of_stale expected
    refine ⟨tracks, settling.few, ?_, ?_⟩
    · rw [stale]
      exact settling.nested
    · rw [stale]
      intro loading debounce
      obtain ⟨attributes, sizes⟩ := settling.done loading debounce
      exact ⟨attributes, sizes⟩

theorem Settling.fire (settling : s.Settling h) (p : PendingTimer) :
  (s.fire p).Settling h
  := (settling.without p).delivered p.timer

/-- A session that acts on a timer sets at most one. -/
theorem Acts.length_pending (acts : s.Acts s') :
  s'.scheduler.clock.pending.length ≤ s.scheduler.clock.pending.length + 1
  := by
  cases acts with
  | pause debounce loading stats log => exact Nat.le_succ _
  | last hl current last stats log => exact Nat.le_succ _
  | more hl current more stats log => exact (Clock.length_schedule _ _ _).le
  | changed hl changed stats log => exact (Clock.length_schedule _ _ _).le

/-- How many timers can still be delivered. -/
def work (s : Session UnreliableClock) : Nat :=
  s.scheduler.clock.pending.length + s.remaining

theorem work_fire (settling : s.Settling h) {p : PendingTimer}
    (hp : p ∈ s.scheduler.clock.pending) :
  (s.fire p).work < s.work ∧ (s.fire p).remaining ≤ s.remaining
    ∧ (¬ s.Ignores p → (s.fire p).remaining < s.remaining)
  := by
  have taken := Clock.length_deliver s.scheduler.clock hp
  have rest : (s.without p).remaining = s.remaining := rfl
  by_cases expected : (s.without p).Expects p.timer
  · have tracks := (settling.without p).tracks
    have acts := tracks.acts expected
    have less := acts.remaining_lt tracks (fun l hl => (settling.nested l hl).2)
    have set := acts.length_pending
    rw [rest] at less
    change (s.fire p).remaining < s.remaining at less
    change (s.fire p).scheduler.clock.pending.length ≤
      (s.scheduler.clock.deliver p).pending.length + 1 at set
    refine ⟨?_, less.le, fun _ => less⟩
    unfold work
    omega
  · obtain ⟨log, stale⟩ := delivered_of_stale expected
    have same : (s.fire p).remaining = s.remaining := by
      rw [fire, stale]
      rfl
    have left : (s.fire p).scheduler.clock.pending.length
        = (s.scheduler.clock.deliver p).pending.length := by
      rw [fire, stale]
      rfl
    refine ⟨?_, same.le, fun acts => absurd ⟨log, stale⟩ acts⟩
    unfold work
    omega

/-! ### All deliveries -/

theorem Tracks.version_fire (tracks : s.Tracks h) (p : PendingTimer) :
  (s.fire p).buffer.version = s.buffer.version ∧ (s.fire p).coordinator.style = s.coordinator.style
  := by
  by_cases expected : (s.without p).Expects p.timer
  · have acts := (tracks.without p).acts expected
    exact ⟨acts.version, acts.style⟩
  · obtain ⟨log, stale⟩ := delivered_of_stale expected
    rw [fire, stale]
    exact ⟨rfl, rfl⟩

/-- Deliveries keep what holds while timers are delivered, and use up what is left to do. -/
theorem Deliveries.spec (deliveries : Deliveries n k s s') (settling : s.Settling h)
    (armed : s.Armed) :
  s'.Settling h ∧ s'.Armed ∧ n + s'.work ≤ s.work ∧ k + s'.remaining ≤ s.remaining
    ∧ s'.buffer.version = s.buffer.version ∧ s'.coordinator.style = s.coordinator.style
  := by
  induction deliveries with
  | none s => exact ⟨settling, armed, by omega, by omega, rfl, rfl⟩
  | @ignored n k s s' p pending ignores rest ih =>
    obtain ⟨settling', armed', works, acts, version, style⟩ :=
      ih (settling.fire p) (armed.fire settling.tracks pending)
    obtain ⟨less, left, -⟩ := work_fire settling pending
    obtain ⟨version', style'⟩ := settling.tracks.version_fire p
    exact ⟨settling', armed', by omega, by omega, version.trans version', style.trans style'⟩
  | @acted n k s s' p pending acts rest ih =>
    obtain ⟨settling', armed', works, acted, version, style⟩ :=
      ih (settling.fire p) (armed.fire settling.tracks pending)
    obtain ⟨less, -, left⟩ := work_fire settling pending
    obtain ⟨version', style'⟩ := settling.tracks.version_fire p
    have := left acts
    exact ⟨settling', armed', by omega, by omega, version.trans version', style.trans style'⟩

/-- All pending timers can be delivered, because there is an end to it. -/
theorem exists_deliveries (settling : s.Settling h) (armed : s.Armed) :
  ∃ n k s', Deliveries n k s s' ∧ s'.scheduler.clock.pending = []
  := by
  induction work : s.work using Nat.strong_induction_on generalizing s with
  | _ m ih =>
    cases pending : s.scheduler.clock.pending with
    | nil => exact ⟨0, 0, s, .none s, pending⟩
    | cons p ps =>
      have hp : p ∈ s.scheduler.clock.pending := by
        rw [pending]
        exact List.mem_cons_self
      have less := (work_fire settling hp).1
      obtain ⟨n, k, s', rest, empty⟩ :=
        ih (s.fire p).work (by omega) (settling.fire p) (armed.fire settling.tracks hp) rfl
      by_cases ignores : s.Ignores p
      · exact ⟨n + 1, k, s', .ignored hp ignores rest, empty⟩
      · exact ⟨n + 1, k + 1, s', .acted hp ignores rest, empty⟩

/-- The number of lines of the text, or of the long text that is being styled if that has
more. -/
def lineCount {σ : Type} (s : Session σ) : Nat :=
  max (OffsetTable.ofText s.buffer.chars).lineCount
    ((s.coordinator.loading.map fun loading => loading.snapshot.lineCount).getD 0)

/-- A session acts on one timer for each of its line passes, and perhaps on one for a
pause. -/
theorem remaining_le (s : Session UnreliableClock) :
  s.remaining ≤ (s.lineCount + s.coordinator.linesAtOnce - 1) / s.coordinator.linesAtOnce + 1
  := by
  have one := linesAtOnce_pos s.coordinator
  have lines : 0 < s.lineCount := by
    have := OffsetTable.lineCount_pos s.buffer.chars
    rw [lineCount]
    omega
  have pass : 0 < (s.lineCount + s.coordinator.linesAtOnce - 1) / s.coordinator.linesAtOnce := by
    apply Nat.div_pos _ one
    omega
  cases hl : s.coordinator.loading with
  | none =>
    simp only [remaining, hl]
    split
    · omega
    · omega
  | some loading =>
    simp only [remaining, hl]
    split
    · have short : loading.snapshot.lineCount ≤ s.lineCount := by
        rw [lineCount]
        rw [hl]
        exact Nat.le_max_right _ _
      have fewer : s.linePasses loading
          ≤ (s.lineCount + s.coordinator.linesAtOnce - 1) / s.coordinator.linesAtOnce := by
        apply Nat.div_le_div_right
        omega
      omega
    · omega

theorem Settling.of_busy (tracks : s.Tracks h) (few : h.since < 2 ^ 64)
    (busy : s.coordinator.state ≠ .idle)
    (nested : ∀ loading, s.coordinator.loading = some loading →
      loading.snapshot.parsed.document.IsNested ∧ loading.snapshot.lineCount ≤ lastLine) :
  s.Settling h
  := by
  refine ⟨tracks, few, nested, ?_⟩
  intro loading debounce
  exact absurd (tracks.state_eq_idle_iff.mpr ⟨loading, debounce⟩) busy

theorem Armed.state_eq_idle (armed : s.Armed) (tracks : s.Tracks h)
    (empty : s.scheduler.clock.pending = []) :
  s.coordinator.state = .idle
  := by
  have missing (a : AwaitedTimer) : ¬ s.scheduler.clock.Holds a := by
    rintro ⟨p, hp, -⟩
    rw [empty] at hp
    cases hp
  apply tracks.state_eq_idle_iff.mpr
  constructor
  · cases hl : s.coordinator.loading with
    | none => rfl
    | some loading => exact absurd (armed.lines loading hl) (missing _)
  · cases ha : s.coordinator.debounce with
    | none => rfl
    | some awaited => exact absurd (armed.pause awaited ha) (missing _)

/-- Pending work comes to an end.  If a session is not idle, then its pending timers can be
delivered until none is left, and in whatever order that is done, there is an end to it.
The session acts on at most one timer for each group of lines, and one more.  When no timer
is left it is idle, and its buffer has the attributes that rendering its text gives, up to
the sign of sizes that are zero, and exactly these if the style has no negative zero.  The
number of lines of a long text is a machine word, as that of every text in memory is. -/
theorem Operated.reconciles (operated : s.Operated h) (few : h.since < 2 ^ 64)
    (busy : s.coordinator.state ≠ .idle)
    (nested : ∀ loading, s.coordinator.loading = some loading →
      loading.snapshot.parsed.document.IsNested ∧ loading.snapshot.lineCount ≤ lastLine) :
  let bound :=
    (s.lineCount + s.coordinator.linesAtOnce - 1) / s.coordinator.linesAtOnce + 1
  let styled := s.coordinator.style.render s.buffer.chars
  (∃ n k s', Deliveries n k s s' ∧ s'.scheduler.clock.pending = [])
  ∧ ∀ n k s', Deliveries n k s s' →
    n ≤ s.scheduler.clock.pending.length + bound ∧ k ≤ bound
    ∧ (s'.scheduler.clock.pending = [] →
      s'.coordinator.state = .idle ∧ s'.buffer.chars = s.buffer.chars
      ∧ (∀ u, s'.buffer.canonicalAt u = styled.canonicalAt u)
      ∧ (s.coordinator.style.HasNoNegativeZero → s'.buffer.attributes = styled.attributes))
  := by
  intro bound styled
  have settling := Settling.of_busy operated.reached.tracks few busy nested
  refine ⟨exists_deliveries settling operated.armed, ?_⟩
  intro n k s' deliveries
  obtain ⟨settling', armed', works, acted, version, style⟩ :=
    deliveries.spec settling operated.armed
  have most : s.remaining ≤ bound := remaining_le s
  refine ⟨?_, by omega, ?_⟩
  · unfold work at works
    omega
  · intro empty
    have idle := armed'.state_eq_idle settling'.tracks empty
    have chars := Buffer.chars_eq_of_version version
    obtain ⟨loading, debounce⟩ := settling'.tracks.state_eq_idle_iff.mp idle
    have reconciled := settling'.done loading debounce
    refine ⟨idle, chars, ?_, ?_⟩
    · intro u
      rw [reconciled.attributes, Style.canonicalAt_render, style, chars]
    · intro sizes
      dsimp only [styled]
      rw [← style] at sizes ⊢
      rw [← chars]
      exact reconciled.eq_render sizes

/-- A heading and a line of text, which are styled one after the other by a clock that
honours no cancellation. -/
theorem Operated.reconciles_heading :
  let s := (ofText .standard { longText := 0, linesAtOnce := 1 } "# a\nb".toList
    (⟨{}, fun _ => false⟩ : UnreliableClock)).load
  s.coordinator.state ≠ .idle ∧ ∃ n k s', Deliveries n k s s' ∧ k ≤ 3
    ∧ s'.coordinator.state = .idle
    ∧ s'.buffer.attributes = (Style.standard.render "# a\nb".toList).attributes
  := by
  intro s
  have operated : s.Operated ⟨"# a\nb".toList, 0, 0⟩ :=
    .told .load (s := ofText .standard { longText := 0, linesAtOnce := 1 } "# a\nb".toList
      (⟨{}, fun _ => false⟩ : UnreliableClock)) (.start rfl rfl rfl rfl)
  have busy : s.coordinator.state ≠ .idle := by decide +kernel
  have nested : ∀ loading, s.coordinator.loading = some loading →
      loading.snapshot.parsed.document.IsNested ∧ loading.snapshot.lineCount ≤ lastLine := by
    decide +kernel
  have lines : (s.lineCount + s.coordinator.linesAtOnce - 1) / s.coordinator.linesAtOnce + 1 = 3 := by
    decide +kernel
  obtain ⟨⟨n, k, s', deliveries, empty⟩, all⟩ :=
    operated.reconciles (by decide) busy nested
  obtain ⟨-, acted, done⟩ := all n k s' deliveries
  obtain ⟨idle, -, -, styled⟩ := done empty
  rw [lines] at acted
  exact ⟨busy, n, k, s', deliveries, acted, idle, styled (by decide +kernel)⟩

end Session

end LiveMarkdown
