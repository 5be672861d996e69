import LiveMarkdown.Proofs.Lifecycle.Steps
import LiveMarkdown.Proofs.Styling.Convergence

/-!
# What a session knows of its text

A session tells by a number whether its text has changed since it was loaded.  The history
of a session is what that number stands for: the text that was loaded last, and how often
text was replaced since then.  For every session that a host can bring about, the long text
that is being styled is the one that was loaded, up to its next line it is styled, and it is
the text of the buffer as long as nothing was replaced.
-/

namespace LiveMarkdown

/-! ### Histories -/

/-- What happened to the text of a session. -/
structure History where
  /-- The text that was loaded last. -/
  loaded : List Char
  /-- The revision of the buffer at that time. -/
  revision : UInt64
  /-- How often text was replaced since then. -/
  since : Nat

namespace History

/-- The history of a session whose text was just loaded. -/
def ofBuffer (b : Buffer) : History :=
  ⟨b.chars, b.revision, 0⟩

/-- The history after a host told the session something. -/
def told (h : History) (b : Buffer) : Message → History
  | .load => ofBuffer b
  | _ => h

/-- The history after text was replaced. -/
def replaced (h : History) : History :=
  { h with since := h.since + 1 }

/-- A history is one of a buffer. -/
structure Fits (h : History) (b : Buffer) : Prop where
  /-- The number of the revision counts what was replaced. -/
  revision : b.revision = h.revision + UInt64.ofNat h.since
  /-- The text is the one that was loaded, unless something was replaced. -/
  text : h.since = 0 → b.chars = h.loaded

theorem fits_ofBuffer (b : Buffer) :
  (ofBuffer b).Fits b
  := by
  constructor
  · simp [ofBuffer]
  · intro _
    rfl

theorem Fits.of_version {h : History} {b c : Buffer} (fits : h.Fits b)
    (same : c.version = b.version) :
  h.Fits c
  := by
  constructor
  · rw [Buffer.revision_eq_of_version same, fits.revision]
  · intro none
    rw [Buffer.chars_eq_of_version same, fits.text none]

theorem revision_of_replace? {b c : Buffer} {span : Span} {text : List Char} {edit : Edit}
    (replaced : b.replace? span text = some (edit, c)) :
  c.revision = b.revision + 1
  := by
  rw [Buffer.replace?] at replaced
  split at replaced
  · obtain ⟨-, rfl⟩ := Prod.mk.inj (Option.some.inj replaced)
    rfl
  · cases replaced

theorem Fits.replaced {h : History} {b c : Buffer} (fits : h.Fits b) {span : Span}
    {text : List Char} {edit : Edit} (replaced : b.replace? span text = some (edit, c)) :
  h.replaced.Fits c
  := by
  constructor
  · rw [revision_of_replace? replaced, fits.revision, History.replaced, UInt64.ofNat_add,
      UInt64.add_assoc]
    rfl
  · nofun

/-- While fewer than 2⁶⁴ edits were made, the number of the revision tells whether there
were any. -/
theorem Fits.isOf_iff {h : History} {b : Buffer} (fits : h.Fits b) (few : h.since < 2 ^ 64) :
  (Snapshot.ofText h.loaded h.revision).isOf b ↔ h.since = 0
  := by
  constructor
  · intro current
    rw [Snapshot.isOf, Bool.and_eq_true, beq_iff_eq] at current
    have same : h.revision = h.revision + UInt64.ofNat h.since := current.1.trans fits.revision
    have zero := congrArg UInt64.toNat (UInt64.left_eq_add.mp same)
    rw [UInt64.toNat_ofNat', Nat.mod_eq_of_lt few] at zero
    exact zero
  · intro none
    apply Style.isOf_ofText
    rw [Buffer.version, fits.text none, fits.revision, none]
    simp

end History

namespace Session

variable {σ : Type}

/-! ### The invariant of a session -/

/-- A long text that is being styled is the one that was loaded.  Until something is
replaced, its lines before the next one are styled, and no others. -/
structure Follows (s : Session σ) (h : History) (loading : Loading) : Prop where
  /-- The snapshot is of the text that was loaded. -/
  snapshot : loading.snapshot = Snapshot.ofText h.loaded h.revision
  /-- There is a next line. -/
  line : loading.nextLine < (OffsetTable.ofText h.loaded).lineCount
  /-- The next line is a number of a line. -/
  number : loading.nextLine ≤ lastLine
  /-- The timer that is awaited is one for lines. -/
  kind : loading.awaited.timer.kind = .nextLines
  /-- What has been styled. -/
  half : h.since = 0 → Style.Halfway s.coordinator.style h.loaded loading.nextLine s.buffer

/-- What holds of every session that a host can bring about. -/
structure Tracks (s : Session σ) (h : History) : Prop where
  /-- The state says what the session waits for. -/
  state : s.coordinator.state = s.coordinator.restingState
  /-- A session does not wait for a pause while it styles a long text. -/
  single : s.coordinator.loading = none ∨ s.coordinator.debounce = none
  /-- The timer that is awaited for a pause is one for a pause. -/
  pause : ∀ awaited, s.coordinator.debounce = some awaited → awaited.timer.kind = .debounce
  /-- The history is that of the buffer. -/
  fits : h.Fits s.buffer
  /-- The long text is the one that was loaded. -/
  lines : ∀ loading, s.coordinator.loading = some loading → s.Follows h loading

namespace Tracks

variable {s s' : Session σ} {h h' : History}

theorem debounce_eq_none (tracks : s.Tracks h) {loading : Loading}
    (hl : s.coordinator.loading = some loading) :
  s.coordinator.debounce = none
  := by
  rcases tracks.single with none | none
  · rw [hl] at none
    cases none
  · exact none

theorem loading_eq_none (tracks : s.Tracks h) {awaited : AwaitedTimer}
    (ha : s.coordinator.debounce = some awaited) :
  s.coordinator.loading = none
  := by
  rcases tracks.single with none | none
  · exact none
  · rw [ha] at none
    cases none

/-- A session is idle when it waits for nothing. -/
theorem state_eq_idle_iff (tracks : s.Tracks h) :
  s.coordinator.state = .idle ↔ s.coordinator.loading = none ∧ s.coordinator.debounce = none
  := by
  rw [tracks.state, Coordinator.restingState]
  cases s.coordinator.loading with
  | some loading => simp
  | none =>
    cases s.coordinator.debounce with
    | some awaited => simp
    | none => simp

theorem sameWork (tracks : s.Tracks h) (same : s.SameWork s') :
  s'.Tracks h
  where
  state := by
    have resting : s'.coordinator.restingState = s.coordinator.restingState := by
      rw [Coordinator.restingState, Coordinator.restingState, same.loading, same.debounce]
    rw [same.state, resting, tracks.state]
  single := by
    rw [same.loading, same.debounce]
    exact tracks.single
  pause := by
    rw [same.debounce]
    exact tracks.pause
  fits := by
    rw [same.buffer]
    exact tracks.fits
  lines := by
    rw [same.loading]
    intro loading hl
    obtain ⟨snapshot, line, number, kind, half⟩ := tracks.lines loading hl
    refine ⟨snapshot, line, number, kind, ?_⟩
    rw [same.style, same.buffer]
    exact half

/-- While nothing was replaced, the buffer has the text and the revision that were loaded. -/
theorem version_eq (tracks : s.Tracks h) (none : h.since = 0) :
  s.buffer.version = (h.loaded, h.revision)
  := by
  rw [Buffer.version, tracks.fits.text none, tracks.fits.revision, none]
  simp

/-- After the next lines of the text that was loaded are styled, so are all before them. -/
theorem halfway_nextBuffer (tracks : s.Tracks h) {loading : Loading}
    (hl : s.coordinator.loading = some loading) (none : h.since = 0) :
  Style.Halfway s.coordinator.style h.loaded (s.nextStop loading) (s.nextBuffer loading)
  := by
  obtain ⟨snapshot, -, number, -, half⟩ := tracks.lines loading hl
  rw [nextBuffer, snapshot]
  apply (half none).applyLines (tracks.version_eq none)
  rw [nextStop]
  omega

end Tracks

theorem tracks_asIdle (s : Session σ) {h : History} {b : Buffer} (fits : h.Fits b) (scheduler : σ)
    (stats : Stats) (log : Array Happening) :
  (s.asIdle b scheduler stats log).Tracks h
  where
  state := rfl
  single := .inl rfl
  pause := nofun
  fits := fits
  lines := nofun

variable [Scheduler σ]

theorem tracks_asWaiting (s : Session σ) {h : History} {b : Buffer} (fits : h.Fits b)
    (scheduler : σ) (stats : Stats) (log : Array Happening) :
  (s.asWaiting b scheduler stats log).Tracks h
  where
  state := rfl
  single := .inl rfl
  pause := by
    intro awaited ha
    obtain rfl := Option.some.inj ha
    rfl
  fits := fits
  lines := nofun

theorem tracks_asLoading (s : Session σ) {h : History} {b : Buffer} (fits : h.Fits b)
    (scheduler : σ) (delay : Nat) {line : Nat} (before : line < (OffsetTable.ofText h.loaded).lineCount)
    (number : line ≤ lastLine)
    (half : h.since = 0 → Style.Halfway s.coordinator.style h.loaded line b) (stats : Stats)
    (log : Array Happening) :
  (s.asLoading b scheduler delay (Snapshot.ofText h.loaded h.revision) line stats log).Tracks h
  where
  state := rfl
  single := .inr rfl
  pause := nofun
  fits := fits
  lines := by
    intro loading hl
    obtain rfl := Option.some.inj hl
    exact ⟨rfl, before, number, rfl, half⟩

/-! ### What each message preserves -/

theorem Tracks.load {s : Session σ} {h : History} (_ : s.Tracks h) :
  s.load.Tracks (.ofBuffer s.buffer)
  := by
  have fits := History.fits_ofBuffer s.buffer
  by_cases short : s.buffer.length < s.coordinator.settings.longText
  · obtain ⟨stats, log, load⟩ := load_of_short short
    rw [load]
    apply tracks_asIdle
    exact fits.of_version (Style.version_applyAll _ _)
  · obtain ⟨log, load⟩ := load_of_long short
    rw [load]
    have fits := fits.of_version (Style.version_reset s.coordinator.style s.buffer)
    apply tracks_asLoading s fits
    · exact OffsetTable.lineCount_pos s.buffer.chars
    · apply Nat.zero_le
    · intro _
      exact Style.halfway_reset s.coordinator.style rfl

theorem Tracks.cancel {s : Session σ} {h : History} (tracks : s.Tracks h) :
  s.cancel.Tracks h
  := by
  obtain ⟨log, cancel⟩ := cancel_eq s
  rw [cancel]
  exact tracks_asIdle s tracks.fits _ _ _

theorem version_applyPart?_getD (style : Style) (b : Buffer) (span : Span) :
  ((style.applyPart? b span).getD b).version = b.version
  := by
  cases h : style.applyPart? b span with
  | none => rfl
  | some c => exact Style.version_applyPart? h

/-- An edit either changes nothing, which happens only while no long text is being styled,
or makes the session wait for a pause. -/
theorem Tracks.edited_cases {s : Session σ} {h : History} (tracks : s.Tracks h) (edit : Edit) :
  (s.SameWork (s.edited edit) ∧ (edit.kind = .attributes
    ∨ s.coordinator.loading = none ∧ (affected s.buffer edit).isEmpty))
  ∨ ∃ b stats log, b.version = s.buffer.version
    ∧ s.edited edit = s.asWaiting b s.unscheduled stats log
  := by
  cases kind : edit.kind with
  | attributes => exact .inl ⟨edited_of_attributes kind, .inl rfl⟩
  | characters =>
    by_cases nowhere : (affected s.buffer edit).isEmpty
    · cases loading : s.coordinator.loading with
      | none =>
        left
        exact ⟨edited_of_nowhere kind tracks.state loading nowhere, .inr ⟨rfl, nowhere⟩⟩
      | some l =>
        obtain ⟨stats, log, edited⟩ :=
          edited_of_nowhere_loading kind tracks.state (by rw [loading]; rfl) nowhere
        right
        exact ⟨s.buffer, stats, log, rfl, edited⟩
    · obtain ⟨stats, log, edited⟩ := edited_of_paragraph kind tracks.state nowhere
      right
      exact ⟨_, stats, log, version_applyPart?_getD _ _ _, edited⟩

theorem Tracks.edited {s : Session σ} {h : History} (tracks : s.Tracks h) (edit : Edit) :
  (s.edited edit).Tracks h
  := by
  rcases tracks.edited_cases edit with ⟨same, -⟩ | ⟨b, stats, log, version, edited⟩
  · exact tracks.sameWork same
  · rw [edited]
    exact tracks_asWaiting s (tracks.fits.of_version version) _ _ _

/-- What a session does when a timer is delivered that it waits for. -/
inductive Acts (s : Session σ) : Session σ → Prop
  /-- After a pause it styles all of the buffer. -/
  | pause {awaited : AwaitedTimer} (debounce : s.coordinator.debounce = some awaited)
      (loading : s.coordinator.loading = none) (stats : Stats) (log : Array Happening) :
    Acts s (s.asIdle (s.coordinator.style.applyAll s.buffer) s.scheduler stats log)
  /-- It styles the last lines of a long text. -/
  | last {loading : Loading} (hl : s.coordinator.loading = some loading)
      (current : loading.snapshot.isOf s.buffer)
      (last : loading.snapshot.lineCount ≤ s.nextStop loading) (stats : Stats)
      (log : Array Happening) :
    Acts s (s.asIdle (s.nextBuffer loading) s.scheduler stats log)
  /-- It styles the next lines of a long text, which are not the last ones. -/
  | more {loading : Loading} (hl : s.coordinator.loading = some loading)
      (current : loading.snapshot.isOf s.buffer)
      (more : ¬ loading.snapshot.lineCount ≤ s.nextStop loading) (stats : Stats)
      (log : Array Happening) :
    Acts s (s.asLoading (s.nextBuffer loading) s.scheduler s.coordinator.settings.linePause
      loading.snapshot (s.nextStop loading) stats log)
  /-- It gives up a long text that has changed. -/
  | changed {loading : Loading} (hl : s.coordinator.loading = some loading)
      (changed : ¬ loading.snapshot.isOf s.buffer) (stats : Stats) (log : Array Happening) :
    Acts s (s.asWaiting s.buffer s.scheduler stats log)

theorem Tracks.acts_nextLines {s : Session σ} {h : History} (tracks : s.Tracks h)
    {loading : Loading} (hl : s.coordinator.loading = some loading) :
  s.Acts (s.nextLines loading)
  := by
  have debounce := tracks.debounce_eq_none hl
  by_cases current : loading.snapshot.isOf s.buffer
  · by_cases last : loading.snapshot.lineCount ≤ s.nextStop loading
    · obtain ⟨log, next⟩ := nextLines_of_last current last debounce
      rw [next]
      exact .last hl current last _ log
    · obtain ⟨log, next⟩ := nextLines_of_more current last debounce
      rw [next]
      exact .more hl current last _ log
  · obtain ⟨stats, log, next⟩ := nextLines_of_changed current debounce
    rw [next]
    exact .changed hl current stats log

theorem Tracks.acts {s : Session σ} {h : History} (tracks : s.Tracks h) {timer : Timer}
    (expected : s.Expects timer) :
  s.Acts (s.delivered timer)
  := by
  rw [Expects] at expected
  split at expected
  · obtain ⟨awaited, ha, rfl⟩ := expected
    have loading := tracks.loading_eq_none ha
    obtain ⟨stats, log, pause⟩ := delivered_of_pause ha (tracks.pause awaited ha) loading
    rw [pause]
    exact .pause ha loading stats log
  · obtain ⟨loading, hl, rfl⟩ := expected
    rw [delivered_of_lines hl (tracks.lines loading hl).kind]
    exact tracks.acts_nextLines hl

namespace Acts

variable {s s' : Session σ} {h : History}

theorem version (acts : s.Acts s') :
  s'.buffer.version = s.buffer.version
  := by
  cases acts with
  | pause debounce loading stats log => exact Style.version_applyAll _ _
  | last hl current last stats log => exact Style.version_applyLines _ _ _ _ _
  | more hl current more stats log => exact Style.version_applyLines _ _ _ _ _
  | changed hl changed stats log => rfl

theorem style (acts : s.Acts s') :
  s'.coordinator.style = s.coordinator.style
  := by
  cases acts <;> rfl

end Acts

theorem Acts.tracks {s s' : Session σ} {h : History} (acts : s.Acts s') (tracks : s.Tracks h) :
  s'.Tracks h
  := by
  have fits := tracks.fits.of_version acts.version
  cases acts with
  | pause debounce loading stats log => exact tracks_asIdle s fits _ _ _
  | last hl current last stats log => exact tracks_asIdle s fits _ _ _
  | changed hl changed stats log => exact tracks_asWaiting s fits _ _ _
  | @more loading hl current more stats log =>
    have half := tracks.halfway_nextBuffer hl
    obtain ⟨snapshot, -, -, -, -⟩ := tracks.lines loading hl
    rw [snapshot] at more ⊢
    apply tracks_asLoading s fits
    · exact Nat.lt_of_not_le more
    · apply Nat.min_le_right
    · exact half

theorem Tracks.delivered {s : Session σ} {h : History} (tracks : s.Tracks h) (timer : Timer) :
  (s.delivered timer).Tracks h
  := by
  by_cases expected : s.Expects timer
  · exact (tracks.acts expected).tracks tracks
  · obtain ⟨log, stale⟩ := delivered_of_stale expected
    exact tracks.sameWork (sameWork_of_log stale)

theorem Tracks.update {s : Session σ} {h : History} (tracks : s.Tracks h) (m : Message) :
  (s.update m).Tracks (h.told s.buffer m)
  := by
  cases m with
  | load => exact tracks.load
  | edited edit => exact tracks.edited edit
  | delivered timer => exact tracks.delivered timer
  | close => exact tracks.cancel

omit [Scheduler σ] in
/-- Replacing text loses what is known of the lines. -/
theorem Tracks.replaced {s : Session σ} {h : History} (tracks : s.Tracks h) {b : Buffer}
    {span : Span} {text : List Char} {edit : Edit}
    (replaced : s.buffer.replace? span text = some (edit, b)) :
  { s with buffer := b }.Tracks h.replaced
  where
  state := tracks.state
  single := tracks.single
  pause := tracks.pause
  fits := tracks.fits.replaced replaced
  lines := by
    intro loading hl
    obtain ⟨snapshot, line, number, kind, -⟩ := tracks.lines loading hl
    exact ⟨snapshot, line, number, kind, nofun⟩

omit [Scheduler σ] in
theorem Tracks.taken {s : Session σ} {h : History} (tracks : s.Tracks h) :
  { s with buffer := s.buffer.takeEdits.2 }.Tracks h
  where
  state := tracks.state
  single := tracks.single
  pause := tracks.pause
  fits := tracks.fits.of_version rfl
  lines := by
    intro loading hl
    obtain ⟨snapshot, line, number, kind, half⟩ := tracks.lines loading hl
    refine ⟨snapshot, line, number, kind, ?_⟩
    intro none
    obtain ⟨attributes, sizes⟩ := half none
    exact ⟨attributes, sizes⟩

omit [Scheduler σ] in
theorem Tracks.rescheduled {s : Session σ} {h : History} (tracks : s.Tracks h) (scheduler : σ) :
  { s with scheduler }.Tracks h
  where
  state := tracks.state
  single := tracks.single
  pause := tracks.pause
  fits := tracks.fits
  lines := by
    intro loading hl
    obtain ⟨snapshot, line, number, kind, half⟩ := tracks.lines loading hl
    exact ⟨snapshot, line, number, kind, half⟩

/-! ### The sessions that a host can bring about -/

/-- A host starts with a text that it has not loaded yet.  It tells the session what it
likes, whether that happened or not, replaces text and tells the session of it or does not,
and takes the edits that were noted.  Nothing is assumed of the scheduler. -/
inductive Reached : Session σ → History → Prop
  /-- Nothing has happened. -/
  | start {s : Session σ} (state : s.coordinator.state = .idle)
      (debounce : s.coordinator.debounce = none) (loading : s.coordinator.loading = none) :
    Reached s (.ofBuffer s.buffer)
  /-- The host tells the session something. -/
  | told {s : Session σ} {h : History} (m : Message) (reached : Reached s h) :
    Reached (s.update m) (h.told s.buffer m)
  /-- The host replaces text. -/
  | replaced {s : Session σ} {h : History} {b : Buffer} {span : Span} {text : List Char}
      {edit : Edit} (replaced : s.buffer.replace? span text = some (edit, b))
      (reached : Reached s h) :
    Reached { s with buffer := b } h.replaced
  /-- The host takes the edits that were noted. -/
  | taken {s : Session σ} {h : History} (reached : Reached s h) :
    Reached { s with buffer := s.buffer.takeEdits.2 } h
  /-- The scheduler changes. -/
  | rescheduled {s : Session σ} {h : History} (scheduler : σ) (reached : Reached s h) :
    Reached { s with scheduler } h

/-- A session with a text that has not been loaded. -/
def ofText (style : Style) (settings : Settings) (cs : List Char) (scheduler : σ) : Session σ :=
  ⟨{ style, settings }, Buffer.ofText cs {}, scheduler, #[]⟩

theorem reached_ofText (style : Style) (settings : Settings) (cs : List Char) (scheduler : σ) :
  Reached (ofText style settings cs scheduler) ⟨cs, 0, 0⟩
  := Reached.start rfl rfl rfl

theorem Reached.tracks {s : Session σ} {h : History} (reached : Reached s h) :
  s.Tracks h
  := by
  induction reached with
  | @start s state debounce loading =>
    refine ⟨?_, .inl loading, ?_, History.fits_ofBuffer s.buffer, ?_⟩
    · rw [state, Coordinator.restingState, loading, debounce]
      rfl
    · intro awaited ha
      exact absurd (debounce.symm.trans ha) (Option.some_ne_none _).symm
    · intro l hl
      exact absurd (loading.symm.trans hl) (Option.some_ne_none _).symm
  | told m _ ih => exact ih.update m
  | replaced replaced _ ih => exact ih.replaced replaced
  | taken _ ih => exact ih.taken
  | rescheduled scheduler _ ih => exact ih.rescheduled scheduler

end Session

end LiveMarkdown
