import LiveMarkdown.Proofs.Lifecycle.History

/-!
# Texts that have changed

A session never compares texts.  All the same, no lines of a text are styled in a buffer
that has another text: the number of the revision tells them apart.
-/

namespace LiveMarkdown

/-- The pass over some lines changes nothing outside their code units. -/
theorem Style.getElem?_applyLines (style : Style) {s : Snapshot} (b : Buffer) {first last : Nat}
    {window : Span} (found : s.parsed.text.table.lineWindow? first last = some window) {u : Nat}
    (outside : u ∉ window) :
  (style.applyLines s b first last).attributes[u]? = b.attributes[u]?
  := by
  rw [applyLines]
  cases result : style.applyLines? b s first last with
  | none => rfl
  | some pair =>
    obtain ⟨w, b'⟩ := pair
    obtain ⟨-, -, same, rfl⟩ := applyLines?_eq_some result
    obtain rfl := Option.some.inj (found.symm.trans same)
    rw [Option.map_some, Option.getD_some, Buffer.attributes_endBatch,
      Buffer.getElem?_strokes_of_not_shown (by rwa [shown_some]), Buffer.attributes_beginBatch]

namespace Session

variable {σ : Type} [Scheduler σ] {s : Session σ} {h : History}

/-- The code units of the lines that a session styles next. -/
def NextWindow (s : Session σ) (loading : Loading) (window : Span) : Prop :=
  loading.snapshot.parsed.text.table.lineWindow? loading.nextLine (s.nextStop loading) = some window

/-- The next lines of a long text are styled if they are there. -/
theorem Tracks.buffer_nextLines (tracks : s.Tracks h) {loading : Loading}
    (hl : s.coordinator.loading = some loading) :
  (s.nextLines loading).buffer = s.nextBuffer loading
  := by
  have debounce := tracks.debounce_eq_none hl
  by_cases current : loading.snapshot.isOf s.buffer
  · by_cases last : loading.snapshot.lineCount ≤ s.nextStop loading
    · obtain ⟨log, next⟩ := nextLines_of_last current last debounce
      rw [next]
      rfl
    · obtain ⟨log, next⟩ := nextLines_of_more current last debounce
      rw [next]
      rfl
  · obtain ⟨stats, log, next⟩ := Session.nextLines_of_changed current debounce
    rw [next, nextBuffer, Style.applyLines, Style.applyLines?, if_neg fun both => current both.1]
    rfl

/-- While a long text is unchanged, the timer for lines styles the next lines and leaves
everything else alone. -/
theorem Tracks.nextLines_of_current (tracks : s.Tracks h) {loading : Loading}
    (hl : s.coordinator.loading = some loading) (current : loading.snapshot.isOf s.buffer) :
  (∃ window, s.NextWindow loading window
    ∧ ∀ u, u ∉ window → (s.nextLines loading).buffer.attributes[u]? = s.buffer.attributes[u]?)
  ∧ ∀ next, (s.nextLines loading).coordinator.loading = some next →
    next.nextLine = s.nextStop loading
  := by
  obtain ⟨snapshot, line, number, -, -⟩ := tracks.lines loading hl
  have order : loading.nextLine ≤ s.nextStop loading := by
    rw [nextStop]
    omega
  obtain ⟨window, found⟩ : ∃ window, s.NextWindow loading window := by
    unfold NextWindow
    rw [snapshot]
    exact ⟨_, OffsetTable.lineWindow?_ofText line order⟩
  have debounce := tracks.debounce_eq_none hl
  constructor
  · refine ⟨window, found, ?_⟩
    intro u outside
    rw [tracks.buffer_nextLines hl]
    exact Style.getElem?_applyLines _ _ found outside
  · intro loading' hl'
    by_cases last : loading.snapshot.lineCount ≤ s.nextStop loading
    · obtain ⟨log, next⟩ := nextLines_of_last current last debounce
      rw [next] at hl'
      cases hl'
    · obtain ⟨log, next⟩ := nextLines_of_more current last debounce
      rw [next] at hl'
      obtain rfl := Option.some.inj hl'
      rfl

/-- A long text that has changed is given up without any change of attributes, and a
timer for a pause is set. -/
theorem Tracks.nextLines_of_changed (tracks : s.Tracks h) {loading : Loading}
    (hl : s.coordinator.loading = some loading) (changed : ¬ loading.snapshot.isOf s.buffer) :
  (s.nextLines loading).buffer = s.buffer ∧ (s.nextLines loading).coordinator.loading = none
    ∧ ∃ awaited, (s.nextLines loading).coordinator.debounce = some awaited
      ∧ Scheduler.schedule s.scheduler s.coordinator.settings.debounce awaited.timer
        = (awaited.handle, (s.nextLines loading).scheduler)
  := by
  obtain ⟨stats, log, next⟩ := Session.nextLines_of_changed changed (tracks.debounce_eq_none hl)
  rw [next]
  exact ⟨rfl, rfl, _, rfl, rfl⟩

/-- No lines of a text are styled in a buffer that has another text.  If a timer for lines
changes an attribute, the session waits for this timer, the text of the buffer is the one
that was loaded, the change is confined to the next lines of it, and the lines after these
are the next ones.  If text was replaced since, the timer changes no attribute; the long
text is given up, and a timer for a pause is set. -/
theorem Reached.nextLines_spec (reached : Reached s h) (few : h.since < 2 ^ 64) (timer : Timer)
    (kind : timer.kind = .nextLines) :
  ((s.delivered timer).buffer.attributes ≠ s.buffer.attributes →
    ∃ loading, s.coordinator.loading = some loading ∧ loading.awaited.timer = timer
      ∧ loading.snapshot.parsed = ParsedText.ofText h.loaded ∧ s.buffer.chars = h.loaded
      ∧ (∃ window, s.NextWindow loading window
        ∧ ∀ u, u ∉ window → (s.delivered timer).buffer.attributes[u]? = s.buffer.attributes[u]?)
      ∧ ∀ next, (s.delivered timer).coordinator.loading = some next →
        next.nextLine = s.nextStop loading)
  ∧ (0 < h.since → ∀ loading, s.coordinator.loading = some loading →
    loading.awaited.timer = timer →
      (s.delivered timer).buffer = s.buffer ∧ (s.delivered timer).coordinator.loading = none
      ∧ ∃ awaited, (s.delivered timer).coordinator.debounce = some awaited
        ∧ Scheduler.schedule s.scheduler s.coordinator.settings.debounce awaited.timer
          = (awaited.handle, (s.delivered timer).scheduler))
  := by
  have tracks := reached.tracks
  constructor
  · intro changes
    have expected : s.Expects timer := by
      by_contra unexpected
      obtain ⟨log, stale⟩ := delivered_of_stale unexpected
      exact changes (by rw [stale])
    rw [Expects, kind] at expected
    obtain ⟨loading, hl, rfl⟩ := expected
    obtain ⟨snapshot, -, -, -, -⟩ := tracks.lines loading hl
    rw [delivered_of_lines hl kind] at changes ⊢
    have current : loading.snapshot.isOf s.buffer := by
      by_contra changed
      exact changes (congrArg Buffer.attributes (tracks.nextLines_of_changed hl changed).1)
    have none : h.since = 0 := by
      rw [snapshot] at current
      exact (tracks.fits.isOf_iff few).mp current
    have parsed : loading.snapshot.parsed = ParsedText.ofText h.loaded := by
      rw [snapshot]
      rfl
    exact ⟨loading, hl, rfl, parsed, tracks.fits.text none,
      tracks.nextLines_of_current hl current⟩
  · intro some loading hl same
    obtain rfl := same
    rw [delivered_of_lines hl kind]
    apply tracks.nextLines_of_changed hl
    rw [(tracks.lines loading hl).snapshot, tracks.fits.isOf_iff few]
    omega

/-- A heading and a line of text, of which the heading is styled first.  Text that is then
inserted before the heading makes the timer for the second line change nothing. -/
theorem Reached.nextLines_spec_heading :
  let s := (ofText .standard { longText := 0, linesAtOnce := 1 } "# a\nb".toList ({} : Clock)).load
  let styled := s.delivered ⟨.nextLines, 1⟩
  (styled.buffer.attributes ≠ s.buffer.attributes
    ∧ ∃ loading, s.coordinator.loading = some loading
      ∧ loading.awaited.timer = ⟨.nextLines, 1⟩ ∧ s.buffer.chars = "# a\nb".toList)
  ∧ ∃ edit b, styled.buffer.replace? ⟨0, 0⟩ "x".toList = some (edit, b)
    ∧ ({ styled with buffer := b }.delivered ⟨.nextLines, 2⟩).buffer = b
    ∧ ({ styled with buffer := b }.delivered ⟨.nextLines, 2⟩).coordinator.debounce.isSome
  := by
  intro s styled
  have reached : Reached s ⟨"# a\nb".toList, 0, 0⟩ :=
    .told .load
      (reached_ofText .standard { longText := 0, linesAtOnce := 1 } "# a\nb".toList ({} : Clock))
  have again : Reached styled ⟨"# a\nb".toList, 0, 0⟩ := .told (.delivered ⟨.nextLines, 1⟩) reached
  have changes : styled.buffer.attributes ≠ s.buffer.attributes := by
    intro same
    have weights : (styled.buffer.attributes.map fun a => a.font.map Font.weight)
      ≠ (s.buffer.attributes.map fun a => a.font.map Font.weight) := by decide +kernel
    exact weights (congrArg _ same)
  refine ⟨⟨changes, ?_⟩, ?_⟩
  · obtain ⟨loading, hl, timer, -, text, -⟩ :=
      (reached.nextLines_spec (by decide) ⟨.nextLines, 1⟩ rfl).1 changes
    exact ⟨loading, hl, timer, text⟩
  · have inserted : (styled.buffer.replace? ⟨0, 0⟩ "x".toList).isSome := by decide +kernel
    obtain ⟨⟨edit, b⟩, hb⟩ := Option.isSome_iff_exists.mp inserted
    have live : styled.coordinator.loading.map (fun l => l.awaited.timer) = some ⟨.nextLines, 2⟩ := by
      decide +kernel
    obtain ⟨loading, hl, timer⟩ := Option.map_eq_some_iff.mp live
    obtain ⟨same, -, awaited, debounce, -⟩ :=
      ((again.replaced hb).nextLines_spec (by decide) ⟨.nextLines, 2⟩ rfl).2 (by decide) loading hl
        timer
    refine ⟨edit, b, hb, same, ?_⟩
    rw [debounce]
    rfl

end Session

end LiveMarkdown
