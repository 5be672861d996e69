import LiveMarkdown.Proofs.Lifecycle.Steps

/-!
# What a session counts

A session counts its passes.  An edit that touches a paragraph is one more partial pass and
no full one, and a pause is one more full pass and no partial one.
-/

namespace LiveMarkdown

namespace Session

/-! ### Passes are made -/

/-- What an edit touches lies inside the buffer. -/
theorem affected_stop_le (b : Buffer) (edit : Edit) :
  (affected b edit).stop ≤ b.length
  := by
  apply Nat.min_le_right

/-- The paragraphs around an edit can be styled, if there are any. -/
theorem exists_applyPart? (style : Style) {b : Buffer} {edit : Edit}
    (somewhere : ¬ (affected b edit).isEmpty) :
  ∃ c, style.applyPart? b (affected b edit) = some c
  := by
  apply (Style.exists_applyPart?_iff style b (affected b edit)).mpr
  rw [Span.isEmpty, decide_eq_true_eq] at somewhere
  exact ⟨Nat.lt_of_not_le somewhere, affected_stop_le b edit⟩

/-! ### Passes are counted -/

variable {σ : Type}

theorem stats_move (s : Session σ) (state : StylingState) :
  (s.move state).coordinator.stats = s.coordinator.stats
  := by
  obtain ⟨log, moved⟩ := move_eq s state
  rw [moved]

/-- A full pass is counted as such. -/
theorem stats_fullPass (s : Session σ) :
  s.fullPass.coordinator.stats
    = { s.coordinator.stats with fullPasses := s.coordinator.stats.fullPasses + 1 }
  := by
  obtain ⟨log, writing⟩ := move_eq s .writing
  rw [fullPass, writing]
  apply stats_move

variable [Scheduler σ] {s : Session σ}

/-- A pause is one more full pass. -/
theorem delivered_of_counted_pause {awaited : AwaitedTimer}
    (h : s.coordinator.debounce = some awaited) (kind : awaited.timer.kind = .debounce)
    (loading : s.coordinator.loading = none) :
  ∃ log, s.delivered awaited.timer
    = s.asIdle (s.coordinator.style.applyAll s.buffer) s.scheduler
      { s.coordinator.stats with fullPasses := s.coordinator.stats.fullPasses + 1 } log
  := by
  obtain ⟨stats, log, paused⟩ := delivered_of_pause h kind loading
  have live : s.coordinator.debounce.map AwaitedTimer.timer = some awaited.timer := by
    rw [h]
    rfl
  have counted : (s.delivered awaited.timer).coordinator.stats
      = { s.coordinator.stats with fullPasses := s.coordinator.stats.fullPasses + 1 } := by
    rw [delivered]
    simp only [kind]
    rw [if_pos live]
    apply stats_fullPass
  rw [paused] at counted
  obtain rfl := counted
  exact ⟨log, paused⟩

/-- An edit that touches a paragraph is one more partial pass. -/
theorem edited_of_part {edit : Edit} (kind : edit.kind = .characters)
    (state : s.coordinator.state = s.coordinator.restingState)
    (somewhere : ¬ (affected s.buffer edit).isEmpty) {b : Buffer}
    (styled : s.coordinator.style.applyPart? s.buffer (affected s.buffer edit) = some b) :
  ∃ log, s.edited edit = s.asWaiting b s.unscheduled
    { s.coordinator.stats with partialPasses := s.coordinator.stats.partialPasses + 1 } log
  := by
  obtain ⟨log, cancelled⟩ := cancelLoading_eq s
  obtain ⟨log', writing⟩ := move_eq
    ⟨{ s.coordinator with loading := none }, s.buffer, s.unscheduledLines, log⟩ .writing
  let stats := { s.coordinator.stats with partialPasses := s.coordinator.stats.partialPasses + 1 }
  obtain ⟨log, waiting⟩ := awaitPause_eq
    ⟨{ s.coordinator with loading := none, state := .writing, stats }, b, s.unscheduledLines,
      log'.push (.restyled (affected s.buffer edit))⟩ rfl
  rw [edited, if_neg (not_ignored kind state)]
  simp only [cancelled]
  rw [if_neg somewhere]
  simp only [writing, styled]
  exact ⟨log, waiting⟩

end Session

end LiveMarkdown
