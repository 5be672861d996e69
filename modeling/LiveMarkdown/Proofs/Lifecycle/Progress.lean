import LiveMarkdown.Proofs.Lifecycle.Host
import LiveMarkdown.Proofs.Lifecycle.Hosted
import LiveMarkdown.Proofs.Lifecycle.Reconciliation

/-!
# The steps of a host come to an end

Moving a clock delivers only timers that the session waits for, and with each of them less
is left to do.  So every step of a host comes to an end, as long as the numbers of the lines
of the text are numbers of lines.
-/

namespace LiveMarkdown

/-! ### The size of a text -/

theorem length_lineEntries_le (n : Nat) (cs : List Char) :
  (OffsetTable.lineEntries n cs).length ≤ units cs
  := by
  induction cs generalizing n with
  | nil => exact Nat.zero_le _
  | cons c cs ih =>
    have one := unitLength_pos c
    have rest := ih (n + c.utf8Size)
    rw [OffsetTable.lineEntries, List.length_append, units_cons]
    split
    · rw [List.length_singleton]
      omega
    · rw [List.length_nil]
      omega

/-- A text has no more lines than code units, except for the first one. -/
theorem lineCount_le (cs : List Char) :
  (OffsetTable.ofText cs).lineCount ≤ units cs + 1
  := by
  rw [OffsetTable.lineCount_ofText]
  exact Nat.succ_le_succ (length_lineEntries_le 0 cs)

theorem Buffer.length_replace?_le {b c : Buffer} {span : Span} {text : List Char} {edit : Edit}
    (replaced : b.replace? span text = some (edit, c)) :
  c.length ≤ b.length + units text
  := by
  rw [replace?] at replaced
  split at replaced
  · rename_i allowed
    obtain ⟨-, rfl⟩ := Prod.mk.inj (Option.some.inj replaced)
    have order := allowed.1
    simp only [length, Array.size_append, Array.size_extract, Array.size_replicate]
    omega
  · cases replaced

namespace Session

/-! ### Sessions with texts of a bounded size -/

section

variable {σ : Type} [Scheduler σ] {s s' : Session σ} {h : History} {n : Nat}

/-- What a host tells a session does not change the text. -/
theorem Tracks.version_update (tracks : s.Tracks h) (m : Message) :
  (s.update m).buffer.version = s.buffer.version
  := by
  cases m with
  | load =>
    rw [Session.update]
    by_cases short : s.buffer.length < s.coordinator.settings.longText
    · obtain ⟨stats, log, load⟩ := load_of_short short
      rw [load]
      exact Style.version_applyAll _ _
    · obtain ⟨log, load⟩ := load_of_long short
      rw [load]
      exact Style.version_reset _ _
  | edited edit =>
    rw [Session.update]
    rcases tracks.edited_cases edit with ⟨same, -⟩ | ⟨b, stats, log, version, edited⟩
    · rw [same.buffer]
    · rw [edited]
      exact version
  | delivered timer =>
    rw [Session.update]
    by_cases expected : s.Expects timer
    · exact (tracks.acts expected).version
    · obtain ⟨log, stale⟩ := delivered_of_stale expected
      rw [stale]
  | close =>
    obtain ⟨log, cancel⟩ := cancel_eq s
    rw [Session.update, cancel]
    rfl

/-- Neither the text of a session nor the one that was loaded has more than `n` code
units. -/
def Within (s : Session σ) (n : Nat) : Prop :=
  ∃ h, s.Tracks h ∧ units h.loaded ≤ n ∧ s.buffer.length ≤ n

theorem Within.update (within : s.Within n) (m : Message) :
  (s.update m).Within n
  := by
  obtain ⟨h, tracks, loaded, length⟩ := within
  refine ⟨_, tracks.update m, ?_, ?_⟩
  · cases m with
    | load => exact (Buffer.length_eq s.buffer).symm.trans_le length
    | edited | delivered | close => exact loaded
  · rwa [Buffer.length_eq_of_version (tracks.version_update m)]

omit [Scheduler σ] in
theorem Within.replaced (within : s.Within n) {b : Buffer} {span : Span} {text : List Char}
    {edit : Edit} (replaced : s.buffer.replace? span text = some (edit, b)) :
  { s with buffer := b }.Within (n + units text)
  := by
  obtain ⟨h, tracks, loaded, length⟩ := within
  have growth := Buffer.length_replace?_le replaced
  exact ⟨_, tracks.replaced replaced, Nat.le_add_right_of_le loaded, by dsimp only; omega⟩

omit [Scheduler σ] in
theorem Within.rescheduled (within : s.Within n) (scheduler : σ) :
  { s with scheduler }.Within n
  := by
  obtain ⟨h, tracks, bounds⟩ := within
  exact ⟨h, tracks.rescheduled scheduler, bounds⟩

omit [Scheduler σ] in
theorem Within.mono {m : Nat} (within : s.Within n) (le : n ≤ m) :
  s.Within m
  := by
  obtain ⟨h, tracks, loaded, length⟩ := within
  exact ⟨h, tracks, loaded.trans le, length.trans le⟩

theorem Within.remaining_lt (within : s.Within n) (small : n < lastLine) (acts : s.Acts s') :
  s'.remaining < s.remaining
  := by
  obtain ⟨h, tracks, loaded, -⟩ := within
  apply acts.remaining_lt tracks
  intro loading hl
  rw [(tracks.lines loading hl).snapshot]
  exact (lineCount_le h.loaded).trans (Nat.succ_le_of_lt (loaded.trans_lt small))

end

variable {s s' : Session Clock} {t : Session Clock × Clock} {n : Nat}

/-! ### Moving the clock -/

/-- A clock is moved by as many deliveries at most as there are left for the session to act
on. -/
theorem exists_advanceTo? {time limit : Nat} (orderly : OrderlyWith t)
    (within : (t.1.withClock t.2).Within n) (small : n < lastLine)
    (enough : (t.1.withClock t.2).remaining ≤ limit) :
  ∃ t', Clock.advanceTo? receiveFrom time limit t = some t' ∧ OrderlyWith t'
    ∧ (t'.1.withClock t'.2).Within n
  := by
  induction limit generalizing t with
  | zero =>
    rcases t.2.due_or_late time with ⟨p, next, due⟩ | late
    · have acts := orderly.acts (Clock.next?_spec next).1
      have less := (within.rescheduled (t.2.deliver p)).remaining_lt small acts
      exact absurd (Nat.zero_lt_of_lt less) (Nat.not_lt.mpr enough)
    · exact ⟨_, Clock.advanceTo?_of_late late, orderly.rescheduled rfl, within.rescheduled _⟩
  | succ limit ih =>
    rcases t.2.due_or_late time with ⟨p, next, due⟩ | late
    · have acts := orderly.acts (Clock.next?_spec next).1
      have now := within.rescheduled (t.2.deliver p)
      have less := now.remaining_lt small acts
      rw [Clock.advanceTo?_of_due next due]
      apply ih (orderlyWith_receive orderly next) (now.update (.delivered p.timer))
      exact Nat.le_of_lt_succ (less.trans_le enough)
    · exact ⟨_, Clock.advanceTo?_of_late late, orderly.rescheduled rfl, within.rescheduled _⟩

theorem exists_advance? (orderly : s.Orderly) (within : s.Within n) (small : n < lastLine)
    (by_ : Nat) :
  ∃ limit s', s.advance? by_ limit = some s' ∧ s'.Orderly ∧ s'.Within n
  := by
  have start : OrderlyWith (s, s.clock) := orderly
  obtain ⟨t, advanced, orderly, within⟩ := exists_advanceTo? start within small le_rfl
  refine ⟨s.remaining, t.1.withClock t.2, ?_, orderly, within⟩
  exact congrArg (Option.map _) advanced

/-! ### The steps -/

theorem exists_perform? (orderly : s.Orderly) (within : s.Within n) (step : HostStep)
    (small : n < lastLine) :
  ∃ limit s', s.perform? limit step = some s' ∧ s'.Orderly
    ∧ s'.Within (n + units step.inserted)
  := by
  cases step with
  | load => exact ⟨0, _, rfl, orderly.update (m := .load) rfl, within.update .load⟩
  | close => exact ⟨0, _, rfl, orderly.update (m := .close) rfl, within.update .close⟩
  | advance by_ => exact exists_advance? orderly within small by_
  | edit span text =>
    cases replaced : s.buffer.replace? span text with
    | none =>
      refine ⟨0, s, ?_, orderly, within.mono (Nat.le_add_right _ _)⟩
      rw [perform?, replaced]
    | some result =>
      obtain ⟨edit, b⟩ := result
      refine ⟨0, { s with buffer := b }.edited edit, ?_, ?_, ?_⟩
      · rw [perform?, replaced]
      · exact (orderly.replaced replaced).update (m := .edited edit) rfl
      · exact (within.replaced replaced).update (.edited edit)
  | replace span text =>
    cases replaced : s.buffer.replace? span text with
    | none =>
      refine ⟨0, s, ?_, orderly, within.mono (Nat.le_add_right _ _)⟩
      rw [perform?, replaced]
    | some result =>
      obtain ⟨edit, b⟩ := result
      refine ⟨0, { s with buffer := b }, ?_, orderly.replaced replaced, within.replaced replaced⟩
      rw [perform?, replaced]

/-- The steps of a host come to an end, unless the text gets too long. -/
theorem exists_follow? {steps : List HostStep} (orderly : s.Orderly) (within : s.Within n)
    (small : n + (steps.map fun step => units step.inserted).sum < lastLine) :
  ∃ limit s', s.follow? limit steps = some s'
  := by
  induction steps generalizing s n with
  | nil => exact ⟨0, s, rfl⟩
  | cons step steps ih =>
    rw [List.map_cons, List.sum_cons, ← Nat.add_assoc] at small
    obtain ⟨first, next, performed, orderly, within⟩ :=
      exists_perform? orderly within step (by omega)
    obtain ⟨rest, s', followed⟩ := ih orderly within small
    exact ⟨max first rest, s', follow?_cons performed followed⟩

end Session

end LiveMarkdown
