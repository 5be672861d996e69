import LiveMarkdown.Proofs.Lifecycle.Locality
import LiveMarkdown.Proofs.Lifecycle.Staleness
import LiveMarkdown.Proofs.Styling.Batch

/-!
# Sessions do not listen to themselves

A session that is told something writes at most one batch into its buffer, in the range of the
pass that it makes.  The buffer notes this as one edit of attributes.  A host may tell the session
of it, at once or later: edits of attributes are passed over, so nothing comes of it.
-/

namespace LiveMarkdown

namespace Session

variable {σ : Type} [Scheduler σ] {s : Session σ} {h : History}

/-! ### Passes -/

/-- A message makes a session style some code units of its buffer. -/
inductive Styles (s : Session σ) : Message → Span → Prop
  /-- All of a text that was loaded. -/
  | load : Styles s .load ⟨0, s.buffer.length⟩
  /-- The paragraphs around an edit. -/
  | edited {edit : Edit} (kind : edit.kind = .characters) :
    Styles s (.edited edit) (affected s.buffer edit)
  /-- All of the buffer, after a pause. -/
  | paused {awaited : AwaitedTimer} (debounce : s.coordinator.debounce = some awaited) :
    Styles s (.delivered awaited.timer) ⟨0, s.buffer.length⟩
  /-- The next lines of a long text that has not changed. -/
  | lines {loading : Loading} {window : Span} (hl : s.coordinator.loading = some loading)
      (current : loading.snapshot.isOf s.buffer) (next : s.NextWindow loading window) :
    Styles s (.delivered loading.awaited.timer) window

/-- Whatever a session is told, it makes at most one pass, and that is one batch of writes in the
range of the pass. -/
theorem Tracks.update_cases (tracks : s.Tracks h) (closed : s.buffer.IsClosed) (m : Message) :
  (s.update m).buffer = s.buffer
    ∨ ∃ range, s.Styles m range ∧ Buffer.Notes range s.buffer (s.update m).buffer
  := by
  cases m with
  | load =>
    right
    use ⟨0, s.buffer.length⟩, .load
    by_cases short : s.buffer.length < s.coordinator.settings.longText
    · obtain ⟨stats, log, load⟩ := load_of_short short
      rw [Session.update, load]
      exact Style.notes_applyAll _ closed
    · obtain ⟨log, load⟩ := load_of_long short
      rw [Session.update, load]
      exact Style.notes_reset _ closed
  | edited edit =>
    cases kind : edit.kind with
    | attributes => exact .inl (edited_of_attributes kind).buffer
    | characters =>
      obtain ⟨start, stop, -, -⟩ := affected_bounds s.buffer edit
      rw [Session.update, buffer_edited kind tracks.state]
      cases styled : s.coordinator.style.applyPart? s.buffer (affected s.buffer edit) with
      | none => exact .inl rfl
      | some b => exact .inr ⟨_, .edited kind, Style.notes_applyPart? closed start stop styled⟩
  | delivered timer =>
    by_cases expected : s.Expects timer
    · rw [Expects] at expected
      split at expected
      · obtain ⟨awaited, ha, rfl⟩ := expected
        obtain ⟨stats, log, pause⟩ :=
          delivered_of_pause ha (tracks.pause awaited ha) (tracks.loading_eq_none ha)
        rw [Session.update, pause]
        exact .inr ⟨_, .paused ha, Style.notes_applyAll _ closed⟩
      · obtain ⟨loading, hl, rfl⟩ := expected
        rw [Session.update, delivered_of_lines hl (tracks.lines loading hl).kind,
          tracks.buffer_nextLines hl, nextBuffer, Style.applyLines]
        cases styled : s.coordinator.style.applyLines? s.buffer loading.snapshot loading.nextLine
          (s.nextStop loading) with
        | none => exact .inl rfl
        | some result =>
          obtain ⟨current, -, next, -⟩ := Style.applyLines?_eq_some styled
          exact .inr ⟨_, .lines hl current next, Style.notes_applyLines? closed styled⟩
    · obtain ⟨log, stale⟩ := delivered_of_stale expected
      rw [Session.update, stale]
      exact .inl rfl
  | close =>
    obtain ⟨log, cancel⟩ := cancel_eq s
    rw [Session.update, cancel]
    exact .inl rfl

omit [Scheduler σ] in
/-- A session between two messages may be given any buffer: its text could be what is left when
text was replaced often enough. -/
theorem Tracks.withBuffer (tracks : s.Tracks h) (b : Buffer) :
  ∃ h', { s with buffer := b }.Tracks h'
  := by
  obtain ⟨since, some, revision⟩ : ∃ since, since ≠ 0
      ∧ b.revision = h.revision + UInt64.ofNat since := by
    -- 2⁶⁴ replacements more lead to the same number, and they are not none
    refine ⟨(b.revision - h.revision).toNat + 2 ^ 64, by omega, ?_⟩
    have round : UInt64.ofNat (2 ^ 64) = 0 := by decide
    rw [UInt64.ofNat_add, round, UInt64.ofNat_toNat, UInt64.add_zero, UInt64.add_comm,
      UInt64.sub_add_cancel]
  use ⟨h.loaded, h.revision, since⟩
  refine ⟨tracks.state, tracks.single, tracks.pause, ⟨revision, ?_⟩, ?_⟩
  · intro none
    exact absurd none some
  · intro loading hl
    obtain ⟨snapshot, line, number, kind, -⟩ := tracks.lines loading hl
    exact ⟨snapshot, line, number, kind, fun none => absurd none some⟩

/-! ### Edits that a session is told of -/

/-- A session is told of some edits. -/
def toldOf (s : Session σ) (edits : List Edit) : Session σ :=
  edits.foldl (fun s edit => s.update (.edited edit)) s

/-- The session after it passed over some edits of attributes: it has counted and logged them. -/
def passedOver (s : Session σ) (n : Nat) : Session σ :=
  { s with
    coordinator := { s.coordinator with
      stats := { s.coordinator.stats with ignoredEdits := s.coordinator.stats.ignoredEdits + n } }
    log := s.log ++ Array.replicate n (.ignored .attributes) }

/-- A session passes over all edits of attributes that it is told of, whatever it is doing. -/
theorem toldOf_attributes {edits : List Edit} (attributes : ∀ e ∈ edits, e.kind = .attributes)
    (s : Session σ) :
  s.toldOf edits = s.passedOver edits.length
  := by
  induction edits generalizing s with
  | nil => simp [toldOf, passedOver]
  | cons edit edits ih =>
    have kind := attributes edit List.mem_cons_self
    have first : s.update (.edited edit) = s.passedOver 1 := by
      rw [Session.update, edited, if_pos (.inl kind), kind]
      rfl
    have log :
        (s.log ++ #[.ignored .attributes]) ++ Array.replicate edits.length (.ignored .attributes)
          = s.log ++ Array.replicate (edits.length + 1) (.ignored .attributes) := by
      rw [Array.append_assoc, Array.replicate_succ']
    have rest : ∀ e ∈ edits, e.kind = .attributes := by
      intro e he
      exact attributes e (List.mem_cons_of_mem edit he)
    rw [toldOf, List.foldl_cons, first, ← toldOf, ih rest]
    simp only [passedOver, List.length_cons, ← log, Nat.add_assoc, Nat.add_comm 1]
    rfl

/-- Whatever a session is told, and whatever its buffer is by now, unless a batch is open: the
text stays as it is, no batch is left open, and at most one edit is noted.  This is an edit of
attributes in a span that is not empty, lies in the buffer and in the range of the pass that was
made, and contains every code unit whose attributes changed.  When a session is told of it, in
whatever state, it counts and logs the edit and does nothing else. -/
theorem Reached.update_silent (reached : Reached s h) {b : Buffer} (closed : b.IsClosed)
    (m : Message) :
  let now := { s with buffer := b }
  let after := (now.update m).buffer
  after.chars = b.chars ∧ after.revision = b.revision ∧ after.length = b.length ∧ after.IsClosed
  ∧ ∃ notes : List Edit, after.edits = b.edits ++ notes.toArray ∧ notes.length ≤ 1
    ∧ (∀ note ∈ notes, note.kind = .attributes ∧ note.growth = 0
      ∧ ∃ range, now.Styles m range ∧ note.span.IsPart range b.length)
    ∧ (∀ u, after.attributes[u]? ≠ b.attributes[u]? → ∃ note ∈ notes, u ∈ note.span)
    ∧ ∀ later : Session σ, later.toldOf notes = later.passedOver notes.length
  := by
  intro now after
  obtain ⟨h', tracks⟩ := reached.tracks.withBuffer b
  rcases tracks.update_cases closed m with same | ⟨range, styles, changed, restyles, closed', edits⟩
  · have same : after = b := same
    rw [same]
    refine ⟨rfl, rfl, rfl, closed, [], Array.append_empty.symm, Nat.zero_le _, nofun, ?_, ?_⟩
    · intro u changed
      exact absurd rfl changed
    · exact toldOf_attributes nofun
  · have length : after.length = b.length := Buffer.length_eq_of_version restyles.version
    have attributes : ∀ note ∈ (changed.map Edit.ofSpan).toList, note.kind = .attributes := by
      intro note hnote
      obtain ⟨span, -, rfl⟩ := Option.map_eq_some_iff.mp (Option.mem_toList.mp hnote)
      rfl
    refine ⟨Buffer.chars_eq_of_version restyles.version,
      Buffer.revision_eq_of_version restyles.version, length, closed',
      (changed.map Edit.ofSpan).toList, ?_, ?_, ?_, ?_, toldOf_attributes attributes⟩
    · rw [Option.toArray_toList]
      exact edits
    · exact Option.length_toList_le
    · intro note hnote
      obtain ⟨span, hspan, rfl⟩ := Option.map_eq_some_iff.mp (Option.mem_toList.mp hnote)
      exact ⟨rfl, rfl, range, styles, restyles.isPart span hspan⟩
    · intro u different
      by_contra outside
      apply different
      apply restyles.rest u
      intro span hspan hu
      exact outside ⟨.ofSpan span, Option.mem_toList.mpr (Option.mem_map_of_mem _ hspan), hu⟩

/-- A heading is styled while the line after it is not. -/
theorem Reached.update_silent_heading :
  let s := (ofText .standard { longText := 0, linesAtOnce := 1 } "# a\nb".toList ({} : Clock)).load
  let b := s.buffer.takeEdits.2
  let after := ({ s with buffer := b }.update (.delivered ⟨.nextLines, 1⟩)).buffer
  b.IsClosed ∧ after.chars = b.chars ∧ after.IsClosed
    ∧ after.edits.toList = [⟨.attributes, ⟨0, 4⟩, 0⟩]
    ∧ (∀ u, after.attributes[u]? ≠ b.attributes[u]? → u < 4)
    ∧ ∀ later : Session Clock, later.toldOf after.edits.toList = later.passedOver 1
  := by
  intro s b after
  have reached : s.Reached (.ofBuffer (Buffer.ofText "# a\nb".toList {})) :=
    .told .load (reached_ofText .standard { longText := 0, linesAtOnce := 1 } "# a\nb".toList
      ({} : Clock))
  have closed : b.IsClosed := by
    constructor <;> decide +kernel
  have noted : after.edits.toList = [⟨.attributes, ⟨0, 4⟩, 0⟩] := by decide +kernel
  obtain ⟨chars, -, -, closed', notes, edits, -, -, changed, passed⟩ :=
    reached.update_silent closed (.delivered ⟨.nextLines, 1⟩)
  have all : after.edits = notes.toArray := edits.trans Array.empty_append
  have all : notes = after.edits.toList := (congrArg Array.toList all).symm
  rw [all, noted] at changed passed
  refine ⟨closed, chars, closed', noted, ?_, ?_⟩
  · intro u different
    obtain ⟨note, hnote, hu⟩ := changed u different
    obtain rfl := List.mem_singleton.mp hnote
    exact hu.2
  · rw [noted]
    exact passed

end Session

end LiveMarkdown
