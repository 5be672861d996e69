import LiveMarkdown.Proofs.Buffer.Paragraph
import LiveMarkdown.Proofs.Lifecycle.Reconciliation

/-!
# Idle sessions

A session that is told of every edit is idle only when its buffer is styled, with one
exception.  If a session is idle and text is removed from the end, so that nothing is left of
its paragraph, then the edit is passed over: the text before it keeps the attributes that it
had, and no timer is set to correct them.
-/

namespace LiveMarkdown

namespace Session

/-! ### Edits that touch no paragraph -/

/-- Nothing is left after an edit, and the text before it ends with its paragraph. -/
def LeavesNothing (b : Buffer) (edit : Edit) : Prop :=
  edit.span.start = b.length ∧ b.chars.getLast?.all isParagraphSeparator

instance (b : Buffer) (edit : Edit) : Decidable (LeavesNothing b edit) :=
  inferInstanceAs (Decidable (_ ∧ _))

/-- The paragraphs around an edit end after its start, unless the text does. -/
theorem lt_affected_stop {b : Buffer} {edit : Edit} {before : List Char} {c : Char}
    {cs : List Char} (parts : b.chars = before ++ c :: cs)
    (start : edit.span.start = units before) :
  units before < (affected b edit).stop
  := by
  have size : b.length = units before + (unitLength c + units cs) := by
    rw [Buffer.length_eq, parts, units_append, units_cons]
  have one := unitLength_pos c
  have inside : min edit.span.start b.length = units before := by omega
  have around : units before < (b.paragraphSpan ⟨min edit.span.start b.length,
      min (max edit.span.stop (min edit.span.start b.length)) b.length⟩).stop := by
    apply Buffer.lt_paragraphSpan_stop _ parts
    · exact inside.ge
    · dsimp only
      omega
  dsimp only [affected]
  apply Nat.lt_min.mpr
  constructor
  · split
    · rename_i more
      exact Buffer.lt_paragraphSpan_stop more.2 parts around.le
    · exact around
  · omega

theorem affected_start_le (b : Buffer) (edit : Edit) :
  (affected b edit).start ≤ edit.span.start
  := by
  have around := b.paragraphSpan_start_le ⟨min edit.span.start b.length,
    min (max edit.span.stop (min edit.span.start b.length)) b.length⟩
  dsimp only [affected] at around ⊢
  omega

/-- An edit that touches no paragraph leaves nothing after its start. -/
theorem eq_nil_of_affected {b : Buffer} {edit : Edit} {before rest : List Char}
    (parts : b.chars = before ++ rest) (start : edit.span.start = units before)
    (nowhere : (affected b edit).isEmpty) :
  rest = []
  := by
  cases rest with
  | nil => rfl
  | cons c cs =>
    have stop := lt_affected_stop parts start
    have first := affected_start_le b edit
    rw [Span.isEmpty, decide_eq_true_eq] at nowhere
    omega

theorem affected_of_end {b : Buffer} {edit : Edit} (start : edit.span.start = b.length) :
  affected b edit = ⟨Place.paragraphStart ⟨b.chars.reverse, []⟩, b.length⟩
  := by
  have first : Place.paragraphStart ⟨b.chars.reverse, []⟩ ≤ b.length := by
    have h := Place.paragraphStart_le ⟨b.chars.reverse, []⟩
    rw [Place.offset, units_reverse, ← Buffer.length_eq] at h
    exact h
  have clamped : min (max edit.span.stop b.length) b.length = b.length := by omega
  simp only [affected, start, Nat.min_self, clamped, Buffer.paragraphSpan_length,
    Nat.lt_irrefl, and_false, if_false, Nat.min_eq_left first]

/-- An edit touches no paragraph if nothing is left after it and before it in its paragraph,
and only then. -/
theorem isEmpty_affected_iff {b c : Buffer} {span : Span} {text : List Char} {edit : Edit}
    (replaced : b.replace? span text = some (edit, c)) :
  (affected c edit).isEmpty ↔ LeavesNothing c edit
  := by
  obtain ⟨before, old, after, was, now, start, -, inserted, -⟩ := Buffer.replace?_spec replaced
  have first : edit.span.start = units before := by rw [inserted, start]
  have last (stop : edit.span.start = c.length) :
      (affected c edit).isEmpty ↔ c.chars.getLast?.all isParagraphSeparator := by
    rw [affected_of_end stop, Span.isEmpty, decide_eq_true_eq, Buffer.length_eq,
      Place.le_paragraphStart_iff]
  constructor
  · intro nowhere
    have stop : edit.span.start = c.length := by
      rw [Buffer.length_eq, now, eq_nil_of_affected now first nowhere, List.append_nil, first]
    exact ⟨stop, (last stop).mp nowhere⟩
  · rintro ⟨stop, separator⟩
    exact (last stop).mpr separator

/-- Text that is replaced so that nothing is left is removed from the end, and the text
before it keeps its attributes. -/
theorem removed_of_leavesNothing {b c : Buffer} {span : Span} {text : List Char} {edit : Edit}
    (replaced : b.replace? span text = some (edit, c)) (nothing : LeavesNothing c edit) :
  b.chars = c.chars ++ b.chars.drop c.chars.length
    ∧ ∀ u < c.length, c.attributes[u]? = b.attributes[u]?
  := by
  have nowhere := (isEmpty_affected_iff replaced).mpr nothing
  obtain ⟨before, old, after, was, now, start, -, inserted, kept⟩ := Buffer.replace?_spec replaced
  have none : text ++ after = [] := by
    apply eq_nil_of_affected now _ nowhere
    rw [inserted, start]
  rw [none, List.append_nil] at now
  constructor
  · rw [was, now, List.drop_left]
  · intro u hu
    apply kept
    rw [Buffer.length_eq, now, start] at hu
    exact hu

/-! ### Sessions that are told of every edit -/

variable {σ : Type} [Scheduler σ] {s s' : Session σ} {d : List Char}

/-- If the text of a session is long, its document lies in it as each node lies in the
nodes around it. -/
def IsNestedIfLong {σ : Type} (s : Session σ) : Prop :=
  s.coordinator.settings.longText ≤ s.buffer.length → Style.IsNestedText s.buffer.chars

/-- The text that was removed from the end while the session was idle, since its buffer was
styled last: what was removed before, unless something else is going to be styled, with what
an edit removes. -/
def removed {σ : Type} (s : Session σ) (b : Buffer) (edit : Edit) (d : List Char) : List Char :=
  if s.coordinator.state = .idle ∧ LeavesNothing b edit then
    s.buffer.chars.drop b.chars.length ++ d
  else []

/-- A host loads a text, and tells the session of each edit at once.  It may load the text
again, tell the session of edits of attributes, take the edits that were noted and deliver
timers.  The text that was removed while the session was idle is recorded. -/
inductive Notified : Session σ → List Char → Prop
  /-- The text is loaded for the first time. -/
  | start {s : Session σ} (state : s.coordinator.state = .idle)
      (debounce : s.coordinator.debounce = none) (loading : s.coordinator.loading = none)
      (nested : s.IsNestedIfLong) :
    Notified s.load []
  /-- The text is loaded again. -/
  | loaded {s : Session σ} {d : List Char} (nested : s.IsNestedIfLong) (run : Notified s d) :
    Notified s.load []
  /-- Text is replaced, and the session is told so. -/
  | edited {s : Session σ} {d : List Char} {b : Buffer} {span : Span} {text : List Char}
      {edit : Edit} (replaced : s.buffer.replace? span text = some (edit, b))
      (run : Notified s d) :
    Notified ({ s with buffer := b }.edited edit) (s.removed b edit d)
  /-- The session is told of an edit of attributes. -/
  | noted {s : Session σ} {d : List Char} {edit : Edit} (kind : edit.kind = .attributes)
      (run : Notified s d) :
    Notified (s.edited edit) d
  /-- The edits that were noted are taken. -/
  | taken {s : Session σ} {d : List Char} (run : Notified s d) :
    Notified { s with buffer := s.buffer.takeEdits.2 } d
  /-- A timer is delivered. -/
  | delivered {s : Session σ} {d : List Char} (timer : Timer) (run : Notified s d) :
    Notified (s.delivered timer) d
  /-- The scheduler changes. -/
  | rescheduled {s : Session σ} {d : List Char} (scheduler : σ) (run : Notified s d) :
    Notified { s with scheduler } d

theorem Notified.advancedTo {time limit : Nat} {p q : Session Clock × Clock}
    (run : { p.1 with scheduler := p.2 }.Notified d)
    (advanced : Clock.advanceTo? receive time limit p = some q) :
  { q.1 with scheduler := q.2 }.Notified d
  := by
  fun_induction Clock.advanceTo? receive time limit p with
  | case1 limit p next =>
    obtain rfl := Option.some.inj advanced
    exact run.rescheduled { p.2 with now := time }
  | case2 p timer next due => cases advanced
  | case3 p timer next due limit ih =>
    apply ih _ advanced
    exact (run.rescheduled (p.2.deliver timer)).delivered timer.timer
  | case4 limit p timer next late =>
    obtain rfl := Option.some.inj advanced
    exact run.rescheduled { p.2 with now := time }

/-- Moving a clock is a matter of delivering timers. -/
theorem Notified.advanced {s s' : Session Clock} {by_ limit : Nat} {clock : Clock}
    (run : s.Notified d)
    (advanced : Clock.advance? receive by_ limit (s, s.scheduler) = some (s', clock)) :
  { s' with scheduler := clock }.Notified d
  := Notified.advancedTo (p := (s, s.scheduler)) run advanced

/-! ### The invariant -/

/-- The attributes of the buffer are those that the style gives to a text that goes on after
the one of the buffer. -/
structure Extends {σ : Type} (s : Session σ) (d : List Char) : Prop where
  /-- The attributes. -/
  attributes : ∀ u < s.buffer.length,
    s.buffer.canonicalAt u = s.coordinator.style.attributesAt (s.buffer.chars ++ d) u
  /-- No size is a negative zero. -/
  sizes : s.coordinator.style.HasNoNegativeZero → s.buffer.IsCanonical

/-- What holds of a session that is told of every edit. -/
structure Attended {σ : Type} (s : Session σ) (d : List Char) : Prop where
  /-- A long text that is being styled is the one that was loaded, and nothing was replaced
  since. -/
  tracks : ∃ h, s.Tracks h ∧ ∀ loading, s.coordinator.loading = some loading →
    h.since = 0 ∧ loading.snapshot.parsed.document.IsNested
  /-- Nothing was removed while there is something to do. -/
  busy : s.coordinator.state ≠ .idle → d = []
  /-- The buffer is styled if there is nothing to do, but for what was removed. -/
  idle : s.coordinator.state = .idle → s.Extends d

section

omit [Scheduler σ]

theorem Reconciled.extends (reconciled : s.Reconciled) :
  s.Extends []
  where
  attributes := by
    intro u _
    rw [reconciled.attributes, List.append_nil]
  sizes := reconciled.sizes

/-- Removing text from the end leaves the attributes of the text that it was. -/
theorem Extends.removed (styled : s.Extends d) {b : Buffer} {span : Span} {text : List Char}
    {edit : Edit} (replaced : s.buffer.replace? span text = some (edit, b))
    (nothing : LeavesNothing b edit) :
  { s with buffer := b }.Extends (s.buffer.chars.drop b.chars.length ++ d)
  := by
  obtain ⟨parts, kept⟩ := removed_of_leavesNothing replaced nothing
  have shorter : b.length ≤ s.buffer.length := by
    rw [Buffer.length_eq, Buffer.length_eq, parts, units_append]
    omega
  constructor
  · intro u hu
    have same : b.canonicalAt u = s.buffer.canonicalAt u := by
      rw [Buffer.canonicalAt, Buffer.canonicalAt, kept u hu]
    rw [← List.append_assoc, ← parts]
    exact same.trans (styled.attributes u (hu.trans_le shorter))
  · intro sizes a ha
    obtain ⟨u, hu, rfl⟩ := Array.mem_iff_getElem.mp ha
    apply styled.sizes sizes
    apply Array.mem_of_getElem?
    rw [← kept u hu]
    exact Array.getElem?_eq_getElem hu

theorem Attended.sameWork (attended : s.Attended d) (same : s.SameWork s') :
  s'.Attended d
  where
  tracks := by
    obtain ⟨h, tracks, fresh⟩ := attended.tracks
    refine ⟨h, tracks.sameWork same, ?_⟩
    rw [same.loading]
    exact fresh
  busy := by
    rw [same.state]
    exact attended.busy
  idle := by
    rw [same.state]
    intro state
    obtain ⟨attributes, sizes⟩ := attended.idle state
    constructor
    · rw [same.buffer, same.style]
      exact attributes
    · rw [same.buffer, same.style]
      exact sizes

/-- A session that does not style a long text, and has a styled buffer if it is idle. -/
theorem attended_of_reconciled {h : History} (tracks : s.Tracks h)
    (loading : s.coordinator.loading = none)
    (reconciled : s.coordinator.state = .idle → s.Reconciled) :
  s.Attended []
  where
  tracks := by
    refine ⟨h, tracks, ?_⟩
    intro l hl
    rw [loading] at hl
    cases hl
  busy _ := rfl
  idle state := (reconciled state).extends

theorem Attended.rescheduled (attended : s.Attended d) (scheduler : σ) :
  { s with scheduler }.Attended d
  where
  tracks := by
    obtain ⟨h, tracks, fresh⟩ := attended.tracks
    exact ⟨h, tracks.rescheduled scheduler, fresh⟩
  busy := attended.busy
  idle := by
    intro state
    obtain ⟨attributes, sizes⟩ := attended.idle state
    exact ⟨attributes, sizes⟩

theorem Attended.taken (attended : s.Attended d) :
  { s with buffer := s.buffer.takeEdits.2 }.Attended d
  where
  tracks := by
    obtain ⟨h, tracks, fresh⟩ := attended.tracks
    exact ⟨h, tracks.taken, fresh⟩
  busy := attended.busy
  idle := by
    intro state
    obtain ⟨attributes, sizes⟩ := attended.idle state
    exact ⟨attributes, sizes⟩

end

theorem Tracks.attended_load {h : History} (tracks : s.Tracks h) (nested : s.IsNestedIfLong) :
  s.load.Attended []
  := by
  have after := tracks.load
  by_cases short : s.buffer.length < s.coordinator.settings.longText
  · obtain ⟨stats, log, load⟩ := load_of_short short
    rw [load] at after ⊢
    exact attended_of_reconciled after rfl fun _ => reconciled_applyAll s _ _ _ _
  · obtain ⟨log, load⟩ := load_of_long short
    rw [load] at after ⊢
    refine ⟨⟨_, after, ?_⟩, fun _ => rfl, nofun⟩
    intro loading hl
    obtain rfl := Option.some.inj hl
    exact ⟨rfl, nested (Nat.le_of_not_lt short)⟩

theorem Attended.edited (attended : s.Attended d) {b : Buffer} {span : Span} {text : List Char}
    {edit : Edit} (replaced : s.buffer.replace? span text = some (edit, b)) :
  ({ s with buffer := b }.edited edit).Attended (s.removed b edit d)
  := by
  obtain ⟨h, tracks, -⟩ := attended.tracks
  have changed := tracks.replaced replaced
  have after := changed.edited edit
  have kind : edit.kind = .characters := by
    obtain ⟨-, -, -, -, -, -, kind, -, -⟩ := Buffer.replace?_spec replaced
    exact kind
  rcases changed.edited_cases edit with ⟨same, attributes | ⟨loading, nowhere⟩⟩ | ⟨c, stats, log, -, edited⟩
  · rw [kind] at attributes
    cases attributes
  · by_cases idle : s.coordinator.state = .idle
    · have nothing := (isEmpty_affected_iff replaced).mp nowhere
      rw [Session.removed, if_pos ⟨idle, nothing⟩]
      have attended : { s with buffer := b }.Attended (s.buffer.chars.drop b.chars.length ++ d) := by
        refine ⟨⟨_, changed, ?_⟩, fun busy => absurd idle busy, ?_⟩
        · intro l hl
          rw [loading] at hl
          cases hl
        · intro _
          exact (attended.idle idle).removed replaced nothing
      exact attended.sameWork same
    · rw [Session.removed, if_neg (fun h => idle h.1)]
      exact (attended_of_reconciled changed loading fun state => absurd state idle).sameWork same
  · have loud : ¬ (s.coordinator.state = .idle ∧ LeavesNothing b edit) := by
      rintro ⟨idle, nothing⟩
      have loading := (changed.state_eq_idle_iff.mp idle).1
      have nowhere := (isEmpty_affected_iff replaced).mpr nothing
      have state := (edited_of_nowhere kind changed.state loading nowhere).state.trans idle
      rw [edited] at state
      cases state
    rw [Session.removed, if_neg loud]
    rw [edited] at after ⊢
    exact attended_of_reconciled after rfl nofun

theorem Acts.attended (acts : s.Acts s') (attended : s.Attended d) :
  s'.Attended []
  := by
  obtain ⟨h, tracks, fresh⟩ := attended.tracks
  have after := acts.tracks tracks
  cases acts with
  | pause debounce loading stats log =>
    exact attended_of_reconciled after rfl fun _ => reconciled_applyAll s _ _ _ _
  | @last loading hl current last stats log =>
    obtain ⟨none, nested⟩ := fresh loading hl
    have few : h.since < 2 ^ 64 := by
      rw [none]
      decide
    apply attended_of_reconciled after rfl
    intro _
    exact reconciled_nextBuffer tracks few hl current last nested _ _ _
  | @more loading hl current more stats log =>
    refine ⟨⟨h, after, ?_⟩, fun _ => rfl, nofun⟩
    intro next hl'
    obtain rfl := Option.some.inj hl'
    exact fresh loading hl
  | changed hl changed stats log => exact attended_of_reconciled after rfl nofun

theorem Acts.state_ne_idle {h : History} (acts : s.Acts s') (tracks : s.Tracks h) :
  s.coordinator.state ≠ .idle
  := by
  intro idle
  obtain ⟨none, none'⟩ := tracks.state_eq_idle_iff.mp idle
  cases acts with
  | pause debounce loading stats log => exact Option.some_ne_none _ (debounce.symm.trans none')
  | last hl current last stats log => exact Option.some_ne_none _ (hl.symm.trans none)
  | more hl current more stats log => exact Option.some_ne_none _ (hl.symm.trans none)
  | changed hl changed stats log => exact Option.some_ne_none _ (hl.symm.trans none)

theorem Attended.delivered (attended : s.Attended d) (timer : Timer) :
  (s.delivered timer).Attended d
  := by
  obtain ⟨h, tracks, -⟩ := attended.tracks
  by_cases expected : s.Expects timer
  · have acts := tracks.acts expected
    rw [attended.busy (acts.state_ne_idle tracks)]
    exact acts.attended attended
  · obtain ⟨log, stale⟩ := delivered_of_stale expected
    exact attended.sameWork (sameWork_of_log stale)

theorem Notified.attended (run : s.Notified d) :
  s.Attended d
  := by
  induction run with
  | @start s state debounce loading nested =>
    exact (Reached.start state debounce loading).tracks.attended_load nested
  | loaded nested _ ih =>
    obtain ⟨h, tracks, -⟩ := ih.tracks
    exact tracks.attended_load nested
  | edited replaced _ ih => exact ih.edited replaced
  | noted kind _ ih => exact ih.sameWork (edited_of_attributes kind)
  | taken _ ih => exact ih.taken
  | delivered timer _ ih => exact ih.delivered timer
  | rescheduled scheduler _ ih => exact ih.rescheduled scheduler

/-! ### Idle sessions -/

/-- When a session that is told of every edit is idle, its buffer has the attributes that the
style gives to its text with the text that was removed at the end while it was idle, up to
the sign of sizes that are zero.  These are the attributes of its text if nothing was
removed, or else if what was removed makes no difference to the text before it, and only
then. -/
theorem Notified.attributes_of_idle (run : s.Notified d) (idle : s.coordinator.state = .idle) :
  let style := s.coordinator.style
  let longer := style.render (s.buffer.chars ++ d)
  (∀ u < s.buffer.length, s.buffer.canonicalAt u = longer.canonicalAt u)
  ∧ (style.HasNoNegativeZero →
    (∀ u < s.buffer.length, s.buffer.attributes[u]? = longer.attributes[u]?)
    ∧ (d = [] → s.buffer.attributes = (style.render s.buffer.chars).attributes)
    ∧ (s.buffer.attributes = (style.render s.buffer.chars).attributes ↔
      ∀ u < s.buffer.length,
        longer.attributes[u]? = (style.render s.buffer.chars).attributes[u]?))
  := by
  intro style longer
  obtain ⟨attributes, canonical⟩ := run.attended.idle idle
  have same (u : Nat) (hu : u < s.buffer.length) : s.buffer.canonicalAt u = longer.canonicalAt u := by
    rw [attributes u hu, Style.canonicalAt_render]
  refine ⟨same, ?_⟩
  intro sizes
  have exact (u : Nat) (hu : u < s.buffer.length) :
      s.buffer.attributes[u]? = longer.attributes[u]? := by
    rw [← (canonical sizes).canonicalAt, ← (Style.isCanonical_render sizes _).canonicalAt, same u hu]
  have iff : s.buffer.attributes = (style.render s.buffer.chars).attributes ↔
      ∀ u < s.buffer.length,
        longer.attributes[u]? = (style.render s.buffer.chars).attributes[u]? := by
    constructor
    · intro equal u hu
      rw [← exact u hu, equal]
    · intro equal
      apply Array.ext_getElem?
      intro u
      by_cases hu : u < s.buffer.length
      · rw [exact u hu, equal u hu]
      · have short : (style.render s.buffer.chars).length = s.buffer.length := by
          rw [Buffer.length_eq, Style.chars_render, Buffer.length_eq]
        rw [Array.getElem?_eq_none (Nat.le_of_not_lt hu),
          Array.getElem?_eq_none (short.trans_le (Nat.le_of_not_lt hu))]
  refine ⟨exact, ?_, iff⟩
  rintro rfl
  apply iff.mpr
  intro u _
  dsimp only [longer]
  rw [List.append_nil]

/-- A heading that is about to lose its underline. -/
def underlined : Session Clock :=
  (ofText .standard {} "a\n-".toList ({} : Clock)).load

/-- The edit that removes the underline, and the buffer without it. -/
def baring : Edit × Buffer :=
  (underlined.buffer.replace? ⟨2, 3⟩ []).get (by decide +kernel)

/-- The heading without its underline, when the session was told. -/
def bared : Session Clock :=
  { underlined with buffer := baring.2 }.edited baring.1

theorem notified_bared :
  bared.Notified ['-']
  := by
  have replaced : underlined.buffer.replace? ⟨2, 3⟩ [] = some (baring.1, baring.2) :=
    (Option.some_get _).symm
  have removed : underlined.removed baring.2 baring.1 [] = ['-'] := by decide +kernel
  rw [← removed]
  apply Notified.edited replaced
  apply Notified.start rfl rfl rfl
  intro long
  exact absurd long (by decide +kernel)

/-- The heading without its underline has the attributes that it had with it. -/
theorem Notified.attributes_of_idle_bared :
  bared.coordinator.state = .idle
  ∧ ∀ u < 2, bared.buffer.attributes[u]?
    = (bared.coordinator.style.render "a\n-".toList).attributes[u]?
  := by
  have idle : bared.coordinator.state = .idle := by decide +kernel
  have text : bared.buffer.chars ++ ['-'] = "a\n-".toList := by decide +kernel
  have size : bared.buffer.length = 2 := by decide +kernel
  have sizes : bared.coordinator.style.HasNoNegativeZero := by decide +kernel
  obtain ⟨-, styled⟩ := notified_bared.attributes_of_idle idle
  obtain ⟨same, -⟩ := styled sizes
  rw [size, text] at same
  exact ⟨idle, same⟩

/-- These are not the attributes of its text, which is a line that is no heading. -/
theorem exists_idle_not_styled :
  ∃ s : Session Clock, s.Notified ['-'] ∧ s.coordinator.state = .idle
    ∧ s.buffer.attributes ≠ (s.coordinator.style.render s.buffer.chars).attributes
  := by
  refine ⟨bared, notified_bared, by decide +kernel, ?_⟩
  intro same
  have weights : (bared.buffer.attributes.map fun a => a.font.map Font.weight)
      ≠ ((bared.coordinator.style.render bared.buffer.chars).attributes.map
        fun a => a.font.map Font.weight) := by decide +kernel
  exact weights (congrArg _ same)

end Session

end LiveMarkdown
