import LiveMarkdown.Proofs.Buffer.Paragraph
import LiveMarkdown.Proofs.Lifecycle.Hosted
import LiveMarkdown.Proofs.Lifecycle.Stats

/-!
# Keystrokes

While a user types, every keystroke makes the paragraphs around it be styled at once, and the
timer for a pause be set anew.  So all of the text is styled after those keystrokes only after
which the user pauses for as long as the timer runs, just when it has run, and as the keystroke
has left it.

* Whether text can be replaced, what an edit touches and which text it leaves depend only on
  the text, not on attributes.
* After a keystroke the session waits for the one timer that is pending.
* When the user pauses, the timer is delivered or it is not.
-/

namespace LiveMarkdown

/-! ### Edits of texts -/

/-- Text is replaced alike in buffers with the same text. -/
theorem Buffer.replace?_congr {b c b' : Buffer} (same : b.chars = c.chars) {span : Span}
    {text : List Char} {edit : Edit} (replaced : b.replace? span text = some (edit, b')) :
  ∃ c', c.replace? span text = some (edit, c') ∧ c'.chars = b'.chars
  := by
  rw [replace?] at replaced
  split at replaced
  · rename_i allowed
    obtain ⟨rfl, rfl⟩ := Prod.mk.inj (Option.some.inj replaced)
    rw [same] at allowed
    rw [replace?, dif_pos allowed]
    refine ⟨_, rfl, ?_⟩
    dsimp only
    rw [same]
  · cases replaced

/-- An edit touches the same in buffers with the same text. -/
theorem Session.affected_congr {b c : Buffer} (same : b.chars = c.chars) (edit : Edit) :
  affected b edit = affected c edit
  := by
  simp only [affected, Buffer.paragraphSpan, Buffer.textIn?, Buffer.length_eq, same]

/-- A keystroke, and the pause after it. -/
structure Keystroke where
  /-- What is replaced. -/
  span : Span
  /-- The text that is put in its place. -/
  text : List Char
  /-- The pause, in milliseconds. -/
  pause : Nat
deriving DecidableEq, Repr

/-- The text that a keystroke leaves.  There is none if it replaces what is no span of the
text, or touches no paragraph. -/
def Keystroke.type? (k : Keystroke) (cs : List Char) : Option (List Char) :=
  match (Buffer.ofText cs {}).replace? k.span k.text with
  | none => none
  | some (edit, b) => if (Session.affected b edit).isEmpty then none else some b.chars

theorem Keystroke.exists_replace? {k : Keystroke} {b : Buffer} {cs : List Char}
    (typed : k.type? b.chars = some cs) :
  ∃ edit c, b.replace? k.span k.text = some (edit, c) ∧ c.chars = cs
    ∧ ¬ (Session.affected c edit).isEmpty
  := by
  rw [type?] at typed
  split at typed
  · cases typed
  · rename_i edit d replaced
    split at typed
    · cases typed
    · rename_i somewhere
      obtain rfl := Option.some.inj typed
      obtain ⟨c, replaced', chars⟩ := Buffer.replace?_congr
        (b := Buffer.ofText b.chars {}) (c := b) rfl replaced
      use edit, c, replaced', chars
      rwa [Session.affected_congr chars]

/-! ### What is seen of keystrokes -/

/-- A pass over all of a buffer. -/
structure FullPass where
  /-- When it is made. -/
  time : Nat
  /-- The text that is styled. -/
  text : List Char
deriving DecidableEq, Repr

/-- What is seen between a keystroke and the next one. -/
structure Response where
  /-- The passes over all of the buffer, in the order in which they are made. -/
  passes : List FullPass
  /-- The state when the user types on. -/
  state : StylingState
deriving DecidableEq, Repr

/-- What is expected of a keystroke that leaves a text at some time, if a pause is one of at
least `debounce` milliseconds: one pass over this text, just when the pause is one, or none. -/
def Keystroke.response (k : Keystroke) (debounce now : Nat) (cs : List Char) : Response :=
  if debounce ≤ k.pause then ⟨[⟨now + debounce, cs⟩], .idle⟩ else ⟨[], .waiting⟩

/-- What is expected of keystrokes from a time on.  Nothing is if one of them is no keystroke
in the text that those before it leave. -/
def responses? (debounce now : Nat) (cs : List Char) : List Keystroke → Option (List Response)
  | [] => some []
  | k :: ks =>
    (k.type? cs).bind fun cs =>
      (responses? debounce (now + k.pause) cs ks).map (k.response debounce now cs :: ·)

namespace Session

/-- Delivers a timer of a clock to a session, and notes it if this makes all of the buffer be
styled. -/
def observe (timer : Timer) (t : (List FullPass × Session Clock) × Clock) :
    (List FullPass × Session Clock) × Clock :=
  let (s, clock) := receive timer (t.1.2, t.2)
  let passes :=
    if t.1.2.coordinator.stats.fullPasses < s.coordinator.stats.fullPasses then
      t.1.1 ++ [⟨t.2.now, t.1.2.buffer.chars⟩]
    else t.1.1
  ((passes, s), clock)

/-- Replaces text, tells the session so, and moves the clock on to the next keystroke. -/
def type? (limit : Nat) (s : Session Clock) (k : Keystroke) : Option (Response × Session Clock) :=
  match s.buffer.replace? k.span k.text with
  | none => none
  | some (edit, buffer) =>
    let s := { s with buffer }.edited edit
    (Clock.advance? observe k.pause limit (([], s), s.scheduler)).map fun t =>
      (⟨t.1.1, t.1.2.coordinator.state⟩, { t.1.2 with scheduler := t.2 })

/-- Types one key after the other. -/
def typeAll? (limit : Nat) (s : Session Clock) :
    List Keystroke → Option (List Response × Session Clock)
  | [] => some ([], s)
  | k :: ks =>
    (s.type? limit k).bind fun (response, s) =>
      (s.typeAll? limit ks).map fun (responses, s) => (response :: responses, s)

variable {s : Session Clock}

/-! ### The timer for a pause -/

/-- A session waits for a pause, which ends with the one timer that is pending. -/
structure Awaits (s : Session Clock) (p : PendingTimer) : Prop where
  /-- The clock holds what the session waits for. -/
  orderly : s.Orderly
  /-- The session waits for the timer. -/
  debounce : s.coordinator.debounce = some p.awaited
  /-- The timer is one for a pause. -/
  kind : p.timer.kind = .debounce
  /-- No other timer is pending. -/
  pending : s.scheduler.pending = [p]

/-- The session after the pause for which it waits. -/
def paused (s : Session Clock) (p : PendingTimer) (log : Array Happening) : Session Clock :=
  s.asIdle (s.coordinator.style.applyAll s.buffer) (s.scheduler.deliver p)
    { s.coordinator.stats with fullPasses := s.coordinator.stats.fullPasses + 1 } log

namespace Awaits

variable {p : PendingTimer}

theorem loading (awaits : s.Awaits p) :
  s.coordinator.loading = none
  := by
  obtain ⟨h, tracks⟩ := awaits.orderly.tracks
  exact tracks.loading_eq_none awaits.debounce

theorem state (awaits : s.Awaits p) :
  s.coordinator.state = .waiting
  := by
  obtain ⟨h, tracks⟩ := awaits.orderly.tracks
  rw [tracks.state, Coordinator.restingState, awaits.loading, awaits.debounce]
  rfl

theorem next?_eq (awaits : s.Awaits p) :
  s.scheduler.next? = some p
  := by
  rw [Clock.next?, awaits.pending]
  rfl

/-- If the pause is too short, nothing happens. -/
theorem advance?_of_short (awaits : s.Awaits p) (by_ limit : Nat)
    (short : s.scheduler.now + by_ < p.due) :
  Clock.advance? observe by_ limit (([], s), s.scheduler)
    = some (([], s), { s.scheduler with now := s.scheduler.now + by_ })
  := by
  apply Clock.advanceTo?_of_late
  intro q hq
  dsimp only at hq
  rw [awaits.pending] at hq
  obtain rfl := List.mem_singleton.mp hq
  exact short

theorem orderly_paused (awaits : s.Awaits p) (log : Array Happening) :
  (s.paused p log).Orderly
  := by
  obtain ⟨h, tracks⟩ := awaits.orderly.tracks
  have fits := tracks.fits.of_version (Style.version_applyAll s.coordinator.style s.buffer)
  have empty : (s.scheduler.deliver p).pending = [] := Clock.pending_deliver awaits.pending
  apply (turns_asIdle s _ _ _ log).orderly empty
  apply tracks_asIdle s fits

/-- If the pause is long enough, all of the buffer is styled when the timer is due. -/
theorem advance?_of_long (awaits : s.Awaits p) (by_ limit : Nat)
    (long : p.due ≤ s.scheduler.now + by_) (ahead : s.scheduler.now ≤ p.due) :
  ∃ log, Clock.advance? observe by_ (limit + 1) (([], s), s.scheduler)
    = some (([⟨p.due, s.buffer.chars⟩], s.paused p log),
      { s.scheduler.deliver p with now := s.scheduler.now + by_ })
  := by
  let q := { s with scheduler := s.scheduler.deliver p }
  obtain ⟨log, delivered⟩ : ∃ log, q.delivered p.timer = _ :=
    delivered_of_counted_pause (s := q) awaits.debounce awaits.kind awaits.loading
  use log
  have time : (s.scheduler.deliver p).now = p.due := Nat.max_eq_right ahead
  have observed : observe p.timer (([], s), s.scheduler.deliver p)
      = ((if s.coordinator.stats.fullPasses < (q.delivered p.timer).coordinator.stats.fullPasses
          then [⟨(s.scheduler.deliver p).now, s.buffer.chars⟩] else [], q.delivered p.timer),
        (q.delivered p.timer).scheduler) := rfl
  have counted : s.coordinator.stats.fullPasses
      < (q.delivered p.timer).coordinator.stats.fullPasses := by
    rw [delivered]
    exact Nat.lt_succ_self _
  rw [if_pos counted, delivered, time] at observed
  rw [Clock.advance?, Clock.advanceTo?_of_due awaits.next?_eq long, observed]
  apply Clock.advanceTo?_of_late
  intro r hr
  have empty : (s.scheduler.deliver p).pending = [] := Clock.pending_deliver awaits.pending
  change r ∈ (s.scheduler.deliver p).pending at hr
  rw [empty] at hr
  cases hr

end Awaits

/-! ### One keystroke -/

/-- A session that styles no long text, and whose clock holds what it waits for. -/
structure Rests (s : Session Clock) : Prop where
  /-- The clock holds what the session waits for. -/
  orderly : s.Orderly
  /-- No long text is being styled. -/
  loading : s.coordinator.loading = none

/-- An edit that touches a paragraph makes it be styled, and sets the timer for a pause. -/
theorem Rests.edited (rests : s.Rests) {span : Span} {text : List Char} {edit : Edit} {b : Buffer}
    (replaced : s.buffer.replace? span text = some (edit, b))
    (somewhere : ¬ (affected b edit).isEmpty) :
  let after := { s with buffer := b }.edited edit
  ∃ p, after.Awaits p ∧ p.due = s.scheduler.now + s.coordinator.settings.debounce
    ∧ after.coordinator.settings = s.coordinator.settings
    ∧ after.coordinator.stats
      = { s.coordinator.stats with partialPasses := s.coordinator.stats.partialPasses + 1 }
    ∧ after.buffer.chars = b.chars ∧ after.scheduler.now = s.scheduler.now
  := by
  intro after
  let q := { s with buffer := b }
  have orderly : q.Orderly := rests.orderly.replaced replaced
  obtain ⟨h, tracks⟩ := orderly.tracks
  obtain ⟨-, -, -, -, -, -, kind, -, -⟩ := Buffer.replace?_spec replaced
  obtain ⟨c, styled⟩ := exists_applyPart? s.coordinator.style somewhere
  obtain ⟨log, edited⟩ : ∃ log, after = _ := edited_of_part (s := q) kind tracks.state somewhere styled
  have empty : q.unscheduled.pending = [] := pending_unscheduled tracks orderly.pending
  have now : q.unscheduled.now = s.scheduler.now := now_unscheduled q
  let p : PendingTimer := ⟨q.unscheduled.lastHandle + 1,
    q.unscheduled.now + s.coordinator.settings.debounce, q.nextTimer .debounce⟩
  have pending : after.scheduler.pending = [p] := by
    rw [edited]
    change q.unscheduled.pending ++ [p] = [p]
    rw [empty]
    rfl
  refine ⟨p, ⟨orderly.update (m := .edited edit) rfl, ?_, rfl, pending⟩, ?_, ?_, ?_, ?_, ?_⟩
  · rw [edited]
    rfl
  · exact congrArg (· + s.coordinator.settings.debounce) now
  · rw [edited]
    rfl
  · rw [edited]
    rfl
  · rw [edited]
    exact Buffer.chars_eq_of_version (Style.version_applyPart? styled)
  · rw [edited]
    exact now

/-- What a keystroke makes of a session, with the pause after it. -/
structure Typed (s : Session Clock) (k : Keystroke) (cs : List Char) (s' : Session Clock) : Prop
    where
  /-- No long text is being styled. -/
  rests : s'.Rests
  /-- The settings are the same. -/
  settings : s'.coordinator.settings = s.coordinator.settings
  /-- The text is the one that the keystroke leaves. -/
  chars : s'.buffer.chars = cs
  /-- The pause is over. -/
  now : s'.scheduler.now = s.scheduler.now + k.pause
  /-- All of the text was styled if the pause was long enough. -/
  fullPasses : s'.coordinator.stats.fullPasses = s.coordinator.stats.fullPasses
    + if s.coordinator.settings.debounce ≤ k.pause then 1 else 0
  /-- The paragraphs around the keystroke were styled. -/
  partialPasses : s'.coordinator.stats.partialPasses = s.coordinator.stats.partialPasses + 1

/-- A keystroke is followed by a pass over all of the text if the pause after it is long
enough, and by none otherwise. -/
theorem Rests.type? (rests : s.Rests) {k : Keystroke} {cs : List Char}
    (typed : k.type? s.buffer.chars = some cs) (limit : Nat) :
  ∃ s', s.type? (limit + 1) k
      = some (k.response s.coordinator.settings.debounce s.scheduler.now cs, s')
    ∧ s.Typed k cs s'
  := by
  obtain ⟨edit, b, replaced, chars, somewhere⟩ := Keystroke.exists_replace? typed
  obtain ⟨p, awaits, due, settings, stats, same, now⟩ := rests.edited replaced somewhere
  obtain rfl := chars
  simp only [Session.type?, replaced]
  generalize { s with buffer := b }.edited edit = after at awaits settings stats same now ⊢
  rw [Keystroke.response]
  by_cases long : s.coordinator.settings.debounce ≤ k.pause
  · obtain ⟨log, advanced⟩ := awaits.advance?_of_long k.pause limit (by omega) (by omega)
    rw [advanced, if_pos long, ← due, ← same]
    refine ⟨_, rfl, ⟨?_, rfl⟩, settings, ?_, ?_, ?_, ?_⟩
    · exact (awaits.orderly_paused log).rescheduled rfl
    · apply Buffer.chars_eq_of_version (Style.version_applyAll after.coordinator.style after.buffer)
    · apply congrArg (· + k.pause) now
    · rw [if_pos long]
      apply congrArg (fun stats => stats.fullPasses + 1) stats
    · apply congrArg Stats.partialPasses stats
  · have advanced := awaits.advance?_of_short k.pause (limit + 1) (by omega)
    rw [advanced, if_neg long]
    let clock := { after.scheduler with now := after.scheduler.now + k.pause }
    refine ⟨{ after with scheduler := clock }, ?_, ⟨?_, awaits.loading⟩, settings, same, ?_, ?_, ?_⟩
    · rw [← awaits.state]
      rfl
    · exact awaits.orderly.rescheduled rfl
    · apply congrArg (· + k.pause) now
    · rw [if_neg long]
      apply congrArg Stats.fullPasses stats
    · apply congrArg Stats.partialPasses stats

/-! ### All keystrokes -/

theorem Rests.typeAll? (rests : s.Rests) {ks : List Keystroke} {responses : List Response}
    (typed : responses? s.coordinator.settings.debounce s.scheduler.now s.buffer.chars ks
      = some responses) (limit : Nat) :
  ∃ s', s.typeAll? (limit + 1) ks = some (responses, s')
    ∧ s'.coordinator.stats.fullPasses = s.coordinator.stats.fullPasses
      + ks.countP (s.coordinator.settings.debounce ≤ ·.pause)
    ∧ s'.coordinator.stats.partialPasses = s.coordinator.stats.partialPasses + ks.length
  := by
  induction ks generalizing s responses with
  | nil =>
    obtain rfl := Option.some.inj typed
    exact ⟨s, rfl, rfl, rfl⟩
  | cons k ks ih =>
    obtain ⟨cs, first, others⟩ := Option.bind_eq_some_iff.mp typed
    obtain ⟨rest, expected, rfl⟩ := Option.map_eq_some_iff.mp others
    obtain ⟨next, response, after⟩ := rests.type? first limit
    obtain ⟨rests, settings, chars, now, fullPasses, partialPasses⟩ := after
    rw [← settings, ← now, ← chars] at expected
    obtain ⟨s', all, fullPasses', partialPasses'⟩ := ih rests expected
    refine ⟨s', ?_, ?_, ?_⟩
    · simp only [Session.typeAll?, response, Option.bind_some, all, Option.map_some]
    · rw [fullPasses', fullPasses, settings, List.countP_cons]
      simp only [decide_eq_true_eq]
      omega
    · rw [partialPasses', partialPasses, List.length_cons]
      omega

theorem Hosted.rests_load (hosted : s.Hosted)
    (short : s.buffer.length < s.coordinator.settings.longText) :
  s.load.Rests ∧ s.load.coordinator.state = .idle
  := by
  have orderly : s.load.Orderly := hosted.orderly.update (m := .load) rfl
  obtain ⟨stats, log, load⟩ := load_of_short short
  refine ⟨⟨orderly, ?_⟩, ?_⟩
  · rw [load]
    rfl
  · rw [load]
    rfl

/-- After a text was loaded at once, the session is idle.  Of the keystrokes that follow, each
makes the paragraphs around it be styled, and all of the text is styled for those only after
which the user pauses: once, as long after the keystroke as a pause takes, with the text that
the keystroke left.  When the user types on the session is idle again if there was a pause, and
otherwise it still waits for one. -/
theorem Hosted.typeAll?_load (hosted : s.Hosted)
    (short : s.buffer.length < s.coordinator.settings.longText) {ks : List Keystroke}
    {responses : List Response}
    (typed : responses? s.load.coordinator.settings.debounce s.load.scheduler.now
      s.load.buffer.chars ks = some responses) (limit : Nat) :
  let loaded := s.load
  loaded.coordinator.state = .idle
  ∧ ∃ s', loaded.typeAll? (limit + 1) ks = some (responses, s')
    ∧ s'.coordinator.stats.fullPasses = loaded.coordinator.stats.fullPasses
      + ks.countP (loaded.coordinator.settings.debounce ≤ ·.pause)
    ∧ s'.coordinator.stats.partialPasses = loaded.coordinator.stats.partialPasses + ks.length
  := by
  obtain ⟨rests, idle⟩ := hosted.rests_load short
  use idle
  apply rests.typeAll? typed

/-- Two letters are typed, the second one 400 milliseconds after the first one, and then the
user pauses for 500 milliseconds. -/
theorem Hosted.typeAll?_load_heading :
  let s := ofText .standard {} "# a".toList ({} : Clock)
  let ks : List Keystroke := [⟨⟨3, 3⟩, "b".toList, 400⟩, ⟨⟨4, 4⟩, "c".toList, 500⟩]
  ∃ s', s.load.typeAll? 1 ks
      = some ([⟨[], .waiting⟩, ⟨[⟨900, "# abc".toList⟩], .idle⟩], s')
    ∧ s'.coordinator.stats.fullPasses = s.load.coordinator.stats.fullPasses + 1
    ∧ s'.coordinator.stats.partialPasses = s.load.coordinator.stats.partialPasses + 2
  := by
  intro s ks
  have hosted : s.Hosted := .start rfl rfl rfl rfl
  have typed : responses? s.load.coordinator.settings.debounce s.load.scheduler.now
      s.load.buffer.chars ks = some [⟨[], .waiting⟩, ⟨[⟨900, "# abc".toList⟩], .idle⟩] := by
    decide +kernel
  obtain ⟨-, s', responses, fullPasses, partialPasses⟩ :=
    hosted.typeAll?_load (by decide) typed 0
  have once : ks.countP (s.load.coordinator.settings.debounce ≤ ·.pause) = 1 := by
    decide +kernel
  rw [once] at fullPasses
  exact ⟨s', responses, fullPasses, partialPasses⟩

end Session

end LiveMarkdown
