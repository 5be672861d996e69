import LiveMarkdown.Proofs.Lifecycle.Alike
import LiveMarkdown.Proofs.Lifecycle.Progress
import LiveMarkdown.Proofs.Lifecycle.Tidy

/-!
# Cancellations that are not honoured

A clock may go on to deliver timers that were cancelled.  The session takes no notice of
them, and they do not put off the others, for these are delivered at the times at which they
are due.  So whatever a host does, a session with such a clock goes along with one whose clock
honours every cancellation: after each step the coordinators, the buffers and the clocks are
the same, and only timers that nobody waits for may be left over.

* A delivery by the unreliable clock either is one of a timer that nobody waits for, and then
  the reliable clock need not move, or it is made by both clocks, at the same time.
* By induction on the deliveries, moving the one clock comes to an end when moving the other
  does.
-/

namespace LiveMarkdown

/-! ### Two clocks -/

namespace Clock

/-- A clock is not ahead of an unreliable one and has no timers that the other has not. -/
structure Behind (c : Clock) (u : UnreliableClock) : Prop where
  /-- The time of the one is not after that of the other. -/
  now : c.now ≤ u.clock.now
  /-- The same handles were given out. -/
  lastHandle : c.lastHandle = u.clock.lastHandle
  /-- The timers of the one are timers of the other. -/
  pending : c.pending.Sublist u.clock.pending

/-- A clock has the same time as an unreliable one and no timers that the other has not. -/
structure Abreast (c : Clock) (u : UnreliableClock) : Prop extends Behind c u where
  /-- The time of the other is not after that of the one. -/
  now_le : u.clock.now ≤ c.now

variable {c : Clock} {u : UnreliableClock}

theorem Abreast.now_eq (abreast : c.Abreast u) :
  c.now = u.clock.now
  := Nat.le_antisymm abreast.now abreast.now_le

theorem Behind.cancel (behind : c.Behind u) (handle : Nat) :
  (c.cancel handle).pending.Sublist (u.cancel handle).clock.pending
  := by
  rw [UnreliableClock.cancel]
  dsimp only
  split
  · exact behind.pending.filter _
  · exact List.filter_sublist.trans behind.pending

/-- Two clocks that have the same time set the same timers. -/
theorem simulates_abreast :
  Simulates Abreast
  where
  schedule := by
    intro c u abreast delay timer
    obtain ⟨⟨now, lastHandle, pending⟩, now_le⟩ := abreast
    have same : c.now = u.clock.now := Nat.le_antisymm now now_le
    change c.lastHandle + 1 = u.clock.lastHandle + 1 ∧ _
    refine ⟨congrArg (· + 1) lastHandle, ⟨now, congrArg (· + 1) lastHandle, ?_⟩, now_le⟩
    change (c.pending ++ [_]).Sublist (u.clock.pending ++ [_])
    rw [lastHandle, same]
    exact pending.append_right _
  cancel := by
    intro c u abreast handle
    have pending := abreast.cancel handle
    have clock : (u.cancel handle).clock.now = u.clock.now
        ∧ (u.cancel handle).clock.lastHandle = u.clock.lastHandle := by
      rw [UnreliableClock.cancel]
      dsimp only
      split <;> exact ⟨rfl, rfl⟩
    refine ⟨⟨?_, ?_, pending⟩, ?_⟩
    · exact abreast.now.trans_eq clock.1.symm
    · exact abreast.lastHandle.trans clock.2.symm
    · exact clock.1.trans_le abreast.now_le

/-- The unreliable clock may deliver a timer that the other one has not. -/
theorem Behind.ignored (behind : c.Behind u) {n : Nat} (tidy : u.clock.Tidy n) {p : PendingTimer}
    (hp : p ∈ u.clock.pending) (dead : p ∉ c.pending) :
  c.Behind { u with clock := u.clock.deliver p }
  where
  now := behind.now.trans (Nat.le_max_left _ _)
  lastHandle := behind.lastHandle
  pending := by
    have others : c.pending.filter (·.handle ≠ p.handle) = c.pending := by
      apply List.filter_eq_self.mpr
      intro q hq
      rw [decide_eq_true_eq]
      intro same
      obtain rfl := tidy.distinct q (behind.pending.subset hq) p hp same
      exact dead hq
    rw [← others]
    exact behind.pending.filter _

/-- A timer that both clocks deliver brings them to the same time. -/
theorem Behind.acted (behind : c.Behind u) {n : Nat} (tidy : u.clock.Tidy n) {p : PendingTimer}
    (only : c.pending = [p]) :
  (c.deliver p).Abreast { u with clock := u.clock.deliver p }
  := by
  have due : u.clock.now ≤ p.due := by
    apply tidy.due p (behind.pending.subset _)
    rw [only]
    exact List.mem_singleton_self p
  have time : max c.now p.due = max u.clock.now p.due := by
    rw [Nat.max_eq_right due, Nat.max_eq_right (behind.now.trans due)]
  refine ⟨⟨time.le, behind.lastHandle, ?_⟩, time.ge⟩
  rw [pending_deliver only]
  exact List.nil_sublist _

end Clock

/-! ### Two sessions -/

namespace Session

variable {R : Clock → UnreliableClock → Prop} {s s' : Session Clock}
  {u u' : Session UnreliableClock}

/-- A session goes along with one whose clock is unreliable. -/
structure Along (R : Clock → UnreliableClock → Prop) (s : Session Clock)
    (u : Session UnreliableClock) : Prop where
  /-- The sessions differ in their clocks only, and these are related. -/
  alike : Alike R s u
  /-- The clock of the one holds the timers that are waited for. -/
  orderly : s.Orderly
  /-- The clock of the other is tidy. -/
  tidy : u.scheduler.clock.Tidy u.coordinator.generation

namespace Along

theorem behind (along : Along Clock.Abreast s u) :
  Along Clock.Behind s u
  where
  alike := along.alike.rescheduled along.alike.related.toBehind
  orderly := along.orderly
  tidy := along.tidy

theorem update (along : Along Clock.Abreast s u) {m : Message} (own : m.timer? = none) :
  Along Clock.Abreast (s.update m) (u.update m)
  where
  alike := along.alike.update Clock.simulates_abreast m
  orderly := along.orderly.update own
  tidy := by
    obtain ⟨h, tracks⟩ := along.orderly.tracks
    exact (along.alike.tracks tracks).tidy_update along.tidy own

theorem replaced (along : Along R s u) {b : Buffer} {span : Span} {text : List Char} {edit : Edit}
    (replaced : s.buffer.replace? span text = some (edit, b)) :
  Along R { s with buffer := b } { u with buffer := b }
  where
  alike := along.alike.replaced b
  orderly := along.orderly.replaced replaced
  tidy := along.tidy

/-- A timer that the unreliable clock delivers is one that the session waits for if the other
clock has it too, and only then. -/
theorem expects_iff (along : Along Clock.Behind s u) {p : PendingTimer}
    (hp : p ∈ u.scheduler.clock.pending) :
  u.Expects p.timer ↔ p ∈ s.scheduler.pending
  := by
  obtain ⟨h, tracks⟩ := along.orderly.tracks
  rw [(along.alike.tracks tracks).expects_iff, ← along.alike.awaited_eq, ← along.orderly.pending]
  constructor
  · rintro ⟨a, ha, same⟩
    obtain ⟨q, hq, rfl⟩ := List.mem_map.mp ha
    have old := along.alike.related.pending.subset hq
    obtain rfl := along.tidy.eq_of_timer old hp same
    exact hq
  · intro live
    exact ⟨p.awaited, List.mem_map_of_mem live, rfl⟩

/-- The delivery of a timer that nobody waits for changes nothing. -/
theorem ignored (along : Along Clock.Behind s u) {p : PendingTimer}
    (next : u.scheduler.clock.next? = some p) (dead : p ∉ s.scheduler.pending) :
  Along Clock.Behind s (u.fire p)
  := by
  have hp := (Clock.next?_spec next).1
  have unexpected : ¬ u.Expects p.timer := fun expected => dead ((along.expects_iff hp).mp expected)
  obtain ⟨log, stale⟩ := delivered_of_stale (s := u.without p) unexpected
  have behind := along.alike.related.ignored along.tidy hp dead
  have alike : Alike Clock.Behind s (u.without p) := along.alike.rescheduled behind
  rw [fire, stale]
  exact ⟨alike.logged log, along.orderly, along.tidy.deliver next⟩

/-- A timer that is waited for is delivered by both clocks, at the same time. -/
theorem acted (along : Along Clock.Behind s u) {p : PendingTimer}
    (next : u.scheduler.clock.next? = some p) (live : p ∈ s.scheduler.pending) :
  Along Clock.Abreast ({ s with scheduler := s.scheduler.deliver p }.delivered p.timer) (u.fire p)
  := by
  obtain ⟨h, tracks⟩ := along.orderly.tracks
  obtain ⟨only, expected⟩ := along.orderly.pending_eq live
  have now := along.alike.rescheduled (along.alike.related.acted along.tidy only)
  have acts := (now.tracks (tracks.rescheduled _)).acts
    ((along.expects_iff (Clock.next?_spec next).1).mpr live)
  exact ⟨now.delivered Clock.simulates_abreast p.timer, along.orderly.delivered live,
    acts.turns.tidy (along.tidy.deliver next)⟩

/-- When no timer of the unreliable clock is due, time passes for both. -/
theorem waited (along : Along Clock.Behind s u) {time : Nat}
    (late : ∀ p ∈ u.scheduler.clock.pending, time < p.due) :
  Along Clock.Abreast (s.withClock { s.clock with now := time })
    (u.withClock { u.clock with now := time })
  where
  alike := by
    have behind := along.alike.related
    exact along.alike.rescheduled ⟨⟨le_rfl, behind.lastHandle, behind.pending⟩, le_rfl⟩
  orderly := along.orderly.rescheduled rfl
  tidy := along.tidy.wait late

end Along

/-! ### Moving two clocks -/

variable {t t' : Session Clock × Clock} {v v' : Session UnreliableClock × Clock}
  {time limit m : Nat}

/-- Two sessions that are being moved along with their clocks. -/
def AlongWith (t : Session Clock × Clock) (v : Session UnreliableClock × Clock) : Prop :=
  Along Clock.Behind (t.1.withClock t.2) (v.1.withClock v.2)

/-- A delivery by the unreliable clock is made by that clock only, and changes nothing, or it
is made by both. -/
theorem AlongWith.receiveFrom (along : AlongWith t v) {p : PendingTimer}
    (next : v.2.next? = some p) :
  let w := receiveFrom p.timer (v.1, v.2.deliver p)
  (AlongWith t w ∧ w.2.pending.length < v.2.pending.length)
  ∨ (t.2.next? = some p ∧ AlongWith (Session.receiveFrom p.timer (t.1, t.2.deliver p)) w
    ∧ w.2.pending.length ≤ v.2.pending.length)
  := by
  intro w
  have hp := (Clock.next?_spec next).1
  have taken := Clock.length_deliver v.2 hp
  by_cases live : p ∈ t.2.pending
  · right
    have only : t.2.pending = [p] := (along.orderly.pending_eq live).1
    have first : t.2.next? = some p := by
      rw [Clock.next?, only]
      rfl
    obtain ⟨h, tracks⟩ := along.orderly.tracks
    have acts := ((along.alike.tracks tracks).without p).acts ((along.expects_iff hp).mpr live)
    have set : w.2.pending.length ≤ (v.2.deliver p).pending.length + 1 := acts.length_pending
    exact ⟨first, (along.acted next live).behind, by omega⟩
  · left
    have unexpected : ¬ (v.1.withClock v.2).Expects p.timer :=
      fun expected => live ((along.expects_iff hp).mp expected)
    obtain ⟨log, stale⟩ := delivered_of_stale (s := (v.1.withClock v.2).without p) unexpected
    have left : w.2.pending.length = (v.2.deliver p).pending.length :=
      congrArg (fun s : Session UnreliableClock => s.scheduler.clock.pending.length) stale
    exact ⟨along.ignored next live, by omega⟩

/-- When no timer of the unreliable clock is due, both clocks are moved at once. -/
theorem AlongWith.late (along : AlongWith t v) (late : ∀ q ∈ v.2.pending, time < q.due) :
  ∃ t' v', (∀ limit, Clock.advanceTo? Session.receiveFrom time limit t = some t')
    ∧ (∀ limit, Clock.advanceTo? Session.receiveFrom time limit v = some v')
    ∧ Along Clock.Abreast (t'.1.withClock t'.2) (v'.1.withClock v'.2)
  := by
  have late' : ∀ q ∈ t.2.pending, time < q.due :=
    fun q hq => late q (along.alike.related.pending.subset hq)
  exact ⟨_, _, fun _ => Clock.advanceTo?_of_late late', fun _ => Clock.advanceTo?_of_late late,
    along.waited late⟩

/-- When moving the reliable clock comes to an end, so does moving the unreliable one. -/
theorem AlongWith.advanceTo? (along : AlongWith t v)
    (advanced : Clock.advanceTo? Session.receiveFrom time limit t = some t')
    (enough : limit + v.2.pending.length ≤ m) :
  ∃ v', Clock.advanceTo? Session.receiveFrom time m v = some v'
    ∧ Along Clock.Abreast (t'.1.withClock t'.2) (v'.1.withClock v'.2)
  := by
  induction m generalizing t v limit with
  | zero =>
    rcases v.2.due_or_late time with ⟨p, next, due⟩ | late
    · have some := List.length_pos_of_mem (Clock.next?_spec next).1
      omega
    · obtain ⟨t₁, v₁, moved, moved', along⟩ := along.late late
      obtain rfl := Option.some.inj ((moved limit).symm.trans advanced)
      exact ⟨v₁, moved' 0, along⟩
  | succ m ih =>
    rcases v.2.due_or_late time with ⟨p, next, due⟩ | late
    · rw [Clock.advanceTo?_of_due next due]
      rcases along.receiveFrom next with ⟨ignored, fewer⟩ | ⟨first, acted, fewer⟩
      · exact ih ignored advanced (by omega)
      · cases limit with
        | zero =>
          rw [Clock.advanceTo?_zero_of_due first due] at advanced
          cases advanced
        | succ limit =>
          rw [Clock.advanceTo?_of_due first due] at advanced
          exact ih acted advanced (by omega)
    · obtain ⟨t₁, v₁, moved, moved', along⟩ := along.late late
      obtain rfl := Option.some.inj ((moved limit).symm.trans advanced)
      exact ⟨v₁, moved' (m + 1), along⟩

/-- When moving the unreliable clock comes to an end, so does moving the reliable one. -/
theorem AlongWith.advanceTo?_of_unreliable (along : AlongWith t v)
    (advanced : Clock.advanceTo? Session.receiveFrom time limit v = some v') :
  ∃ t', Clock.advanceTo? Session.receiveFrom time limit t = some t'
    ∧ Along Clock.Abreast (t'.1.withClock t'.2) (v'.1.withClock v'.2)
  := by
  induction limit generalizing t v with
  | zero =>
    rcases v.2.due_or_late time with ⟨p, next, due⟩ | late
    · rw [Clock.advanceTo?_zero_of_due next due] at advanced
      cases advanced
    · obtain ⟨t₁, v₁, moved, moved', along⟩ := along.late late
      obtain rfl := Option.some.inj ((moved' 0).symm.trans advanced)
      exact ⟨t₁, moved 0, along⟩
  | succ limit ih =>
    rcases v.2.due_or_late time with ⟨p, next, due⟩ | late
    · rw [Clock.advanceTo?_of_due next due] at advanced
      rcases along.receiveFrom next with ⟨ignored, -⟩ | ⟨first, acted, -⟩
      · obtain ⟨t', moved, along⟩ := ih ignored advanced
        exact ⟨t', Clock.advanceTo?_mono (Nat.le_succ limit) moved, along⟩
      · rw [Clock.advanceTo?_of_due first due]
        exact ih acted advanced
    · obtain ⟨t₁, v₁, moved, moved', along⟩ := along.late late
      obtain rfl := Option.some.inj ((moved' (limit + 1)).symm.trans advanced)
      exact ⟨t₁, moved (limit + 1), along⟩

/-! ### The steps of a host -/

/-- Two results, each of which exists if the other does, and which go along with each other.
The one with the unreliable clock may take more deliveries. -/
structure Agree (f : Nat → Option (Session Clock)) (g : Nat → Option (Session UnreliableClock)) :
    Prop where
  /-- From the reliable clock to the unreliable one. -/
  forward : ∀ limit s, f limit = some s → ∃ m u, g m = some u ∧ Along Clock.Abreast s u
  /-- From the unreliable clock to the reliable one. -/
  backward : ∀ limit u, g limit = some u → ∃ s, f limit = some s ∧ Along Clock.Abreast s u

theorem Along.agree (along : Along Clock.Abreast s u) :
  Agree (fun _ => some s) (fun _ => some u)
  where
  forward := by
    intro _ s' same
    obtain rfl := Option.some.inj same
    exact ⟨0, u, rfl, along⟩
  backward := by
    intro _ u' same
    obtain rfl := Option.some.inj same
    exact ⟨s, rfl, along⟩

theorem Along.agree_advance? (along : Along Clock.Abreast s u) (by_ : Nat) :
  Agree (s.advance? by_) (u.advance? by_)
  := by
  have with_ : AlongWith (s, s.clock) (u, u.clock) := along.behind
  have time : s.clock.now = u.clock.now := along.alike.related.now_eq
  constructor
  · intro limit s' advanced
    obtain ⟨t, moved, rfl⟩ := Option.map_eq_some_iff.mp advanced
    rw [Clock.advance?, time] at moved
    obtain ⟨v, moved', along'⟩ := with_.advanceTo? moved le_rfl
    exact ⟨_, v.1.withClock v.2, Option.map_eq_some_iff.mpr ⟨v, moved', rfl⟩, along'⟩
  · intro limit u' advanced
    obtain ⟨v, moved, rfl⟩ := Option.map_eq_some_iff.mp advanced
    rw [Clock.advance?, ← time] at moved
    obtain ⟨t, moved', along'⟩ := with_.advanceTo?_of_unreliable moved
    exact ⟨t.1.withClock t.2, Option.map_eq_some_iff.mpr ⟨t, moved', rfl⟩, along'⟩

theorem Along.agree_perform? (along : Along Clock.Abreast s u) (step : HostStep) :
  Agree (fun limit => s.perform? limit step) (fun limit => u.perform? limit step)
  := by
  have buffer := along.alike.buffer_eq
  cases step with
  | load => exact (along.update (m := .load) rfl).agree
  | close => exact (along.update (m := .close) rfl).agree
  | advance by_ => exact along.agree_advance? by_
  | edit span text =>
    simp only [perform?, ← buffer]
    cases replaced : s.buffer.replace? span text with
    | none => exact along.agree
    | some result =>
      obtain ⟨edit, b⟩ := result
      exact ((along.replaced replaced).update (m := .edited edit) rfl).agree
  | replace span text =>
    simp only [perform?, ← buffer]
    cases replaced : s.buffer.replace? span text with
    | none => exact along.agree
    | some result => exact (along.replaced replaced).agree

theorem Along.agree_follow? (along : Along Clock.Abreast s u) (steps : List HostStep) :
  Agree (fun limit => s.follow? limit steps) (fun limit => u.follow? limit steps)
  := by
  induction steps generalizing s u with
  | nil => exact along.agree
  | cons step steps ih =>
    obtain ⟨forward, backward⟩ := along.agree_perform? step
    constructor
    · intro limit s' followed
      obtain ⟨next, performed, rest⟩ := Option.bind_eq_some_iff.mp followed
      obtain ⟨m, next', performed', along⟩ := forward limit next performed
      obtain ⟨n, u', rest', along⟩ := (ih along).forward limit s' rest
      exact ⟨max m n, u', follow?_cons performed' rest', along⟩
    · intro limit u' followed
      obtain ⟨next, performed, rest⟩ := Option.bind_eq_some_iff.mp followed
      obtain ⟨next', performed', along⟩ := backward limit next performed
      obtain ⟨s', rest', along⟩ := (ih along).backward limit u' rest
      exact ⟨s', Option.bind_eq_some_iff.mpr ⟨next', performed', rest'⟩, along⟩

/-! ### What can be observed -/

/-- Two sessions that differ only in timers of the unreliable clock that nobody waits for. -/
structure Mirrors (s : Session Clock) (u : Session UnreliableClock) : Prop where
  /-- The coordinators are the same. -/
  coordinator : s.coordinator = u.coordinator
  /-- The buffers are the same. -/
  buffer : s.buffer = u.buffer
  /-- The clocks are the same, but for timers that nobody waits for. -/
  clock : s.clock = { u.clock with
    pending := u.clock.pending.filter fun p => p.awaited ∈ u.awaited }

/-- The reliable clock has exactly the timers that are waited for. -/
theorem Along.pending_eq (along : Along Clock.Abreast s u) :
  s.clock.pending = u.clock.pending.filter fun p => p.awaited ∈ u.awaited
  := by
  have fewer : s.clock.pending.Sublist u.clock.pending := along.alike.related.pending
  have waited : s.clock.pending.map PendingTimer.awaited = u.awaited :=
    along.orderly.pending.trans along.alike.awaited_eq
  have tidy : u.clock.Tidy u.coordinator.generation := along.tidy
  have kept : s.clock.pending.filter (fun p => p.awaited ∈ u.awaited) = s.clock.pending := by
    apply List.filter_eq_self.mpr
    intro p hp
    rw [decide_eq_true_eq, ← waited]
    exact List.mem_map_of_mem hp
  have part := fewer.filter fun p => decide (p.awaited ∈ u.awaited)
  rw [kept] at part
  apply part.eq_of_length_le
  apply (List.subperm_of_subset (tidy.nodup.filter _) _).length_le
  intro q hq
  obtain ⟨old, live⟩ := List.mem_filter.mp hq
  rw [decide_eq_true_eq, ← waited] at live
  obtain ⟨p, hp, same⟩ := List.mem_map.mp live
  obtain rfl := tidy.eq_of_timer (fewer.subset hp) old (congrArg AwaitedTimer.timer same)
  exact hp

theorem Along.mirrors (along : Along Clock.Abreast s u) :
  s.Mirrors u
  where
  coordinator := along.alike.coordinator_eq
  buffer := along.alike.buffer_eq
  clock := by
    have abreast : s.clock.Abreast u.scheduler := along.alike.related
    calc s.clock
      _ = ⟨s.clock.now, s.clock.lastHandle, s.clock.pending⟩ := rfl
      _ = { u.clock with pending := u.clock.pending.filter fun p => p.awaited ∈ u.awaited } := by
        rw [along.pending_eq, abreast.now_eq, abreast.lastHandle]
        rfl

theorem along_opened (style : Style) (settings : Settings) (b : Buffer) (honours : Nat → Bool) :
  Along Clock.Abreast (opened style settings b ({} : Clock))
    (opened style settings b (⟨{}, honours⟩ : UnreliableClock))
  where
  alike := ⟨_, b, ⟨⟨le_rfl, rfl, List.Sublist.refl _⟩, le_rfl⟩, _, _⟩
  orderly := Hosted.orderly (.start rfl rfl rfl rfl)
  tidy := Clock.tidy_of_empty rfl

/-- Whether cancellations are honoured cannot be observed.  After any steps of a host, the
session whose clock honours only some cancellations has the same coordinator and the same
buffer as the one whose clock honours all of them, and the clocks are the same but for timers
that nobody waits for.  The steps come to an end with both clocks or with neither; with both,
as long as the text and all that is inserted have fewer code units than the lines that can be
numbered. -/
theorem follow?_of_unreliable (style : Style) (settings : Settings) (b : Buffer)
    (honours : Nat → Bool) (steps : List HostStep) :
  let reliable := opened style settings b ({} : Clock)
  let unreliable := opened style settings b (⟨{}, honours⟩ : UnreliableClock)
  (∀ limit s, reliable.follow? limit steps = some s →
    ∃ limit' u, unreliable.follow? limit' steps = some u ∧ s.Mirrors u)
  ∧ (∀ limit u, unreliable.follow? limit steps = some u →
    ∃ s, reliable.follow? limit steps = some s ∧ s.Mirrors u)
  ∧ (b.length + (steps.map fun step => units step.inserted).sum < lastLine →
    ∃ limit s, reliable.follow? limit steps = some s)
  := by
  intro reliable unreliable
  have along := along_opened style settings b honours
  obtain ⟨forward, backward⟩ := along.agree_follow? steps
  refine ⟨?_, ?_, ?_⟩
  · intro limit s followed
    obtain ⟨limit', u, followed', along⟩ := forward limit s followed
    exact ⟨limit', u, followed', along.mirrors⟩
  · intro limit u followed
    obtain ⟨s, followed', along⟩ := backward limit u followed
    exact ⟨s, followed', along.mirrors⟩
  · intro small
    obtain ⟨h, tracks⟩ := along.orderly.tracks
    have within : reliable.Within b.length :=
      ⟨_, (Reached.start rfl rfl rfl : reliable.Reached _).tracks, (Buffer.length_eq b).ge, le_rfl⟩
    exact exists_follow? along.orderly within small

/-- Two edits, of which the first sets a timer that the second cancels.  It is delivered all
the same if the clock does not honour the cancellation. -/
theorem follow?_of_unreliable_edits :
  let steps : List HostStep :=
    [.edit ⟨0, 0⟩ "# ".toList, .advance 400, .edit ⟨2, 2⟩ "b".toList, .advance 200]
  let b := Buffer.ofText "a".toList {}
  ∃ limit limit' s u, (opened .standard {} b ({} : Clock)).follow? limit steps = some s
    ∧ (opened .standard {} b (⟨{}, fun _ => false⟩ : UnreliableClock)).follow? limit' steps = some u
    ∧ s.Mirrors u
  := by
  intro steps b
  obtain ⟨forward, -, finish⟩ := follow?_of_unreliable .standard {} b (fun _ => false) steps
  obtain ⟨limit, s, followed⟩ := finish (by decide)
  obtain ⟨limit', u, followed', mirrors⟩ := forward limit s followed
  exact ⟨limit, limit', s, u, followed, followed', mirrors⟩

end Session

end LiveMarkdown
