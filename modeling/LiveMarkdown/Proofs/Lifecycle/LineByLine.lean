import LiveMarkdown.Proofs.Lifecycle.Hosted
import LiveMarkdown.Proofs.Text.Lines

/-!
# Long texts

A long text is styled in groups of lines, and a timer is set for each of them.  While the host
only lets time pass, in whatever steps, every group is styled once and in its turn: the first
one at the time when the text was loaded, and each of the others a pause after the one before
it.  When the last one has been styled the session is idle, and no timer is left.

* The groups of lines are numbered, and there is no group without a line.
* A session that has styled some groups waits for the timer of the next one, and the delivery
  of this timer styles it.
* So is the session after any number of deliveries, and however a host moves its clock.
-/

namespace LiveMarkdown

/-! ### What is seen of deliveries -/

/-- The delivery of a timer. -/
structure Delivery where
  /-- What the timer was for. -/
  kind : TimerKind
  /-- When it was delivered. -/
  time : Nat
  /-- The buffer afterwards. -/
  buffer : Buffer

/-- A session with its clock, and the deliveries that have been seen. -/
abbrev Watched :=
  (List Delivery × Session Clock) × Clock

/-- How a host lets time pass. -/
inductive Passing where
  /-- It moves the clock forward. -/
  | advance (by_ : Nat)
  /-- It lets the clock run until some number of timers was delivered. -/
  | run (limit : Nat)
deriving DecidableEq, Repr

/-- What has been done after some more line passes. -/
def Stats.addLinePasses (stats : Stats) (n : Nat) : Stats :=
  { stats with linePasses := stats.linePasses + n }

namespace Session

/-- Delivers a timer of a clock to a session, and notes it. -/
def watch (timer : Timer) (t : Watched) : Watched :=
  let (s, clock) := receive timer (t.1.2, t.2)
  ((t.1.1 ++ [⟨timer.kind, t.2.now, s.buffer⟩], s), clock)

/-- Lets time pass.  There is no result if the clock is moved forward and more than `limit`
timers are delivered. -/
def pass? (limit : Nat) (t : Watched) : Passing → Option Watched
  | .advance by_ => Clock.advance? watch by_ limit t
  | .run n => some (Clock.run watch n t).2

/-- Lets time pass, and then on. -/
def passAll? (limit : Nat) (t : Watched) : List Passing → Option Watched
  | [] => some t
  | p :: ps => (pass? limit t p).bind fun t => passAll? limit t ps

/-- A session of which nothing has been seen. -/
def watched (s : Session Clock) : Watched :=
  (([], s), s.scheduler)

/-! ### Groups of lines -/

section

variable {σ : Type}

/-- The number of groups of lines that the text of a session has. -/
def groupCount (s : Session σ) : Nat :=
  ((Snapshot.capture s.buffer).lineCount + s.coordinator.linesAtOnce - 1)
    / s.coordinator.linesAtOnce

/-- The lines of a group. -/
def group (s : Session σ) (k : Nat) : Nat × Nat :=
  (k * s.coordinator.linesAtOnce, (k + 1) * s.coordinator.linesAtOnce)

/-- The number of groups of lines that are not empty. -/
def passCount (s : Session σ) : Nat :=
  if isLastLineEmpty s.buffer.chars
      ∧ s.coordinator.linesAtOnce ∣ (Snapshot.capture s.buffer).lineCount - 1 then
    s.groupCount - 1
  else s.groupCount

/-- The buffer of a session when the text was loaded and some groups of lines were styled. -/
def groupsBuffer (s : Session σ) (k : Nat) : Buffer :=
  s.coordinator.style.applyWindows (Snapshot.capture s.buffer)
    (s.coordinator.style.reset s.buffer) ((List.range k).map s.group)

variable (s : Session σ)

/-- A group has a line. -/
theorem lt_groupCount_iff {k : Nat} :
  k < s.groupCount ↔ (s.group k).1 < (Snapshot.capture s.buffer).lineCount
  := by
  have one := linesAtOnce_pos s.coordinator
  rw [groupCount, group, ← Nat.succ_le_iff, Nat.le_div_iff_mul_le one, Nat.succ_mul]
  omega

theorem groupCount_pos :
  0 < s.groupCount
  := by
  rw [lt_groupCount_iff, group, Nat.zero_mul]
  exact OffsetTable.lineCount_pos s.buffer.chars

/-- The last group is a single line if the lines before it are groups. -/
theorem group_eq_last_iff {k : Nat} (last : k + 1 = s.groupCount) :
  (s.group k).1 + 1 = (Snapshot.capture s.buffer).lineCount
    ↔ s.coordinator.linesAtOnce ∣ (Snapshot.capture s.buffer).lineCount - 1
  := by
  have start := (lt_groupCount_iff s (k := k)).mp (by omega)
  have stop := mt (lt_groupCount_iff s (k := k + 1)).mpr (by omega)
  simp only [group] at start stop ⊢
  constructor
  · intro single
    exact ⟨k, by rw [← single, Nat.add_sub_cancel, Nat.mul_comm]⟩
  · rintro ⟨j, groups⟩
    rw [Nat.mul_comm] at groups
    have after : k ≤ j := by
      apply Nat.le_of_mul_le_mul_right _ (linesAtOnce_pos s.coordinator)
      omega
    have before : j < k + 1 := by
      apply Nat.lt_of_mul_lt_mul_right (a := s.coordinator.linesAtOnce)
      omega
    obtain rfl : j = k := by omega
    omega

theorem groupsBuffer_succ (k : Nat) :
  s.groupsBuffer (k + 1) = s.coordinator.style.applyLines (Snapshot.capture s.buffer)
    (s.groupsBuffer k) (s.group k).1 (s.group k).2
  := by
  rw [groupsBuffer, groupsBuffer, List.range_succ, List.map_append, Style.applyWindows,
    List.foldl_append]
  rfl

theorem version_groupsBuffer (k : Nat) :
  (s.groupsBuffer k).version = s.buffer.version
  := by
  rw [groupsBuffer, Style.version_applyWindows, Style.version_reset]

end

/-! ### The next group -/

/-- A session that has styled some groups of lines of a text, after which comes another one. -/
structure Reaches (s : Session Clock) (k : Nat) (q : Session Clock) : Prop where
  /-- The style is the same. -/
  style : q.coordinator.style = s.coordinator.style
  /-- The settings are the same. -/
  settings : q.coordinator.settings = s.coordinator.settings
  /-- Each of the groups was one more line pass. -/
  stats : q.coordinator.stats = s.coordinator.stats.addLinePasses k
  /-- The session does not wait for a pause. -/
  debounce : q.coordinator.debounce = none
  /-- The groups have been styled. -/
  buffer : q.buffer = s.groupsBuffer k

/-- The text of a session whose next lines are those of a group. -/
def loadingAt (s : Session Clock) (k : Nat) (awaited : AwaitedTimer) : Loading :=
  ⟨Snapshot.capture s.buffer, (s.group k).1, awaited⟩

section

variable {s q : Session Clock} {k : Nat} {a : AwaitedTimer}

/-- The lines that are styled next are those of the group, except that the number of the last
one may be greater than any number of a line. -/
theorem Reaches.nextStop (reaches : s.Reaches k q) :
  q.nextStop (s.loadingAt k a) = min (s.group k).2 lastLine
  := by
  rw [Session.nextStop, loadingAt, group, Nat.succ_mul]
  simp only [Coordinator.linesAtOnce, reaches.settings]

theorem Reaches.applyLines?_nextStop (reaches : s.Reaches k q) (left : k < s.groupCount)
    (few : (Snapshot.capture s.buffer).lineCount ≤ lastLine) :
  q.coordinator.style.applyLines? q.buffer (Snapshot.capture s.buffer) (s.group k).1
      (q.nextStop (s.loadingAt k a))
    = s.coordinator.style.applyLines? (s.groupsBuffer k) (Snapshot.capture s.buffer) (s.group k).1
      (s.group k).2
  := by
  rw [reaches.nextStop, reaches.style, reaches.buffer]
  rcases Nat.lt_or_ge (s.group k).2 (Snapshot.capture s.buffer).lineCount with more | last
  · rw [Nat.min_eq_left (by omega)]
  · apply Style.applyLines?_of_lineCount_le (s.version_groupsBuffer k)
    · exact (lt_groupCount_iff s).mp left
    · exact le_min last few
    · exact last

theorem Reaches.nextBuffer (reaches : s.Reaches k q) (left : k < s.groupCount)
    (few : (Snapshot.capture s.buffer).lineCount ≤ lastLine) :
  q.nextBuffer (s.loadingAt k a) = s.groupsBuffer (k + 1)
  := by
  have same := reaches.applyLines?_nextStop (a := a) left few
  rw [groupsBuffer_succ, Session.nextBuffer, Style.applyLines, Style.applyLines, ← same,
    reaches.buffer]
  rfl

/-- The group is one more line pass, unless it is the last line and nothing stands on it. -/
theorem Reaches.nextStats (reaches : s.Reaches k q) (left : k < s.groupCount)
    (few : (Snapshot.capture s.buffer).lineCount ≤ lastLine) :
  q.nextStats (s.loadingAt k a)
    = if (s.group k).1 + 1 = (Snapshot.capture s.buffer).lineCount
          ∧ isLastLineEmpty s.buffer.chars then
        s.coordinator.stats.addLinePasses k
      else s.coordinator.stats.addLinePasses (k + 1)
  := by
  have same := reaches.applyLines?_nextStop (a := a) left few
  have one := linesAtOnce_pos s.coordinator
  have start := (lt_groupCount_iff s).mp left
  have order : (s.group k).1 < (s.group k).2 := by
    rw [group, Nat.succ_mul]
    omega
  have somewhere : Style.lineOffset s.buffer.chars (s.group k).1
      < Style.lineOffset s.buffer.chars (s.group k).2
      ↔ ¬ ((s.group k).1 + 1 = (Snapshot.capture s.buffer).lineCount
        ∧ isLastLineEmpty s.buffer.chars) :=
    OffsetTable.lineOffset_lt_iff start order
  have lines : s.coordinator.style.applyLines? (s.groupsBuffer k) (Snapshot.capture s.buffer)
      (s.group k).1 (s.group k).2 = if _ then some _ else none :=
    Style.applyLines?_ofText (s.version_groupsBuffer k) start order
  rw [Session.nextStats]
  change (if (q.coordinator.style.applyLines? q.buffer (Snapshot.capture s.buffer) (s.group k).1
    (q.nextStop (s.loadingAt k a))).isSome then _ else _) = _
  rw [same, lines, reaches.stats]
  by_cases empty : (s.group k).1 + 1 = (Snapshot.capture s.buffer).lineCount
      ∧ isLastLineEmpty s.buffer.chars
  · rw [if_neg (mt somewhere.mp (not_not_intro empty)), if_pos empty]
    rfl
  · rw [if_pos (somewhere.mpr empty), if_neg empty]
    rfl

theorem Reaches.isOf (reaches : s.Reaches k q) :
  (s.loadingAt k a).snapshot.isOf q.buffer
  := by
  rw [reaches.buffer]
  exact Style.isOf_ofText (s.version_groupsBuffer k)

/-- A group of lines is styled after which comes another one. -/
theorem Reaches.nextLines_of_more (reaches : s.Reaches k q) (more : k + 1 < s.groupCount)
    (few : (Snapshot.capture s.buffer).lineCount ≤ lastLine) :
  ∃ log, q.nextLines (s.loadingAt k a)
    = q.asLoading (s.groupsBuffer (k + 1)) q.scheduler s.coordinator.settings.linePause
      (Snapshot.capture s.buffer) (s.group (k + 1)).1
      (s.coordinator.stats.addLinePasses (k + 1)) log
  := by
  have left : k < s.groupCount := Nat.lt_of_succ_lt more
  have below : (s.group k).2 < (Snapshot.capture s.buffer).lineCount :=
    (lt_groupCount_iff s).mp more
  have stop : q.nextStop (s.loadingAt k a) = (s.group (k + 1)).1 := by
    rw [reaches.nextStop]
    exact Nat.min_eq_left (below.le.trans few)
  have stats : q.nextStats (s.loadingAt k a) = s.coordinator.stats.addLinePasses (k + 1) := by
    rw [reaches.nextStats left few, if_neg]
    rintro ⟨single, -⟩
    have one := linesAtOnce_pos s.coordinator
    simp only [group, Nat.succ_mul] at below single
    omega
  have before : ¬ (s.loadingAt k a).snapshot.lineCount ≤ q.nextStop (s.loadingAt k a) := by
    rw [stop]
    exact Nat.not_le.mpr below
  obtain ⟨log, styled⟩ := Session.nextLines_of_more reaches.isOf before reaches.debounce
  rw [reaches.nextBuffer left few, stop, stats, reaches.settings] at styled
  exact ⟨log, styled⟩

/-- The last group of lines is styled. -/
theorem Reaches.nextLines_of_last (reaches : s.Reaches k q) (last : k + 1 = s.groupCount)
    (few : (Snapshot.capture s.buffer).lineCount ≤ lastLine) :
  ∃ log, q.nextLines (s.loadingAt k a)
    = q.asIdle (s.groupsBuffer s.groupCount) q.scheduler
      (s.coordinator.stats.addLinePasses s.passCount) log
  := by
  have left : k < s.groupCount := Nat.lt_of_succ_le last.le
  have all : (s.loadingAt k a).snapshot.lineCount ≤ q.nextStop (s.loadingAt k a) := by
    rw [reaches.nextStop]
    exact le_min (Nat.le_of_not_lt (mt (lt_groupCount_iff s).mpr last.not_lt)) few
  have stats : q.nextStats (s.loadingAt k a) = s.coordinator.stats.addLinePasses s.passCount := by
    rw [reaches.nextStats left few, passCount, ← last]
    simp only [group_eq_last_iff s last, and_comm]
    split <;> rfl
  obtain ⟨log, styled⟩ := Session.nextLines_of_last reaches.isOf all reaches.debounce
  rw [reaches.nextBuffer left few, stats, last] at styled
  exact ⟨log, styled⟩

end

/-! ### The clock -/

section

variable (s : Session Clock)

/-- What is seen until some groups of lines have been styled: for each of them the delivery of a
timer, the first one at the time of the session and each of the others a pause after the one
before it. -/
def deliveries (k : Nat) : List Delivery :=
  (List.range k).map fun j =>
    ⟨.nextLines, s.scheduler.now + j * s.coordinator.settings.linePause, s.groupsBuffer (j + 1)⟩

/-- A session that waits for the timer of a group of lines, which is the only one that is
pending. -/
structure Ongoing (k : Nat) (t : Watched) : Prop where
  /-- What has been seen. -/
  seen : t.1.1 = s.deliveries k
  /-- The groups before have been styled. -/
  reaches : s.Reaches k t.1.2
  /-- The timer. -/
  timer : ∃ p, t.1.2.coordinator.loading = some (s.loadingAt k p.awaited)
    ∧ p.timer.kind = .nextLines
    ∧ p.due = s.scheduler.now + k * s.coordinator.settings.linePause
    ∧ t.2.pending = [p] ∧ t.2.now ≤ p.due

/-- A session that has styled all groups of lines. -/
structure Finished (t : Watched) : Prop where
  /-- What has been seen. -/
  seen : t.1.1 = s.deliveries s.groupCount
  /-- The session is idle. -/
  state : t.1.2.coordinator.state = .idle
  /-- The groups that are not empty were counted. -/
  stats : t.1.2.coordinator.stats = s.coordinator.stats.addLinePasses s.passCount
  /-- All groups have been styled. -/
  buffer : t.1.2.buffer = s.groupsBuffer s.groupCount
  /-- No timer is left. -/
  pending : t.2.pending = []

/-- A session that has styled some groups of lines. -/
def Stage (k : Nat) (t : Watched) : Prop :=
  (k < s.groupCount ∧ s.Ongoing k t) ∨ (k = s.groupCount ∧ s.Finished t)

end

variable {s : Session Clock} {k : Nat} {t : Watched}

/-- A timer that is set while none is pending is the only one. -/
theorem pending_schedule {c : Clock} (empty : c.pending = []) (delay : Nat) (timer : Timer) :
  (c.schedule delay timer).2.pending = [⟨c.lastHandle + 1, c.now + delay, timer⟩]
  := by
  rw [Clock.schedule, empty]
  rfl

/-- A session that sets the timer for a group of lines. -/
theorem ongoing_asLoading {q : Session Clock} {base : Clock} {delay : Nat}
    (style : q.coordinator.style = s.coordinator.style)
    (settings : q.coordinator.settings = s.coordinator.settings) (empty : base.pending = [])
    (due : base.now + delay = s.scheduler.now + k * s.coordinator.settings.linePause)
    (log : Array Happening) :
  let after := q.asLoading (s.groupsBuffer k) base delay (Snapshot.capture s.buffer) (s.group k).1
    (s.coordinator.stats.addLinePasses k) log
  s.Ongoing k ((s.deliveries k, after), after.scheduler)
  where
  seen := rfl
  reaches := ⟨style, settings, rfl, rfl, rfl⟩
  timer := ⟨_, rfl, rfl, due, pending_schedule empty _ _, Nat.le_add_right _ _⟩

/-- The delivery of the timer of a group of lines styles the group. -/
theorem Ongoing.delivered (ongoing : s.Ongoing k t) (left : k < s.groupCount)
    (few : (Snapshot.capture s.buffer).lineCount ≤ lastLine) :
  ∃ p, t.2.next? = some p ∧ s.Stage (k + 1) (watch p.timer (t.1, t.2.deliver p))
  := by
  obtain ⟨seen, reaches, p, loading, kind, due, pending, ahead⟩ := ongoing
  have next : t.2.next? = some p := by
    rw [Clock.next?, pending]
    rfl
  have now : (t.2.deliver p).now = p.due := Nat.max_eq_right ahead
  have empty : (t.2.deliver p).pending = [] := Clock.pending_deliver pending
  let q := { t.1.2 with scheduler := t.2.deliver p }
  have reaches : s.Reaches k q :=
    ⟨reaches.style, reaches.settings, reaches.stats, reaches.debounce, reaches.buffer⟩
  have lines : q.delivered p.timer = q.nextLines (s.loadingAt k p.awaited) :=
    delivered_of_lines (s := q) loading kind
  have observed : watch p.timer (t.1, t.2.deliver p)
      = ((s.deliveries k ++ [⟨.nextLines, s.scheduler.now + k * s.coordinator.settings.linePause,
        (q.delivered p.timer).buffer⟩], q.delivered p.timer), (q.delivered p.timer).scheduler) := by
    rw [← seen, ← due, ← now, ← kind]
    rfl
  have seen : s.deliveries (k + 1) = s.deliveries k
      ++ [⟨.nextLines, s.scheduler.now + k * s.coordinator.settings.linePause,
        s.groupsBuffer (k + 1)⟩] := by
    rw [deliveries, List.range_succ, List.map_append]
    rfl
  use p, next
  by_cases more : k + 1 < s.groupCount
  · obtain ⟨log, styled⟩ := reaches.nextLines_of_more (a := p.awaited) more few
    have time : (t.2.deliver p).now + s.coordinator.settings.linePause
        = s.scheduler.now + (k + 1) * s.coordinator.settings.linePause := by
      rw [now, due, Nat.succ_mul, Nat.add_assoc]
    have ongoing := ongoing_asLoading reaches.style reaches.settings empty time log
    rw [seen] at ongoing
    rw [observed, lines, styled]
    exact .inl ⟨more, ongoing⟩
  · have last : k + 1 = s.groupCount := by omega
    obtain ⟨log, styled⟩ := reaches.nextLines_of_last (a := p.awaited) last few
    rw [last] at seen ⊢
    rw [observed, lines, styled]
    exact .inr ⟨rfl, seen.symm, rfl, rfl, rfl, empty⟩

/-- A session that has just loaded a long text waits for the timer of the first group. -/
theorem stage_load (long : s.coordinator.settings.longText ≤ s.buffer.length)
    (alone : s.load.scheduler.pending.length = 1) :
  s.Stage 0 s.load.watched
  := by
  obtain ⟨log, load⟩ := load_of_long (Nat.not_lt.mpr long)
  have empty : s.unscheduled.pending = [] := by
    rw [load] at alone
    change (s.unscheduled.pending ++ [_]).length = 1 at alone
    rw [List.length_append, List.length_singleton] at alone
    exact List.eq_nil_of_length_eq_zero (Nat.succ.inj alone)
  have due : s.unscheduled.now + 0 = s.scheduler.now + 0 * s.coordinator.settings.linePause := by
    rw [now_unscheduled, Nat.zero_mul]
  have start : (s.group 0).1 = 0 := Nat.zero_mul _
  have ongoing := ongoing_asLoading (s := s) (q := s) (k := 0) rfl rfl empty due log
  rw [start] at ongoing
  rw [watched, load]
  exact .inl ⟨groupCount_pos s, ongoing⟩

/-- Time passes until the timer of the next group is due. -/
theorem Stage.waited (stage : s.Stage k t) {time : Nat} (late : ∀ q ∈ t.2.pending, time < q.due) :
  s.Stage k (t.1, { t.2 with now := time })
  := by
  rcases stage with ⟨left, seen, reaches, p, loading, kind, due, pending, ahead⟩ | ⟨last, finished⟩
  · have before : time < p.due := by
      apply late p
      rw [pending]
      exact List.mem_singleton_self p
    exact .inl ⟨left, seen, reaches, p, loading, kind, due, pending, before.le⟩
  · obtain ⟨seen, state, stats, buffer, pending⟩ := finished
    exact .inr ⟨last, seen, state, stats, buffer, pending⟩

/-- The next timer is the one of the next group. -/
theorem Stage.delivered (stage : s.Stage k t) {p : PendingTimer} (next : t.2.next? = some p)
    (few : (Snapshot.capture s.buffer).lineCount ≤ lastLine) :
  k < s.groupCount ∧ s.Stage (k + 1) (watch p.timer (t.1, t.2.deliver p))
  := by
  rcases stage with ⟨left, ongoing⟩ | ⟨last, finished⟩
  · obtain ⟨q, first, after⟩ := ongoing.delivered left few
    obtain rfl := Option.some.inj (next.symm.trans first)
    exact ⟨left, after⟩
  · have none := Clock.next?_eq_none_iff.mpr finished.pending
    rw [next] at none
    cases none

theorem Stage.length_seen (stage : s.Stage k t) :
  t.1.1.length = k
  := by
  have seen : t.1.1 = s.deliveries k := by
    rcases stage with ⟨-, ongoing⟩ | ⟨rfl, finished⟩
    · exact ongoing.seen
    · exact finished.seen
  rw [seen, deliveries, List.length_map, List.length_range]

/-- When no timer is left, all groups have been styled. -/
theorem Stage.finished (stage : s.Stage k t) (none : t.2.pending = []) :
  k = s.groupCount ∧ s.Finished t
  := by
  rcases stage with ⟨left, ongoing⟩ | finished
  · obtain ⟨p, -, -, -, pending, -⟩ := ongoing.timer
    rw [none] at pending
    cases pending
  · exact finished

/-- When all groups have been styled, no timer is left. -/
theorem Stage.pending (stage : s.Stage k t) (all : s.groupCount ≤ k) :
  t.2.pending = []
  := by
  rcases stage with ⟨left, -⟩ | ⟨-, finished⟩
  · omega
  · exact finished.pending

/-- A clock is moved by as many deliveries at most as there are groups left. -/
theorem Stage.exists_advanceTo? (stage : s.Stage k t)
    (few : (Snapshot.capture s.buffer).lineCount ≤ lastLine) (time : Nat) {limit : Nat}
    (enough : s.groupCount ≤ k + limit) :
  ∃ k' t', Clock.advanceTo? watch time limit t = some t' ∧ k ≤ k' ∧ s.Stage k' t'
  := by
  -- a delivery takes one from the limit and one from the number of groups that are left
  induction limit generalizing k t with
  | zero =>
    rcases t.2.due_or_late time with ⟨p, next, due⟩ | late
    · have left := (stage.delivered next few).1
      omega
    · exact ⟨k, _, Clock.advanceTo?_of_late late, le_rfl, stage.waited late⟩
  | succ limit ih =>
    rcases t.2.due_or_late time with ⟨p, next, due⟩ | late
    · obtain ⟨k', t', advanced, order, after⟩ :=
        ih (stage.delivered next few).2 (by omega)
      rw [Clock.advanceTo?_of_due next due]
      exact ⟨k', t', advanced, Nat.le_of_succ_le order, after⟩
    · exact ⟨k, _, Clock.advanceTo?_of_late late, le_rfl, stage.waited late⟩

/-- A clock that runs delivers the timers of the groups that are left. -/
theorem Stage.run (stage : s.Stage k t) (few : (Snapshot.capture s.buffer).lineCount ≤ lastLine)
    (limit : Nat) :
  let ran := Clock.run watch limit t
  ran.1 = min limit (s.groupCount - k) ∧ s.Stage (k + ran.1) ran.2
  := by
  induction limit generalizing k t with
  | zero => exact ⟨(Nat.zero_min _).symm, stage⟩
  | succ limit ih =>
    rw [Clock.run]
    cases next : t.2.next? with
    | none =>
      obtain ⟨last, -⟩ := stage.finished (Clock.next?_eq_none_iff.mp next)
      exact ⟨by simp [last], stage⟩
    | some p =>
      obtain ⟨left, after⟩ := stage.delivered next few
      obtain ⟨count, rest⟩ := ih after
      dsimp only
      rw [Nat.add_right_comm] at rest
      exact ⟨by omega, rest⟩

/-- However time passes, the groups are styled in their turn. -/
theorem Stage.exists_passAll? (stage : s.Stage k t)
    (few : (Snapshot.capture s.buffer).lineCount ≤ lastLine) {limit : Nat}
    (enough : s.groupCount ≤ limit) (ps : List Passing) :
  ∃ k' t', passAll? limit t ps = some t' ∧ s.Stage k' t'
  := by
  induction ps generalizing k t with
  | nil => exact ⟨k, t, rfl, stage⟩
  | cons p ps ih =>
    obtain ⟨k', t', passed, after⟩ : ∃ k' t', pass? limit t p = some t' ∧ s.Stage k' t' := by
      cases p with
      | advance by_ =>
        obtain ⟨k', t', advanced, -, after⟩ :=
          stage.exists_advanceTo? few (t.2.now + by_) (Nat.le_add_left_of_le enough)
        exact ⟨k', t', advanced, after⟩
      | run n => exact ⟨_, _, rfl, (stage.run few n).2⟩
    rw [passAll?, passed]
    exact ih after

/-- When a long text was loaded and no other timer is pending, the clock may be moved and run as
the host likes.  Once no timer is left, each group of lines was styled once and in its turn, when
the timer for it was due: the first one at the time of the session, and each of the others a pause
after the one before it.  The session is idle then, and it has counted the groups that are not
empty as line passes, and nothing else.  No timer is left if the clock is run, and then as many
are delivered as there are groups that have not been styled.  The text must not have more lines
than there are numbers for them. -/
theorem passAll?_load_of_long (s : Session Clock)
    (long : s.coordinator.settings.longText ≤ s.buffer.length)
    (alone : s.load.scheduler.pending.length = 1)
    (few : (Snapshot.capture s.buffer).lineCount ≤ lastLine) {limit : Nat}
    (enough : s.groupCount ≤ limit) (ps : List Passing) :
  ∃ seen after clock, passAll? limit s.load.watched ps = some ((seen, after), clock)
    ∧ (clock.pending = [] → seen = s.deliveries s.groupCount
      ∧ after.coordinator.state = .idle
      ∧ after.coordinator.stats = s.coordinator.stats.addLinePasses s.passCount
      ∧ after.buffer = s.groupsBuffer s.groupCount)
    ∧ ∃ rest, Clock.run watch limit ((seen, after), clock) = (s.groupCount - seen.length, rest)
      ∧ rest.2.pending = []
  := by
  obtain ⟨k, ⟨⟨seen, after⟩, clock⟩, passed, stage⟩ :=
    (stage_load long alone).exists_passAll? few enough ps
  have length : seen.length = k := stage.length_seen
  obtain ⟨count, ran⟩ := stage.run few limit
  have all : (Clock.run watch limit ((seen, after), clock)).1 = s.groupCount - seen.length := by
    rw [count, length]
    omega
  refine ⟨seen, after, clock, passed, ?_, (Clock.run watch limit ((seen, after), clock)).2, ?_, ?_⟩
  · intro none
    obtain ⟨-, finished⟩ := stage.finished none
    exact ⟨finished.seen, finished.state, finished.stats, finished.buffer⟩
  · rw [← all]
  · apply ran.pending
    rw [all, length]
    omega

/-- A heading and a line of text, after which comes an empty line.  The clock is moved to the
timer of the second line, and then it is run. -/
theorem passAll?_load_of_long_heading :
  let s := ofText .standard { longText := 0, linesAtOnce := 1 } "# a\nb\n".toList ({} : Clock)
  ∃ seen after clock, passAll? 3 s.load.watched [.advance 15, .run 1] = some ((seen, after), clock)
    ∧ seen.map Delivery.time = [0, 10, 20]
    ∧ after.coordinator.state = .idle
    ∧ after.coordinator.stats.linePasses = 2
  := by
  intro s
  have alone : s.load.scheduler.pending.length = 1 := by decide +kernel
  have few : (Snapshot.capture s.buffer).lineCount ≤ lastLine := by decide +kernel
  have enough : s.groupCount ≤ 3 := by decide +kernel
  obtain ⟨seen, after, clock, passed, finished, -⟩ :=
    passAll?_load_of_long s (Nat.zero_le _) alone few enough [.advance 15, .run 1]
  have none : (passAll? 3 s.load.watched [.advance 15, .run 1]).map (fun t => t.2.pending)
      = some [] := by
    decide +kernel
  rw [passed] at none
  obtain ⟨rfl, state, stats, -⟩ := finished (Option.some.inj none)
  refine ⟨_, after, clock, passed, ?_, state, ?_⟩
  · decide +kernel
  · rw [stats]
    decide +kernel

end Session

end LiveMarkdown
