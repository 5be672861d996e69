import LiveMarkdown.Proofs.Lifecycle.Chronicle
import Mathlib.Data.List.Nodup
import Mathlib.Data.List.Perm.Basic

/-!
# The life of a timer

A timer that was set is pending, was delivered once, or was cancelled before that.  Deliveries
are made when they are due, in the order of what is due and was set first, also across several
moves of the clock: no pending timer is due in the past, and a timer that is set when others have
been delivered comes after all of them.
-/

namespace LiveMarkdown

variable {α : Type}

/-! ### What is not due -/

namespace Clock

variable {c : Clock} {p : PendingTimer} {time : Nat}

theorem lt_due_of_none (empty : c.next? = none) (time : Nat) :
  ∀ q ∈ c.pending, time < q.due
  := by
  rw [next?_eq_none_iff.mp empty]
  intro q hq
  cases hq

theorem lt_due_of_late (next : c.next? = some p) (late : ¬ p.due ≤ time) :
  ∀ q ∈ c.pending, time < q.due
  := by
  intro q hq
  exact Nat.lt_of_lt_of_le (Nat.lt_of_not_le late) (due_le_of_next? next hq)

end Clock

/-! ### What holds at every moment -/

/-- The record of a moment is in order. -/
structure Moment.IsSound (m : Moment) : Prop where
  /-- No handle is given out twice. -/
  handles : m.set.Pairwise fun p q => p.handle < q.handle
  /-- The handles have been given out. -/
  given : ∀ p ∈ m.set, p.handle ≤ m.clock.lastHandle
  /-- What was set is pending, was delivered or was cancelled. -/
  parts : (m.clock.pending ++ (m.fired.map (·.entry) ++ m.cancelled)).Perm m.set
  /-- No pending timer was due before. -/
  late : ∀ p ∈ m.clock.pending, m.clock.now ≤ p.due
  /-- Deliveries are made in order. -/
  order : (m.fired.map (·.entry)).Pairwise fun p q => p.isBefore q
  /-- What is pending comes after what was delivered. -/
  after : ∀ f ∈ m.fired, ∀ q ∈ m.clock.pending, f.entry.isBefore q
  /-- Each delivery is made when it is due. -/
  onTime : ∀ f ∈ m.fired, f.time = f.entry.due
  /-- Deliveries are not made in the future. -/
  past : ∀ f ∈ m.fired, f.time ≤ m.clock.now

/-- What a later moment keeps of an earlier one. -/
structure Moment.Precedes (m m' : Moment) : Prop where
  /-- The clock does not go back. -/
  now : m.clock.now ≤ m'.clock.now
  /-- What was set was set. -/
  set : m.set <+: m'.set
  /-- What was delivered was delivered. -/
  fired : m.fired <+: m'.fired
  /-- What was cancelled was cancelled. -/
  cancelled : m.cancelled <+: m'.cancelled

namespace Moment

variable {m m' m'' : Moment}

theorem Precedes.trans (first : m.Precedes m') (second : m'.Precedes m'') :
  m.Precedes m''
  where
  now := Nat.le_trans first.now second.now
  set := first.set.trans second.set
  fired := first.fired.trans second.fired
  cancelled := first.cancelled.trans second.cancelled

/-- The timers with a handle, and the others. -/
theorem filter_append_filter_perm (ps : List PendingTimer) (handle : Nat) :
  (ps.filter (·.handle ≠ handle) ++ ps.filter (·.handle = handle)).Perm ps
  := by
  have split := List.filter_append_perm (fun p : PendingTimer => decide (p.handle ≠ handle)) ps
  simpa using split

theorem filter_handle_of_distinct {ps : List PendingTimer}
    (distinct : ps.Pairwise fun p q => p.handle ≠ q.handle) {p : PendingTimer} (hp : p ∈ ps) :
  ps.filter (·.handle = p.handle) = [p]
  := by
  induction ps with
  | nil => cases hp
  | cons q ps ih =>
    obtain ⟨first, rest⟩ := List.pairwise_cons.mp distinct
    rcases List.mem_cons.mp hp with rfl | hp
    · rw [List.filter_cons_of_pos (by simp)]
      congr 1
      apply List.filter_eq_nil_iff.mpr
      intro r hr
      simpa using (first r hr).symm
    · rw [List.filter_cons_of_neg (by simpa using first p hp)]
      exact ih rest hp

theorem isSound_start :
  ({} : Moment).IsSound
  := by
  constructor
  case parts => exact List.Perm.refl []
  case handles => exact List.Pairwise.nil
  case order => exact List.Pairwise.nil
  all_goals
    intro p hp
    cases hp

namespace IsSound

variable (sound : m.IsSound)
include sound

theorem nodup :
  m.set.Nodup
  := by
  apply sound.handles.imp
  rintro p q less rfl
  exact Nat.lt_irrefl _ less

/-- A timer that was set is in exactly one of its places, once. -/
theorem count_eq_one {p : PendingTimer} (hp : p ∈ m.set) :
  m.clock.pending.count p + (m.fired.map (·.entry)).count p + m.cancelled.count p = 1
  := by
  have total := sound.parts.count_eq p
  rw [List.count_append, List.count_append, List.count_eq_one_of_mem sound.nodup hp] at total
  omega

theorem mem_set_of_fired {f : Firing} (hf : f ∈ m.fired) :
  f.entry ∈ m.set
  := by
  apply sound.parts.subset
  apply List.mem_append_right
  apply List.mem_append_left
  exact List.mem_map_of_mem hf

theorem schedule (delay : Nat) (timer : Timer) :
  (m.call (.schedule delay timer)).IsSound
  := by
  constructor
  case handles =>
    apply List.pairwise_append.mpr
    refine ⟨sound.handles, List.pairwise_singleton _ _, ?_⟩
    intro p hp q hq
    obtain rfl := List.mem_singleton.mp hq
    exact Nat.lt_succ_of_le (sound.given p hp)
  case given =>
    intro p hp
    rcases List.mem_append.mp hp with hp | hp
    · exact Nat.le_succ_of_le (sound.given p hp)
    · obtain rfl := List.mem_singleton.mp hp
      exact Nat.le_refl _
  case parts =>
    change ((m.clock.pending ++ [_]) ++ _).Perm (m.set ++ [_])
    rw [List.append_assoc]
    apply (List.Perm.append_left _ List.perm_append_comm).trans
    rw [← List.append_assoc]
    exact sound.parts.append_right _
  case late =>
    intro p hp
    rcases List.mem_append.mp hp with hp | hp
    · exact sound.late p hp
    · obtain rfl := List.mem_singleton.mp hp
      exact Nat.le_add_right _ _
  case order => exact sound.order
  case after =>
    intro f hf q hq
    rcases List.mem_append.mp hq with hq | hq
    · exact sound.after f hf q hq
    · -- It is due now at the earliest, and its handle is new.
      obtain rfl := List.mem_singleton.mp hq
      have handle := sound.given _ (sound.mem_set_of_fired hf)
      have due := sound.onTime f hf
      have past := sound.past f hf
      rw [PendingTimer.isBefore_iff]
      change _ < m.clock.now + delay ∨ _ = m.clock.now + delay ∧ _ < m.clock.lastHandle + 1
      omega
  case onTime => exact sound.onTime
  case past => exact sound.past

/-- Timers that leave the pending ones for another place. -/
theorem perm_of_removed {kept removed gone : List PendingTimer}
    (split : (kept ++ removed).Perm m.clock.pending)
    (moved : gone.Perm (removed ++ (m.fired.map (·.entry) ++ m.cancelled))) :
  (kept ++ gone).Perm m.set
  := by
  apply (moved.append_left kept).trans
  rw [← List.append_assoc]
  exact (split.append_right _).trans sound.parts

theorem cancel (handle : Nat) :
  (m.call (.cancel handle)).IsSound
  := by
  have kept {p : PendingTimer} (hp : p ∈ (m.call (.cancel handle)).clock.pending) :
      p ∈ m.clock.pending := List.mem_of_mem_filter hp
  constructor
  case handles => exact sound.handles
  case given => exact sound.given
  case parts =>
    apply sound.perm_of_removed (filter_append_filter_perm m.clock.pending handle)
    have comm := @List.perm_append_comm _ (m.fired.map (·.entry) ++ m.cancelled)
      (m.clock.pending.filter (·.handle = handle))
    rw [List.append_assoc] at comm
    exact comm
  case late =>
    intro p hp
    exact sound.late p (kept hp)
  case order => exact sound.order
  case after =>
    intro f hf q hq
    exact sound.after f hf q (kept hq)
  case onTime => exact sound.onTime
  case past => exact sound.past

/-- The timer that is pending with a handle. -/
theorem filter_handle {p : PendingTimer} (hp : p ∈ m.clock.pending) :
  m.clock.pending.filter (·.handle = p.handle) = [p]
  := by
  apply filter_handle_of_distinct _ hp
  have distinct : m.set.Pairwise fun p q => p.handle ≠ q.handle :=
    sound.handles.imp fun less => Nat.ne_of_lt less
  have all := (sound.parts.pairwise_iff fun differ => Ne.symm differ).mpr distinct
  exact (List.pairwise_append.mp all).1

/-- The delivery of the next timer. -/
theorem deliver {p : PendingTimer} (next : m.clock.next? = some p) :
  (m.deliver p).IsSound ∧ (m.deliver p).clock.now = p.due
  := by
  obtain ⟨hp, first⟩ := Clock.next?_spec next
  have now : (m.deliver p).clock.now = p.due := Nat.max_eq_right (sound.late p hp)
  have kept {q : PendingTimer} (hq : q ∈ (m.deliver p).clock.pending) :
      q ∈ m.clock.pending ∧ q.handle ≠ p.handle := by
    simpa [Moment.deliver, Clock.deliver] using hq
  refine ⟨?_, now⟩
  constructor
  case handles => exact sound.handles
  case given => exact sound.given
  case parts =>
    have split := filter_append_filter_perm m.clock.pending p.handle
    rw [sound.filter_handle hp] at split
    apply sound.perm_of_removed split
    rw [Moment.deliver, List.map_append, List.append_assoc]
    exact List.perm_middle
  case late =>
    intro q hq
    rw [now]
    exact Clock.due_le_of_next? next (kept hq).1
  case order =>
    rw [Moment.deliver, List.map_append]
    apply List.pairwise_append.mpr
    refine ⟨sound.order, List.pairwise_singleton _ _, ?_⟩
    intro q hq r hr
    obtain ⟨f, hf, rfl⟩ := List.mem_map.mp hq
    rw [List.mem_singleton.mp hr]
    exact sound.after f hf p hp
  case after =>
    intro f hf q hq
    obtain ⟨pending, other⟩ := kept hq
    rcases List.mem_append.mp hf with hf | hf
    · exact sound.after f hf q pending
    · obtain rfl := List.mem_singleton.mp hf
      have later := first q pending
      rw [PendingTimer.isBefore_iff] at later ⊢
      dsimp only
      omega
  case onTime =>
    intro f hf
    rcases List.mem_append.mp hf with hf | hf
    · exact sound.onTime f hf
    · obtain rfl := List.mem_singleton.mp hf
      exact now
  case past =>
    intro f hf
    rcases List.mem_append.mp hf with hf | hf
    · exact Nat.le_trans (sound.past f hf) (Nat.le_max_left ..)
    · obtain rfl := List.mem_singleton.mp hf
      exact Nat.le_refl _

/-- The passing of time up to when no timer has been due. -/
theorem wait {time : Nat} (later : m.clock.now ≤ time) (late : ∀ p ∈ m.clock.pending, time < p.due) :
  (m.wait time).IsSound
  where
  handles := sound.handles
  given := sound.given
  parts := sound.parts
  late p hp := Nat.le_of_lt (late p hp)
  order := sound.order
  after := sound.after
  onTime := sound.onTime
  past f hf := Nat.le_trans (sound.past f hf) later

end IsSound

/-! ### One moment after the other -/

theorem precedes_call (m : Moment) (c : Call) :
  m.Precedes (m.call c)
  := by
  cases c with
  | schedule delay timer =>
    exact ⟨Nat.le_refl _, List.prefix_append .., List.prefix_refl _, List.prefix_refl _⟩
  | cancel handle =>
    exact ⟨Nat.le_refl _, List.prefix_refl _, List.prefix_refl _, List.prefix_append ..⟩

theorem precedes_deliver (m : Moment) (p : PendingTimer) :
  m.Precedes (m.deliver p)
  := ⟨Nat.le_max_left .., List.prefix_refl _, List.prefix_append .., List.prefix_refl _⟩

theorem precedes_wait {time : Nat} (later : m.clock.now ≤ time) :
  m.Precedes (m.wait time)
  := ⟨later, List.prefix_refl _, List.prefix_refl _, List.prefix_refl _⟩

end Moment

namespace Chronicle

/-- Every moment is in order, and each one precedes those after it. -/
structure IsSound (ch : Chronicle) : Prop where
  /-- Every moment is in order. -/
  moments : ∀ m ∈ ch.moments, m.IsSound
  /-- A later moment keeps what earlier ones record. -/
  order : ch.moments.Pairwise fun later earlier => earlier.Precedes later

variable {ch : Chronicle} {f : Callback α} {s t : α × Chronicle} {p : PendingTimer}

theorem isSound_start :
  ({} : Chronicle).IsSound
  := by
  constructor
  · intro m hm
    obtain rfl := List.mem_singleton.mp hm
    exact Moment.isSound_start
  · exact List.pairwise_singleton _ _

theorem IsSound.today (sound : ch.IsSound) :
  ch.today.IsSound
  := sound.moments _ List.mem_cons_self

theorem IsSound.note (sound : ch.IsSound) {m : Moment} (isSound : m.IsSound)
    (next : ch.today.Precedes m) :
  (ch.note m).IsSound
  := by
  constructor
  · intro n hn
    rcases List.mem_cons.mp hn with rfl | hn
    · exact isSound
    · exact sound.moments n hn
  · apply List.pairwise_cons.mpr
    refine ⟨?_, sound.order⟩
    intro n hn
    rcases List.mem_cons.mp hn with rfl | hn
    · exact next
    · exact ((List.pairwise_cons.mp sound.order).1 n hn).trans next

theorem IsSound.call (sound : ch.IsSound) (c : Call) :
  (ch.call c).IsSound
  := by
  apply sound.note _ (Moment.precedes_call ch.today c)
  cases c with
  | schedule delay timer => exact sound.today.schedule delay timer
  | cancel handle => exact sound.today.cancel handle

theorem IsSound.calls (sound : ch.IsSound) (calls : List Call) :
  (calls.foldl Chronicle.call ch).IsSound
  := by
  induction calls generalizing ch with
  | nil => exact sound
  | cons c calls ih => exact ih (sound.call c)

/-- Calls take no time, and deliver nothing. -/
theorem calls_eq (ch : Chronicle) (calls : List Call) :
  (calls.foldl call ch).today.clock.now = ch.today.clock.now
    ∧ (calls.foldl call ch).today.fired = ch.today.fired
  := by
  induction calls generalizing ch with
  | nil => exact ⟨rfl, rfl⟩
  | cons c calls ih =>
    obtain ⟨now, fired⟩ := ih (ch.call c)
    rw [List.foldl_cons, now, fired]
    cases c <;> exact ⟨rfl, rfl⟩

/-- The delivery of the next timer takes the clock to when it is due. -/
theorem IsSound.receive (sound : s.2.IsSound) (next : s.2.today.clock.next? = some p)
    (f : Callback α) :
  (receive f p s).2.IsSound ∧ (receive f p s).2.today.clock.now = p.due
  := by
  obtain ⟨isSound, now⟩ := sound.today.deliver next
  have delivered := sound.note isSound (Moment.precedes_deliver s.2.today p)
  constructor
  · exact delivered.calls _
  · exact (calls_eq _ _).1.trans now

theorem fired_receive (f : Callback α) (p : PendingTimer) (s : α × Chronicle) :
  (receive f p s).2.today.fired.length = s.2.today.fired.length + 1
  := by
  have same := (calls_eq (s.2.note (s.2.today.deliver p))
    (f p.timer s.1 (s.2.today.clock.deliver p)).2).2
  exact (congrArg List.length same).trans List.length_append

theorem isSound_advanceTo? {time limit : Nat} (sound : s.2.IsSound)
    (before : s.2.today.clock.now ≤ time) (advanced : advanceTo? f time limit s = some t) :
  t.2.IsSound
  := by
  fun_induction advanceTo? f time limit s with
  | case1 limit s none =>
    obtain rfl := Option.some.inj advanced
    apply sound.note _ (Moment.precedes_wait before)
    apply sound.today.wait before
    exact Clock.lt_due_of_none none time
  | case2 s p next due => cases advanced
  | case3 s p next due limit ih =>
    obtain ⟨isSound, now⟩ := sound.receive next f
    exact ih isSound (Nat.le_trans (Nat.le_of_eq now) due) advanced
  | case4 limit s p next late =>
    obtain rfl := Option.some.inj advanced
    apply sound.note _ (Moment.precedes_wait before)
    apply sound.today.wait before
    exact Clock.lt_due_of_late next late

theorem isSound_run {limit : Nat} (sound : s.2.IsSound) :
  (run f limit s).2.2.IsSound
  := by
  fun_induction run f limit s with
  | case1 s => exact sound
  | case2 s limit none => exact sound
  | case3 s limit p next n t last ih =>
    rw [last] at ih
    exact ih (sound.receive next f).1

/-- A run counts its deliveries. -/
theorem length_fired_run (f : Callback α) (limit : Nat) (s : α × Chronicle) :
  (run f limit s).2.2.today.fired.length = s.2.today.fired.length + (run f limit s).1
  := by
  fun_induction run f limit s with
  | case1 s => rfl
  | case2 s limit none => rfl
  | case3 s limit p next n t last ih =>
    rw [last, fired_receive] at ih
    rw [ih]
    omega

theorem isSound_follow? {limit : Nat} {requests : List (Request α)} (sound : s.2.IsSound)
    (followed : follow? limit requests s = some t) :
  t.2.IsSound
  := by
  induction requests generalizing s with
  | nil =>
    obtain rfl := Option.some.inj followed
    exact sound
  | cons request rest ih =>
    cases request with
    | call c => exact ih (sound.call c) followed
    | advance by_ f =>
      obtain ⟨r, advanced, followed⟩ := Option.bind_eq_some_iff.mp followed
      exact ih (isSound_advanceTo? sound (Nat.le_add_right ..) advanced) followed
    | run count f => exact ih (isSound_run sound) followed

end Chronicle

namespace Clock

variable {receive : Timer → α × Clock → α × Clock}

/-- A clock that was moved shows the time it was moved to, and nothing is due any more. -/
theorem advanceTo?_done {time limit : Nat} {s t : α × Clock}
    (advanced : advanceTo? receive time limit s = some t) :
  t.2.now = time ∧ ∀ q ∈ t.2.pending, time < q.due
  := by
  fun_induction advanceTo? receive time limit s with
  | case1 limit s none =>
    obtain rfl := Option.some.inj advanced
    exact ⟨rfl, lt_due_of_none none time⟩
  | case2 s p next due => cases advanced
  | case3 s p next due limit ih => exact ih advanced
  | case4 limit s p next late =>
    obtain rfl := Option.some.inj advanced
    exact ⟨rfl, lt_due_of_late next late⟩

/-- A run stops at its limit, or when nothing is pending. -/
theorem run_done (limit : Nat) (s : α × Clock) :
  (run receive limit s).1 ≤ limit
    ∧ ((run receive limit s).1 < limit → (run receive limit s).2.2.pending = [])
  := by
  fun_induction run receive limit s with
  | case1 s => exact ⟨Nat.le_refl _, fun less => absurd less (Nat.lt_irrefl _)⟩
  | case2 s limit none => exact ⟨Nat.zero_le _, fun _ => next?_eq_none_iff.mp none⟩
  | case3 s limit p next n t last ih =>
    rw [last] at ih
    obtain ⟨le, done⟩ := ih
    exact ⟨Nat.succ_le_succ le, fun less => done (Nat.lt_of_succ_lt_succ less)⟩

/-- Whatever a clock is asked for, its record is in order at every moment: no handle is given out
twice; each timer that was set is pending, was delivered once or was cancelled before that; the
deliveries are in the order of what is due and was set first, each is made when it is due, and
time does not go back.  When the clock moves on, it gets to where it was moved, and nothing is
due by then any more.  A run counts its deliveries, which are not more than its limit; with fewer
of them nothing is left. -/
theorem timers_fire_once_in_order {limit : Nat} {requests : List (Request α)} {x y : α}
    {clock : Clock} (followed : follow? limit requests (x, {}) = some (y, clock)) :
  ∃ ch, Chronicle.follow? limit requests (x, {}) = some (y, ch) ∧ ch.today.clock = clock
    ∧ (∀ m ∈ ch.moments, m.IsSound ∧ ∀ p ∈ m.set,
        m.clock.pending.count p + (m.fired.map (·.entry)).count p + m.cancelled.count p = 1)
    ∧ (ch.moments.Pairwise fun later earlier => earlier.Precedes later)
    ∧ (∀ by_ limit' f z clock', advance? (Callback.receive f) by_ limit' (y, clock) = some (z, clock') →
        clock'.now = clock.now + by_ ∧ ∀ p ∈ clock'.pending, clock'.now < p.due)
    ∧ ∀ count f, ∃ n z ch', Chronicle.run f count (y, ch) = (n, z, ch')
        ∧ run f.receive count (y, clock) = (n, z, ch'.today.clock)
        ∧ ch'.today.fired.length = ch.today.fired.length + n
        ∧ n ≤ count ∧ (n < count → ch'.today.clock.pending = [])
  := by
  have same := Chronicle.forget_follow? limit requests (x, {})
  change _ = follow? limit requests (x, {}) at same
  rw [followed] at same
  obtain ⟨⟨y', ch⟩, recorded, pair⟩ := Option.map_eq_some_iff.mp same
  obtain ⟨rfl, rfl⟩ := Prod.mk.inj pair
  have sound := Chronicle.isSound_follow? (s := (x, {})) Chronicle.isSound_start recorded
  refine ⟨ch, recorded, rfl, ?_, sound.order, ?_, ?_⟩
  · intro m hm
    have isSound := sound.moments m hm
    exact ⟨isSound, fun p hp => isSound.count_eq_one hp⟩
  · intro by_ limit' f z clock' advanced
    obtain ⟨now, late⟩ := advanceTo?_done advanced
    refine ⟨now, ?_⟩
    intro p hp
    exact Nat.lt_of_le_of_lt (Nat.le_of_eq now) (late p hp)
  · intro count f
    have counted := Chronicle.length_fired_run f count (y', ch)
    have ran := Chronicle.forget_run f count (y', ch)
    obtain ⟨le, done⟩ := @run_done _ f.receive count (y', ch.today.clock)
    rcases result : Chronicle.run f count (y', ch) with ⟨n, z, ch'⟩
    rw [result] at ran counted
    change (n, z, ch'.today.clock) = run f.receive count (y', ch.today.clock) at ran
    rw [← ran] at le done
    exact ⟨n, z, ch', rfl, ran.symm, counted, le, done⟩

/-- Whoever receives the first timer sets two others, one of them to be delivered at once, and
whoever receives that one cancels the other. -/
theorem timers_fire_once_in_order_at_once :
  let f : Callback Nat := fun _ x _ =>
    (x + 1, if x = 0 then [.schedule 0 ⟨.nextLines, 1⟩, .schedule 4 ⟨.debounce, 1⟩] else [.cancel 3])
  let requests : List (Request Nat) := [.call (.schedule 2 ⟨.debounce, 0⟩), .advance 3 f, .run 9 f]
  follow? 9 requests (0, {}) = some (2, ⟨3, 3, []⟩)
    ∧ ∃ ch, Chronicle.follow? 9 requests (0, {}) = some (2, ch) ∧ ∀ m ∈ ch.moments, m.IsSound
  := by
  intro f requests
  have followed : follow? 9 requests (0, {}) = some (2, ⟨3, 3, []⟩) := by decide +kernel
  obtain ⟨ch, recorded, -, moments, -⟩ := timers_fire_once_in_order followed
  exact ⟨followed, ch, recorded, fun m hm => (moments m hm).1⟩

end Clock

end LiveMarkdown
