import LiveMarkdown.Proofs.Lifecycle.Order

/-!
# What becomes of timers

A clock is asked to set and cancel timers, to move forward and to run, and whoever receives a
timer may set and cancel others.  A chronicle records what becomes of every timer, at every
moment on the way.  It is kept while the requests are fulfilled, and without it the clock does
the same.
-/

namespace LiveMarkdown

/-! ### What a clock is asked for -/

/-- A call that sets or cancels a timer. -/
inductive Call where
  /-- Sets a timer. -/
  | schedule (delay : Nat) (timer : Timer)
  /-- Cancels the timer with a handle. -/
  | cancel (handle : Nat)
deriving DecidableEq, Repr, Inhabited

/-- A callback: what whoever receives a timer makes of their state, and the calls they make.  They
see the clock when the timer is delivered, so they know which handles their calls will get. -/
abbrev Callback (α : Type) : Type :=
  Timer → α → Clock → α × List Call

/-- A request to a clock. -/
inductive Request (α : Type) where
  /-- To set or cancel a timer. -/
  | call (c : Call)
  /-- To move forward. -/
  | advance (by_ : Nat) (f : Callback α)
  /-- To deliver timers, but at most `count` of them. -/
  | run (count : Nat) (f : Callback α)

variable {α : Type}

/-- Carries out a call. -/
def Clock.call (c : Clock) : Call → Clock
  | .schedule delay timer => (c.schedule delay timer).2
  | .cancel handle => c.cancel handle

/-- Receives a timer, and carries out the calls that are made. -/
def Callback.receive (f : Callback α) (timer : Timer) (s : α × Clock) : α × Clock :=
  let (x, calls) := f timer s.1 s.2
  (x, calls.foldl Clock.call s.2)

/-- Fulfils requests.  There is no result if the clock makes more than `limit` deliveries in one
move. -/
def Clock.follow? (limit : Nat) : List (Request α) → α × Clock → Option (α × Clock)
  | [], s => some s
  | .call c :: rest, s => follow? limit rest (s.1, s.2.call c)
  | .advance by_ f :: rest, s => (advance? f.receive by_ limit s).bind (follow? limit rest)
  | .run count f :: rest, s => follow? limit rest (run f.receive count s).2

/-! ### Records -/

/-- A delivery. -/
structure Firing where
  /-- What was delivered. -/
  entry : PendingTimer
  /-- What the clock showed. -/
  time : Nat
deriving DecidableEq, Repr, Inhabited

/-- A clock, with all that has become of its timers. -/
structure Moment where
  /-- The clock. -/
  clock : Clock := {}
  /-- The timers that have been set, in the order in which they were. -/
  set : List PendingTimer := []
  /-- The deliveries that have been made, in the order in which they were. -/
  fired : List Firing := []
  /-- The timers that have been cancelled. -/
  cancelled : List PendingTimer := []
deriving DecidableEq, Repr, Inhabited

namespace Moment

/-- Carries out a call. -/
def call (m : Moment) : Call → Moment
  | .schedule delay timer =>
    { m with
      clock := m.clock.call (.schedule delay timer)
      set := m.set ++ [⟨(m.clock.schedule delay timer).1, m.clock.now + delay, timer⟩] }
  | .cancel handle =>
    { m with
      clock := m.clock.call (.cancel handle)
      cancelled := m.cancelled ++ m.clock.pending.filter (·.handle = handle) }

/-- Delivers a timer. -/
def deliver (m : Moment) (p : PendingTimer) : Moment :=
  { m with
    clock := m.clock.deliver p
    fired := m.fired ++ [⟨p, (m.clock.deliver p).now⟩] }

/-- Lets time pass. -/
def wait (m : Moment) (time : Nat) : Moment :=
  { m with clock := { m.clock with now := time } }

end Moment

/-- A record of every moment up to the present one. -/
structure Chronicle where
  /-- The present moment. -/
  today : Moment := {}
  /-- The moments before it, the latest one first. -/
  past : List Moment := []

namespace Chronicle

/-- All moments, the present one first. -/
def moments (ch : Chronicle) : List Moment :=
  ch.today :: ch.past

/-- Goes on to another moment. -/
def note (ch : Chronicle) (m : Moment) : Chronicle :=
  ⟨m, ch.moments⟩

/-- Carries out a call. -/
def call (ch : Chronicle) (c : Call) : Chronicle :=
  ch.note (ch.today.call c)

/-- Delivers a timer, and carries out the calls that are made by who receives it. -/
def receive (f : Callback α) (p : PendingTimer) (s : α × Chronicle) : α × Chronicle :=
  let delivered := s.2.note (s.2.today.deliver p)
  let (x, calls) := f p.timer s.1 delivered.today.clock
  (x, calls.foldl call delivered)

/-- `Clock.advanceTo?`, recorded. -/
def advanceTo? (f : Callback α) (time limit : Nat) (s : α × Chronicle) : Option (α × Chronicle) :=
  match s.2.today.clock.next? with
  | none => some (s.1, s.2.note (s.2.today.wait time))
  | some p =>
    if p.due ≤ time then
      match limit with
      | 0 => none
      | limit + 1 => advanceTo? f time limit (receive f p s)
    else some (s.1, s.2.note (s.2.today.wait time))
termination_by limit

/-- `Clock.run`, recorded. -/
def run (f : Callback α) (limit : Nat) (s : α × Chronicle) : Nat × (α × Chronicle) :=
  match limit with
  | 0 => (0, s)
  | limit + 1 =>
    match s.2.today.clock.next? with
    | none => (0, s)
    | some p =>
      let (n, s) := run f limit (receive f p s)
      (n + 1, s)

/-- `Clock.follow?`, recorded. -/
def follow? (limit : Nat) : List (Request α) → α × Chronicle → Option (α × Chronicle)
  | [], s => some s
  | .call c :: rest, s => follow? limit rest (s.1, s.2.call c)
  | .advance by_ f :: rest, s =>
    (advanceTo? f (s.2.today.clock.now + by_) limit s).bind (follow? limit rest)
  | .run count f :: rest, s => follow? limit rest (run f count s).2

/-! ### Records tell the truth -/

/-- What is left when a chronicle is forgotten. -/
def forget (s : α × Chronicle) : α × Clock :=
  (s.1, s.2.today.clock)

theorem clock_call (ch : Chronicle) (c : Call) :
  (ch.call c).today.clock = ch.today.clock.call c
  := by
  cases c <;> rfl

theorem clock_calls (ch : Chronicle) (calls : List Call) :
  (calls.foldl call ch).today.clock = calls.foldl Clock.call ch.today.clock
  := by
  induction calls generalizing ch with
  | nil => rfl
  | cons c calls ih => rw [List.foldl_cons, List.foldl_cons, ih, clock_call]

theorem forget_receive (f : Callback α) (p : PendingTimer) (s : α × Chronicle) :
  forget (receive f p s) = f.receive p.timer (s.1, s.2.today.clock.deliver p)
  := by
  rw [forget, receive, Callback.receive]
  dsimp only
  rw [clock_calls]
  rfl

theorem forget_advanceTo? (f : Callback α) (time limit : Nat) (s : α × Chronicle) :
  (advanceTo? f time limit s).map forget = Clock.advanceTo? f.receive time limit (forget s)
  := by
  fun_induction advanceTo? f time limit s with
  | case1 limit s none =>
    rw [Clock.advanceTo?, forget]
    simp only [none]
    rfl
  | case2 s p next due =>
    rw [forget, Clock.advanceTo?_zero_of_due next due]
    rfl
  | case3 s p next due limit ih => rw [ih, forget_receive, forget, Clock.advanceTo?_of_due next due]
  | case4 limit s p next late =>
    rw [Clock.advanceTo?, forget]
    simp only [next, if_neg late]
    rfl

theorem forget_run (f : Callback α) (limit : Nat) (s : α × Chronicle) :
  (run f limit s).map id forget = Clock.run f.receive limit (forget s)
  := by
  fun_induction run f limit s with
  | case1 s => rfl
  | case2 s limit none =>
    rw [Clock.run]
    simp only [forget, none]
    rfl
  | case3 s limit p next n t last ih =>
    rw [last, forget_receive] at ih
    rw [Clock.run]
    simp only [forget, next]
    rw [← ih]
    rfl

theorem forget_follow? (limit : Nat) (requests : List (Request α)) (s : α × Chronicle) :
  (follow? limit requests s).map forget = Clock.follow? limit requests (forget s)
  := by
  induction requests generalizing s with
  | nil => rfl
  | cons request rest ih =>
    cases request with
    | call c =>
      rw [follow?, Clock.follow?, ih, forget, forget, clock_call]
    | advance by_ f =>
      have same := forget_advanceTo? f (s.2.today.clock.now + by_) limit s
      rw [follow?, Clock.follow?, Clock.advance?]
      change _ = (Clock.advanceTo? f.receive (s.2.today.clock.now + by_) limit (forget s)).bind _
      rw [← same]
      cases advanceTo? f (s.2.today.clock.now + by_) limit s with
      | none => rfl
      | some t => exact ih t
    | run count f =>
      rw [follow?, Clock.follow?, ih, ← forget_run]
      rfl

end Chronicle

end LiveMarkdown
