import LiveMarkdown.Lifecycle.Timer

/-!
# Clocks

A clock is a scheduler whose time passes only when it is moved.  Timers are delivered
in the order in which they are due, and those that are due at the same time in the order
in which they were set.  Whoever receives a timer may set and cancel others.
-/

namespace LiveMarkdown

/-- A timer that is to be delivered. -/
structure PendingTimer where
  /-- The handle of the timer. -/
  handle : Nat
  /-- When it is due. -/
  due : Nat
  /-- The timer. -/
  timer : Timer
deriving DecidableEq, Repr, Inhabited

/-- A scheduler whose time passes only when it is moved. -/
structure Clock where
  /-- The time. -/
  now : Nat := 0
  /-- The handle that was given out last. -/
  lastHandle : Nat := 0
  /-- The timers that are to be delivered, in the order in which they were set. -/
  pending : List PendingTimer := []
deriving DecidableEq, Repr, Inhabited

namespace PendingTimer

/-- Whether a timer is delivered before another one. -/
def isBefore (p q : PendingTimer) : Bool :=
  p.due < q.due || (p.due == q.due && p.handle < q.handle)

/-- The one of two timers that is delivered first. -/
def sooner (p q : PendingTimer) : PendingTimer :=
  if q.isBefore p then q else p

end PendingTimer

namespace Clock

/-- Sets a timer. -/
def schedule (c : Clock) (delay : Nat) (timer : Timer) : Nat × Clock :=
  let handle := c.lastHandle + 1
  (handle, { c with lastHandle := handle, pending := c.pending ++ [⟨handle, c.now + delay, timer⟩] })

/-- Cancels a timer. -/
def cancel (c : Clock) (handle : Nat) : Clock :=
  { c with pending := c.pending.filter (·.handle ≠ handle) }

instance : Scheduler Clock where
  schedule := Clock.schedule
  cancel := Clock.cancel

/-- When a timer is due, if it is to be delivered. -/
def due? (c : Clock) (timer : Timer) : Option Nat :=
  (c.pending.find? (·.timer = timer)).map (·.due)

/-- The timer that is delivered next. -/
def next? (c : Clock) : Option PendingTimer :=
  match c.pending with
  | [] => none
  | p :: ps => some (ps.foldl PendingTimer.sooner p)

/-- The clock when a timer is being delivered. -/
def deliver (c : Clock) (p : PendingTimer) : Clock :=
  { c with now := max c.now p.due, pending := c.pending.filter (·.handle ≠ p.handle) }

/-- Delivers timers one after the other until none is left, but at most `limit` of them,
and counts them. -/
def run {α : Type} (receive : Timer → α × Clock → α × Clock) (limit : Nat) (s : α × Clock) :
    Nat × (α × Clock) :=
  match limit with
  | 0 => (0, s)
  | limit + 1 =>
    match s.2.next? with
    | none => (0, s)
    | some p =>
      let (n, s) := run receive limit (receive p.timer (s.1, s.2.deliver p))
      (n + 1, s)

/-- Delivers all timers that are due up to a time, and those that are set meanwhile, and
then moves the clock to that time.  There is no result if more than `limit` timers are
delivered. -/
def advanceTo? {α : Type} (receive : Timer → α × Clock → α × Clock) (time limit : Nat)
    (s : α × Clock) : Option (α × Clock) :=
  match s.2.next? with
  | none => some (s.1, { s.2 with now := time })
  | some p =>
    if p.due ≤ time then
      match limit with
      | 0 => none
      | limit + 1 => advanceTo? receive time limit (receive p.timer (s.1, s.2.deliver p))
    else some (s.1, { s.2 with now := time })
termination_by limit

/-- Moves the clock forward.  There is no result if more than `limit` timers are
delivered. -/
def advance? {α : Type} (receive : Timer → α × Clock → α × Clock) (by_ limit : Nat)
    (s : α × Clock) : Option (α × Clock) :=
  advanceTo? receive (s.2.now + by_) limit s

end Clock

/-- A clock that does not honour every cancellation. -/
structure UnreliableClock where
  /-- The clock. -/
  clock : Clock
  /-- Whether each cancellation is honoured, counted from the next one. -/
  honours : Nat → Bool

namespace UnreliableClock

/-- Cancels a timer, if the cancellation is honoured. -/
def cancel (u : UnreliableClock) (handle : Nat) : UnreliableClock :=
  ⟨if u.honours 0 then u.clock.cancel handle else u.clock, fun n => u.honours (n + 1)⟩

instance : Scheduler UnreliableClock where
  schedule u delay timer :=
    let (handle, clock) := u.clock.schedule delay timer
    (handle, { u with clock })
  cancel := cancel

end UnreliableClock

end LiveMarkdown
