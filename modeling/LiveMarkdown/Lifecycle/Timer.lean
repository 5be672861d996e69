/-!
# Timers

Work is put off by asking a scheduler to deliver a timer after some milliseconds.  A
timer carries the generation in which it was set, so that one that is delivered too late
can be told from the one that is expected.
-/

namespace LiveMarkdown

/-- What a timer is for. -/
inductive TimerKind where
  /-- The user has paused. -/
  | debounce
  /-- The next lines of a long text are to be styled. -/
  | nextLines
deriving DecidableEq, Repr, Inhabited

/-- A timer. -/
structure Timer where
  /-- What the timer is for. -/
  kind : TimerKind
  /-- The generation in which it was set. -/
  generation : Nat
deriving DecidableEq, Repr, Inhabited

/-- A state that timers can be set in.  A timer that is cancelled may be delivered all the
same. -/
class Scheduler (σ : Type) where
  /-- Sets a timer that is delivered after a delay, and gives it a handle. -/
  schedule : σ → Nat → Timer → Nat × σ
  /-- Asks for the timer with a handle not to be delivered. -/
  cancel : σ → Nat → σ

end LiveMarkdown
