import LiveMarkdown.Proofs.Lifecycle.Order
import LiveMarkdown.Lifecycle.Session

/-!
# Hosts

A host goes through steps: it loads the text of a session, edits it with or without telling
the session, closes it, and moves the clock, which delivers timers to the session.  What a
step does is the same for every scheduler that has a clock.
-/

namespace LiveMarkdown

/-- A scheduler that has a clock. -/
class Clocked (σ : Type) extends Scheduler σ where
  /-- The clock. -/
  clock : σ → Clock
  /-- The scheduler with another clock. -/
  withClock : σ → Clock → σ

instance : Clocked Clock where
  clock c := c
  withClock _ c := c

instance : Clocked UnreliableClock where
  clock := UnreliableClock.clock
  withClock u clock := { u with clock }

/-- What a host does. -/
inductive HostStep where
  /-- It loads the text. -/
  | load
  /-- It replaces text and tells the session so. -/
  | edit (span : Span) (text : List Char)
  /-- It replaces text. -/
  | replace (span : Span) (text : List Char)
  /-- It closes the text. -/
  | close
  /-- It moves the clock forward. -/
  | advance (by_ : Nat)
deriving DecidableEq, Repr

/-- The text that a step inserts. -/
def HostStep.inserted : HostStep → List Char
  | .edit _ text | .replace _ text => text
  | _ => []

namespace Session

variable {σ : Type} [Clocked σ]

/-- A session with a buffer that has not been loaded. -/
def opened {σ : Type} (style : Style) (settings : Settings) (b : Buffer) (scheduler : σ) :
    Session σ :=
  ⟨{ style, settings }, b, scheduler, #[]⟩

/-- The clock of a session. -/
def clock (s : Session σ) : Clock :=
  Clocked.clock s.scheduler

/-- A session with another clock. -/
def withClock (s : Session σ) (c : Clock) : Session σ :=
  { s with scheduler := Clocked.withClock s.scheduler c }

/-- Delivers a timer of its clock to a session. -/
def receiveFrom (timer : Timer) (t : Session σ × Clock) : Session σ × Clock :=
  let s := (t.1.withClock t.2).delivered timer
  (s, s.clock)

/-- With a clock as its scheduler, a session receives timers as ever. -/
theorem receiveFrom_clock :
  receiveFrom (σ := Clock) = receive
  := rfl

/-- Moves the clock of a session forward.  There is no result if more than `limit` timers
are delivered. -/
def advance? (s : Session σ) (by_ limit : Nat) : Option (Session σ) :=
  (Clock.advance? receiveFrom by_ limit (s, s.clock)).map fun t => t.1.withClock t.2

/-- What a step of a host makes of a session.  Replacing what is no span of the text does
nothing. -/
def perform? (limit : Nat) (s : Session σ) : HostStep → Option (Session σ)
  | .load => some s.load
  | .edit span text =>
    match s.buffer.replace? span text with
    | none => some s
    | some (edit, buffer) => some ({ s with buffer }.edited edit)
  | .replace span text =>
    match s.buffer.replace? span text with
    | none => some s
    | some (_, buffer) => some { s with buffer }
  | .close => some s.cancel
  | .advance by_ => s.advance? by_ limit

/-- What the steps of a host make of a session. -/
def follow? (limit : Nat) (s : Session σ) : List HostStep → Option (Session σ)
  | [] => some s
  | step :: steps => (s.perform? limit step).bind fun s => s.follow? limit steps

variable {limit limit' : Nat} {s s' : Session σ}

theorem advance?_mono {by_ : Nat} (more : limit ≤ limit')
    (advanced : s.advance? by_ limit = some s') :
  s.advance? by_ limit' = some s'
  := by
  obtain ⟨t, moved, rfl⟩ := Option.map_eq_some_iff.mp advanced
  apply Option.map_eq_some_iff.mpr
  exact ⟨t, Clock.advanceTo?_mono more moved, rfl⟩

theorem perform?_mono {step : HostStep} (more : limit ≤ limit')
    (performed : s.perform? limit step = some s') :
  s.perform? limit' step = some s'
  := by
  cases step with
  | advance by_ => exact advance?_mono more performed
  | load | edit | replace | close => exact performed

theorem follow?_mono {steps : List HostStep} (more : limit ≤ limit')
    (followed : s.follow? limit steps = some s') :
  s.follow? limit' steps = some s'
  := by
  induction steps generalizing s with
  | nil => exact followed
  | cons step steps ih =>
    obtain ⟨next, performed, rest⟩ := Option.bind_eq_some_iff.mp followed
    apply Option.bind_eq_some_iff.mpr
    exact ⟨next, perform?_mono more performed, ih rest⟩

/-- One step and then others, with as many deliveries as the one or the others take. -/
theorem follow?_cons {step : HostStep} {steps : List HostStep} {next : Session σ}
    (performed : s.perform? limit step = some next)
    (followed : next.follow? limit' steps = some s') :
  s.follow? (max limit limit') (step :: steps) = some s'
  := by
  apply Option.bind_eq_some_iff.mpr
  use next
  constructor
  · apply perform?_mono (Nat.le_max_left _ _) performed
  · apply follow?_mono (Nat.le_max_right _ _) followed

end Session

end LiveMarkdown
