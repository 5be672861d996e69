import LiveMarkdown.Lifecycle.Timer
import LiveMarkdown.Styling.Pass

/-!
# Coordinators

A coordinator decides when and where a buffer is styled: all of it when a text is loaded,
a few lines at a time if the text is long; the paragraphs around an edit at once; and all
of it again when the user pauses.  It knows the timers it waits for, and tells a timer
that is out of date by its generation and a snapshot that is out of date by the revision
of the buffer.
-/

namespace LiveMarkdown

/-- How a coordinator spreads its work. -/
structure Settings where
  /-- From how many code units on a text counts as long. -/
  longText : Nat := 50000
  /-- How many lines of a long text are styled at a time. -/
  linesAtOnce : Nat := 500
  /-- The pause between lines of a long text, in milliseconds. -/
  linePause : Nat := 10
  /-- How long the user must pause, in milliseconds. -/
  debounce : Nat := 500
deriving DecidableEq, Repr, Inhabited

/-- What a coordinator is doing. -/
inductive StylingState where
  /-- Nothing. -/
  | idle
  /-- It is writing attributes. -/
  | writing
  /-- It waits to style the next lines of a long text. -/
  | loading
  /-- It waits for the user to pause. -/
  | waiting
deriving DecidableEq, Repr, Inhabited

/-- The name of a state. -/
def StylingState.name : StylingState → String
  | .idle => "Idle"
  | .writing => "StylingSync"
  | .loading => "StylingChunked"
  | .waiting => "DebouncePending"

/-- What a coordinator has done. -/
structure Stats where
  /-- How often it styled all of a buffer. -/
  fullPasses : Nat := 0
  /-- How often it styled the paragraphs around an edit. -/
  partialPasses : Nat := 0
  /-- How often it styled some lines of a long text. -/
  linePasses : Nat := 0
  /-- How often it gave up a long text because it had changed. -/
  staleLoads : Nat := 0
  /-- How many edits it passed over. -/
  ignoredEdits : Nat := 0
deriving DecidableEq, Repr, Inhabited

/-- A timer that a coordinator waits for. -/
structure AwaitedTimer where
  /-- The timer. -/
  timer : Timer
  /-- Its handle. -/
  handle : Nat
deriving DecidableEq, Repr, Inhabited

/-- A long text whose lines are being styled. -/
structure Loading where
  /-- The text. -/
  snapshot : Snapshot
  /-- The first line that has not been styled. -/
  nextLine : Nat
  /-- The timer for the next lines. -/
  awaited : AwaitedTimer

/-- A coordinator. -/
structure Coordinator where
  /-- The style it applies. -/
  style : Style
  /-- How it spreads its work. -/
  settings : Settings
  /-- What it is doing. -/
  state : StylingState := .idle
  /-- The generation of the timer it set last. -/
  generation : Nat := 0
  /-- The timer that waits for the user to pause. -/
  debounce : Option AwaitedTimer := none
  /-- The long text that is being styled. -/
  loading : Option Loading := none
  /-- What it has done. -/
  stats : Stats := {}

namespace Coordinator

/-- How many lines of a long text are styled at a time; at least one. -/
def linesAtOnce (c : Coordinator) : Nat :=
  max c.settings.linesAtOnce 1

/-- The state in which a coordinator rests. -/
def restingState (c : Coordinator) : StylingState :=
  if c.loading.isSome then .loading
  else if c.debounce.isSome then .waiting
  else .idle

end Coordinator

/-- Something that happened in a coordinator. -/
inductive Happening where
  /-- A text of some length is styled at once. -/
  | loadedAtOnce (length : Nat)
  /-- A text of some length and number of lines is styled a few lines at a time. -/
  | loadedByLines (length lines atOnce : Nat)
  /-- An edit was passed over. -/
  | ignored (kind : EditKind)
  /-- An edit touches no paragraph. -/
  | noParagraph (span : Span)
  /-- The paragraphs around an edit were styled. -/
  | restyled (span : Span)
  /-- A timer for a pause came too late. -/
  | staleDebounce (generation : Nat)
  /-- A timer for lines came too late. -/
  | staleLines (generation : Nat)
  /-- The user has paused. -/
  | paused
  /-- The timer for a pause was cancelled. -/
  | debounceCancelled
  /-- The text changed before a line of it was styled. -/
  | textChanged (line : Nat)
  /-- Lines were styled. -/
  | styledLines (first last : Nat) (window : Span)
  /-- All lines were styled, after some number of line passes. -/
  | loaded (passes : Nat)
  /-- A long text was given up before a line of it was styled. -/
  | loadCancelled (line : Nat)
  /-- The state changed. -/
  | moved (before after : StylingState)
deriving DecidableEq, Repr

namespace Happening

/-- The text of a span. -/
def spanText (s : Span) : String :=
  toString s.start ++ ".." ++ toString s.stop

/-- Whether something is worth telling only in great detail. -/
def isDetail : Happening → Bool
  | .ignored _ | .restyled _ | .styledLines .. => true
  | _ => false

/-- The wording of what happened. -/
def message : Happening → String
  | .loadedAtOnce length => "sync load of " ++ toString length ++ " code units"
  | .loadedByLines length lines atOnce =>
    "chunked load of " ++ toString length ++ " code units, " ++ toString lines ++
      " lines in chunks of " ++ toString atOnce
  | .ignored .characters => "ignoring Characters notification"
  | .ignored .attributes => "ignoring Attributes notification"
  | .noParagraph span => "edit " ++ spanText span ++ " touches no paragraph"
  | .restyled span => "restyled paragraph range " ++ spanText span
  | .staleDebounce n => "stale debounce timer " ++ toString n
  | .staleLines n => "stale chunk timer " ++ toString n
  | .paused => "debounce elapsed, full pass"
  | .debounceCancelled => "debounce cancelled"
  | .textChanged line => "text changed under chunk at line " ++ toString line ++ ", aborting load"
  | .styledLines first last window =>
    "chunk lines " ++ spanText ⟨first, last⟩ ++ " -> " ++ spanText window
  | .loaded passes => "chunked load complete after " ++ toString passes ++ " chunks"
  | .loadCancelled line => "chunk loop cancelled at line " ++ toString line
  | .moved before after => before.name ++ " -> " ++ after.name

/-- The line of a log that tells what happened. -/
def line (h : Happening) : String :=
  (if h.isDetail then "TRACE" else "DEBUG") ++ " coordinator: " ++ h.message

end Happening

/-- What a host tells a coordinator. -/
inductive Message where
  /-- A text was loaded. -/
  | load
  /-- The buffer was edited. -/
  | edited (edit : Edit)
  /-- A timer was delivered. -/
  | delivered (timer : Timer)
  /-- The text is being closed. -/
  | close
deriving DecidableEq, Repr

end LiveMarkdown
