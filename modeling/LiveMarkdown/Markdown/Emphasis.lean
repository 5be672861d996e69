import LiveMarkdown.Markdown.Node

/-!
# Emphasis

Runs of emphasis characters are paired from left to right: a run that may close
emphasis is matched with the nearest run before it that may open emphasis with the same
character, and everything between them becomes the content.  As many characters are
used as both runs have, two at a time for strong emphasis and a last one for emphasis.
Runs that could be both opener and closer match only if the sum of their lengths is not
a multiple of three, unless both lengths are.  Tildes strike out text, and only runs of
equal length match; one that finds no match puts an end to all tildes before it.
-/

namespace LiveMarkdown.Markdown

/-- A run of emphasis characters, some of which may have been used. -/
structure EmphasisRun where
  /-- The character. -/
  mark : Char
  /-- The position of the first character that has not been used. -/
  start : Nat
  /-- The number of characters that have not been used. -/
  count : Nat
  /-- The number of characters of the whole run. -/
  length : Nat
  /-- Whether the run may open emphasis. -/
  opens : Bool
  /-- Whether the run may close emphasis. -/
  closes : Bool
deriving Repr

/-- A part of the text of a leaf. -/
inductive Inline where
  /-- A run of emphasis characters. -/
  | run (r : EmphasisRun)
  /-- A part of a settled kind and what is inside it. -/
  | part (kind : NodeKind) (span : Span) (inner : List Inline)

/-- An opener that has not been matched, and the parts after it, the last one first. -/
structure Opener where
  /-- The run. -/
  run : EmphasisRun
  /-- The parts after it, up to the next opener, the last one first. -/
  after : List Inline

/-- The progress of pairing. -/
structure Pairing where
  /-- The openers that have not been matched, the nearest first. -/
  openers : List Opener
  /-- The parts before all of them, the last one first. -/
  base : List Inline

/-- Whether an opener and a closer match. -/
def EmphasisRun.fits (opener closer : EmphasisRun) : Bool :=
  opener.mark == closer.mark &&
    if closer.mark == '~' then opener.length == closer.length
    else
      (!(closer.opens && closer.closes) && !(opener.opens && opener.closes)) ||
        (closer.length + opener.length) % 3 != 0 || closer.length % 3 == 0

/-- Emphasis made with the last `n` characters of an opener, the innermost first. -/
def emphasize (opener : EmphasisRun) (closeStart : Nat) (n used : Nat) (inner : List Inline) :
    List Inline :=
  if _h : used < n then
    let step := if used + 1 < n then 2 else 1
    let kind := if opener.mark == '~' then NodeKind.other
      else if step == 2 then .strong else .emphasis
    let span : Span := ⟨opener.start + opener.count - used - step, closeStart + used + step⟩
    emphasize opener closeStart n (used + step) [.part kind span inner]
  else inner
termination_by n - used
decreasing_by
  split <;> omega

namespace Pairing

/-- Adds a part. -/
def add (p : Pairing) (x : Inline) : Pairing :=
  match p.openers with
  | [] => { p with base := x :: p.base }
  | o :: os => { p with openers := { o with after := x :: o.after } :: os }

/-- Adds a run as an opener. -/
def push (p : Pairing) (r : EmphasisRun) : Pairing :=
  { p with openers := ⟨r, []⟩ :: p.openers }

/-- Gives up the openers that satisfy `dead`. -/
def giveUp (dead : EmphasisRun → Bool) (p : Pairing) : Pairing :=
  let rec go : List Opener → List Inline → Pairing
    | [], base => ⟨[], base⟩
    | o :: os, base =>
      let q := go os base
      if dead o.run then
        match q.openers with
        | [] => ⟨[], o.after ++ q.base⟩
        | o' :: os' => ⟨{ o' with after := o.after ++ o'.after } :: os', q.base⟩
      else ⟨o :: q.openers, q.base⟩
  go p.openers p.base

/-- The nearest opener that fits a closer, the parts after it, the last one first, and
the openers before it. -/
def findOpener (closer : EmphasisRun) : List Opener → List Inline →
    Option (EmphasisRun × List Inline × List Opener)
  | [], _ => none
  | o :: os, after =>
    if o.run.fits closer then some (o.run, after ++ o.after, os)
    else findOpener closer os (after ++ o.after)

/-- Uses the characters of a closer, of which it has no more than `fuel`, as far as
openers fit; gives the rest of the closer. -/
def close : Nat → Pairing → EmphasisRun → Pairing × EmphasisRun
  | 0, p, closer => (p, closer)
  | fuel + 1, p, closer =>
    if closer.count == 0 then (p, closer)
    else
      match findOpener closer p.openers [] with
      | none =>
        (if closer.mark == '~' then p.giveUp (·.mark == '~') else p, closer)
      | some (opener, after, openers) =>
        let n := min closer.count opener.count
        let made := emphasize opener closer.start n 0 after.reverse
        let p : Pairing := ⟨openers, p.base⟩
        let p := if n < opener.count then p.push { opener with count := opener.count - n } else p
        close fuel (made.foldl add p)
          { closer with start := closer.start + n, count := closer.count - n }

/-- Takes the next part into account. -/
def step (p : Pairing) : Inline → Pairing
  | .part kind span inner => p.add (.part kind span inner)
  | .run r =>
    let (p, r) := if r.closes then p.close r.count r else (p, r)
    if r.count != 0 && r.opens then p.push r else p

/-- The parts when no closer follows. -/
def finish (p : Pairing) : List Inline :=
  (p.giveUp fun _ => true).base.reverse

end Pairing

/-- Pairs the runs among the parts of a text. -/
def pairEmphasis (parts : List Inline) : List Inline :=
  (parts.foldl Pairing.step ⟨[], []⟩).finish

end LiveMarkdown.Markdown
