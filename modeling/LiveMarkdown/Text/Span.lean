/-!
# Spans

A span is a half-open interval of positions in a text, `start` included and `stop`
excluded.  Spans are not required to be ordered: a span whose `stop` does not exceed
its `start` covers no position and is called empty.  The intersection of two spans
is defined only when it covers a position.
-/

namespace LiveMarkdown

/-- A half-open interval of positions. -/
structure Span where
  /-- The first position covered. -/
  start : Nat
  /-- The position after the last one covered. -/
  stop : Nat
deriving DecidableEq, Repr, Inhabited

namespace Span

/-- The number of positions covered. -/
def length (s : Span) : Nat :=
  s.stop - s.start

/-- Whether no position is covered. -/
def isEmpty (s : Span) : Bool :=
  s.stop ≤ s.start

/-- A position lies in a span. -/
protected def Mem (s : Span) (i : Nat) : Prop :=
  s.start ≤ i ∧ i < s.stop

instance : Membership Nat Span := ⟨Span.Mem⟩

instance (i : Nat) (s : Span) : Decidable (i ∈ s) :=
  inferInstanceAs (Decidable (s.start ≤ i ∧ i < s.stop))

/-- The span moved right by `n` positions. -/
def shift (n : Nat) (s : Span) : Span :=
  ⟨s.start + n, s.stop + n⟩

/-- The span itself, unless it is empty. -/
def nonempty? (s : Span) : Option Span :=
  if s.start < s.stop then some s else none

/-- The positions that two spans share, unless there are none. -/
def inter? (a b : Span) : Option Span :=
  nonempty? ⟨max a.start b.start, min a.stop b.stop⟩

/-- The smallest span that covers both spans. -/
def hull (a b : Span) : Span :=
  ⟨min a.start b.start, max a.stop b.stop⟩

theorem mem_iff {i : Nat} {s : Span} :
  i ∈ s ↔ s.start ≤ i ∧ i < s.stop
  := Iff.rfl

theorem nonempty?_eq_some_iff {s t : Span} :
  s.nonempty? = some t ↔ s = t ∧ s.start < s.stop
  := by
  unfold nonempty?
  split
  · simp_all
  · simp only [reduceCtorEq, false_iff]
    intro h
    exact absurd h.2 ‹_›

end Span

end LiveMarkdown
