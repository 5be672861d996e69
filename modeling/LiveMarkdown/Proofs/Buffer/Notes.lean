import LiveMarkdown.Proofs.Styling.Batch
import LiveMarkdown.Proofs.Styling.Extent

/-!
# What is noted of attribute edits

Whoever styles a buffer opens and ends batches and writes attributes, in any order: batches may be
nested, may never be ended, and may be ended without having been opened.  A write outside of all
batches is noted at once.  The writes in a batch are noted when the outermost batch around them
ends, by the smallest span that covers them.  Nothing else is noted.

* Which batches are open can be told from the calls alone.
* While a batch is open, the buffer keeps the smallest span that covers the writes since the
  outermost one was opened, and nothing if there were none.
* So each call notes what it should, and the notes are in the order of the calls.
-/

namespace LiveMarkdown

/-- A call that opens or ends a batch, or writes attributes. -/
inductive StylingCall where
  /-- Opens a batch. -/
  | beginBatch
  /-- Ends the innermost open batch, if any. -/
  | endBatch
  /-- Gives the code units in a span other attributes. -/
  | set (span : Span) (a : Attributes)
  /-- Adds an attribute to the code units in a span. -/
  | add (span : Span) (v : Attribute)

namespace StylingCall

/-- The span that a call writes in, if it writes. -/
def span? : StylingCall → Option Span
  | .set span _ | .add span _ => some span
  | .beginBatch | .endBatch => none

/-- The number of batches that are open after a call, if `n` of them were open before. -/
def openAfter (n : Nat) : StylingCall → Nat
  | .beginBatch => n + 1
  | .endBatch => n - 1
  | .set _ _ | .add _ _ => n

end StylingCall

/-- Carries out a call. -/
def Buffer.call (b : Buffer) : StylingCall → Buffer
  | .beginBatch => b.beginBatch
  | .endBatch => b.endBatch
  | .set span a => b.setAttributes span a
  | .add span v => b.addAttribute span v

/-- Carries out calls, one after the other. -/
def Buffer.callAll (b : Buffer) (calls : List StylingCall) : Buffer :=
  calls.foldl Buffer.call b

/-! ### What should be noted -/

section

variable (length : Nat) (calls : List StylingCall)

/-- The number of batches that are open before call `i`. -/
def openBefore (i : Nat) : Nat :=
  (calls.take i).foldl StylingCall.openAfter 0

/-- Call `i` writes in a span: in what lies in a buffer of some length, unless that is empty. -/
def WritesAt (i : Nat) (s : Span) : Prop :=
  ∃ call ∈ calls[i]?, ∃ span ∈ call.span?,
    s = ⟨min span.start length, min span.stop length⟩ ∧ s.start < s.stop

/-- Call `first` has opened the outermost one of the batches that are open before call `i`. -/
structure Opens (first i : Nat) : Prop where
  /-- The one call is made before the other. -/
  order : first < i
  /-- The call opens a batch. -/
  begins : calls[first]? = some .beginBatch
  /-- The batch is not inside another one. -/
  outermost : openBefore calls first = 0
  /-- The batch has not been ended. -/
  since : ∀ j, first < j → j ≤ i → 0 < openBefore calls j

/-- Calls `first` and `last` open and end an outermost batch. -/
structure IsOutermost (first last : Nat) : Prop extends Opens calls first last where
  /-- The last call ends a batch. -/
  ends : calls[last]? = some .endBatch
  /-- No batch remains open. -/
  closed : openBefore calls (last + 1) = 0

/-- A span is the smallest one that covers some spans, and there are some. -/
structure Span.IsHull (s : Span) (P : Span → Prop) : Prop where
  /-- There are some. -/
  exists_mem : ∃ t, P t
  /-- The span covers them. -/
  covers : ∀ t, P t → s.covers t
  /-- Every span that covers them covers the span. -/
  least : ∀ r : Span, (∀ t, P t → r.covers t) → r.covers s

/-- A call between two calls writes in a span. -/
def WritesBetween (first last : Nat) (s : Span) : Prop :=
  ∃ i, first < i ∧ i < last ∧ WritesAt length calls i s

/-- What call `i` should note. -/
inductive ShouldNote (i : Nat) (s : Span) : Prop
  /-- A write outside of all batches. -/
  | write (outside : openBefore calls i = 0) (writes : WritesAt length calls i s)
  /-- The writes in an outermost batch, when it ends. -/
  | batch (first : Nat) (outermost : IsOutermost calls first i)
      (hull : s.IsHull (WritesBetween length calls first i))

end

/-! ### The batches that are open -/

section

variable {length : Nat} {calls : List StylingCall} {call : StylingCall} {first first' i : Nat}
  {s t : Span}

theorem openBefore_succ (made : calls[i]? = some call) :
  openBefore calls (i + 1) = call.openAfter (openBefore calls i)
  := by
  rw [openBefore, List.take_add_one, made, List.foldl_append]
  rfl

/-- When a batch is open, a call has opened the outermost one. -/
theorem exists_opens (inside : 0 < openBefore calls i) :
  ∃ first, Opens calls first i
  := by
  induction i with
  | zero => cases inside
  | succ i ih =>
    by_cases before : 0 < openBefore calls i
    · obtain ⟨first, order, begins, outermost, since⟩ := ih before
      refine ⟨first, order.trans (Nat.lt_succ_self i), begins, outermost, ?_⟩
      intro j after le
      rcases Nat.le_or_eq_of_le_succ le with earlier | rfl
      · exact since j after earlier
      · exact inside
    · have none : openBefore calls i = 0 := Nat.eq_zero_of_not_pos before
      have begins : calls[i]? = some .beginBatch := by
        cases made : calls[i]? with
        | none =>
          rw [openBefore, List.take_add_one, made] at inside
          simp only [Option.toList_none, List.append_nil] at inside
          exact absurd inside before
        | some call =>
          rw [openBefore_succ made, none] at inside
          cases call with
          | beginBatch => rfl
          | endBatch | set | add => cases inside
      refine ⟨i, Nat.lt_succ_self i, begins, none, ?_⟩
      intro j after le
      obtain rfl : j = i + 1 := by omega
      exact inside

theorem Opens.inside (opens : Opens calls first i) :
  0 < openBefore calls i
  := opens.since i opens.order le_rfl

/-- Only one call has opened the outermost batch. -/
theorem Opens.unique (opens : Opens calls first i) (opens' : Opens calls first' i) :
  first = first'
  := by
  rcases Nat.lt_trichotomy first first' with less | same | greater
  · have inside := opens.since first' less opens'.order.le
    rw [opens'.outermost] at inside
    cases inside
  · exact same
  · have inside := opens'.since first greater opens.order.le
    rw [opens.outermost] at inside
    cases inside

theorem Opens.of_succ (opens : Opens calls first (i + 1)) :
  first = i ∨ Opens calls first i
  := by
  rcases Nat.lt_succ_iff_lt_or_eq.mp opens.order with less | same
  · right
    exact ⟨less, opens.begins, opens.outermost, fun j after le => opens.since j after (by omega)⟩
  · left
    exact same

theorem IsOutermost.openBefore_last (outermost : IsOutermost calls first i) :
  openBefore calls i = 1
  := by
  have inside := outermost.inside
  have after := outermost.closed
  rw [openBefore_succ outermost.ends, StylingCall.openAfter] at after
  omega

theorem not_writesAt (made : calls[i]? = some call) (none : call.span? = none) :
  ¬ WritesAt length calls i s
  := by
  rintro ⟨call', made', span, named, -⟩
  obtain rfl := Option.some.inj (made.symm.trans made')
  rw [none] at named
  cases named

/-- A call that writes opens no batch and ends none. -/
theorem StylingCall.openAfter_of_span? {span : Span} (named : call.span? = some span) (n : Nat) :
  call.openAfter n = n
  := by
  cases call with
  | beginBatch | endBatch => cases named
  | set | add => rfl

theorem Opens.of_write {span : Span} (made : calls[i]? = some call)
    (named : call.span? = some span) (opens : Opens calls first (i + 1)) :
  Opens calls first i
  := by
  rcases opens.of_succ with rfl | before
  · obtain rfl := Option.some.inj (made.symm.trans opens.begins)
    cases named
  · exact before

theorem not_isOutermost_of_write {span : Span} (made : calls[i]? = some call)
    (named : call.span? = some span) :
  ¬ IsOutermost calls first i
  := by
  intro outermost
  obtain rfl := Option.some.inj (made.symm.trans outermost.ends)
  cases named

theorem WritesAt.unique (writes : WritesAt length calls i s) (writes' : WritesAt length calls i t) :
  s = t
  := by
  obtain ⟨call, made, span, named, rfl, -⟩ := writes
  obtain ⟨call', made', span', named', rfl, -⟩ := writes'
  obtain rfl := Option.some.inj (made.symm.trans made')
  obtain rfl := Option.some.inj (named.symm.trans named')
  rfl

/-- A call that writes nothing adds nothing to what was written. -/
theorem writesBetween_succ_of_not (quiet : ∀ t, ¬ WritesAt length calls i t) :
  WritesBetween length calls first (i + 1) = WritesBetween length calls first i
  := by
  funext t
  apply propext
  constructor
  · rintro ⟨j, after, before, writes⟩
    rcases Nat.lt_succ_iff_lt_or_eq.mp before with less | rfl
    · exact ⟨j, after, less, writes⟩
    · exact absurd writes (quiet t)
  · rintro ⟨j, after, before, writes⟩
    exact ⟨j, after, before.trans (Nat.lt_succ_self i), writes⟩

/-- A call that writes adds its span to what was written. -/
theorem writesBetween_succ (writes : WritesAt length calls i s) (after : first < i) :
  WritesBetween length calls first (i + 1) = fun t => WritesBetween length calls first i t ∨ t = s
  := by
  funext t
  apply propext
  constructor
  · rintro ⟨j, later, before, other⟩
    rcases Nat.lt_succ_iff_lt_or_eq.mp before with less | rfl
    · left
      exact ⟨j, later, less, other⟩
    · right
      exact other.unique writes
  · rintro (⟨j, later, before, other⟩ | rfl)
    · exact ⟨j, later, before.trans (Nat.lt_succ_self i), other⟩
    · exact ⟨i, after, Nat.lt_succ_self i, writes⟩

end

/-! ### Smallest spans -/

namespace Span

variable {s t w : Span} {P : Span → Prop}

theorem IsHull.unique (first : s.IsHull P) (second : t.IsHull P) :
  s = t
  := by
  have le := covers_iff.mp (first.least t second.covers)
  have ge := covers_iff.mp (second.least s first.covers)
  cases s
  cases t
  simp only [Span.mk.injEq]
  dsimp only at le ge
  omega

theorem isHull_of_only (none : ∀ t, ¬ P t) (w : Span) :
  w.IsHull fun t => P t ∨ t = w
  where
  exists_mem := ⟨w, .inr rfl⟩
  covers := by
    rintro t (other | rfl)
    · exact absurd other (none t)
    · exact covers_iff.mpr ⟨le_rfl, le_rfl⟩
  least r above := above w (.inr rfl)

theorem IsHull.insert (hull : s.IsHull P) (w : Span) :
  (s.hull w).IsHull fun t => P t ∨ t = w
  where
  exists_mem := ⟨w, .inr rfl⟩
  covers := by
    rintro t (other | rfl)
    · have inside := covers_iff.mp (hull.covers t other)
      exact covers_iff.mpr ⟨(Nat.min_le_left ..).trans inside.1, inside.2.trans (Nat.le_max_left ..)⟩
    · exact covers_iff.mpr ⟨Nat.min_le_right .., Nat.le_max_right ..⟩
  least r above := by
    have first := covers_iff.mp (hull.least r fun t other => above t (.inl other))
    have second := covers_iff.mp (above w (.inr rfl))
    exact covers_iff.mpr ⟨Nat.le_min.mpr ⟨first.1, second.1⟩, Nat.max_le.mpr ⟨first.2, second.2⟩⟩

end Span

/-! ### What a buffer keeps -/

/-- What a buffer keeps of the calls before call `i`. -/
structure Buffer.Follows (length : Nat) (calls : List StylingCall) (i : Nat) (b : Buffer) : Prop where
  /-- The length is the same. -/
  size : b.length = length
  /-- It counts the batches that are open. -/
  depth : b.depth = openBefore calls i
  /-- If none is open there is nothing that remains to be noted. -/
  idle : b.depth = 0 → b.batch = none
  /-- It keeps the smallest span that covers what was written in the outermost batch. -/
  hull : ∀ first, Opens calls first i → ∀ s, b.batch = some s →
    s.IsHull (WritesBetween length calls first i)
  /-- If it keeps none, nothing was written. -/
  empty : ∀ first, Opens calls first i → b.batch = none →
    ∀ s, ¬ WritesBetween length calls first i s

namespace Buffer

variable {length : Nat} {calls : List StylingCall} {call : StylingCall} {first i : Nat}
  {b c : Buffer} {s span : Span}

theorem writesAt_iff (made : calls[i]? = some call) (named : call.span? = some span)
    (size : b.length = length) :
  WritesAt length calls i s ↔ b.clamp? span = some s
  := by
  rw [clamp?, size, Span.nonempty?_eq_some_iff]
  constructor
  · rintro ⟨call', made', span', named', rfl, order⟩
    obtain rfl := Option.some.inj (made.symm.trans made')
    obtain rfl := Option.some.inj (named.symm.trans named')
    exact ⟨rfl, order⟩
  · rintro ⟨rfl, order⟩
    exact ⟨call, made, span, named, rfl, order⟩

/-- A call notes what it should, and the buffer keeps what it should. -/
def Steps (length : Nat) (calls : List StylingCall) (i : Nat) (b c : Buffer) : Prop :=
  ∃ note : Option Span, c.edits = b.edits ++ (note.map Edit.ofSpan).toArray
    ∧ (∀ s, note = some s ↔ ShouldNote length calls i s) ∧ c.Follows length calls (i + 1)

/-- A call that writes nothing and does not end an outermost batch notes nothing. -/
theorem step_of_quiet (made : calls[i]? = some call) (quiet : ∀ t, ¬ WritesAt length calls i t)
    (edits : c.edits = b.edits) (inside : call = .endBatch → openBefore calls i ≠ 1)
    (next : c.Follows length calls (i + 1)) :
  b.Steps length calls i c
  := by
  refine ⟨none, ?_, ?_, next⟩
  · rw [edits]
    exact Array.append_empty.symm
  · intro s
    refine ⟨nofun, ?_⟩
    rintro (⟨-, writes⟩ | ⟨first, outermost, -⟩)
    · exact absurd writes (quiet s)
    · apply absurd outermost.openBefore_last
      apply inside
      exact Option.some.inj (made.symm.trans outermost.ends)

/-- A write outside of all batches is noted. -/
theorem update_of_closed {inside : Span} (outside : b.depth = 0)
    (clamped : b.clamp? span = some inside) (f : Attributes → Attributes) :
  (b.update span f).depth = b.depth ∧ (b.update span f).batch = b.batch
    ∧ (b.update span f).edits = b.edits ++ (some (Edit.ofSpan inside)).toArray
  := by
  simp only [update, clamped, noteAttributes]
  rw [if_pos outside]
  exact ⟨rfl, rfl, rfl⟩

/-- The end of a batch inside another one, or of no batch. -/
theorem endBatch_of_not_last (other : b.depth ≠ 1) (idle : b.depth = 0 → b.batch = none) :
  b.endBatch.edits = b.edits ∧ b.endBatch.depth = b.depth - 1 ∧ b.endBatch.batch = b.batch
  := by
  by_cases none : b.depth - 1 = 0
  · have empty := idle (by omega)
    simp [endBatch, none, empty]
  · simp [endBatch, none]

namespace Follows

variable (follows : b.Follows length calls i)
include follows

/-- When a batch is open, the buffer keeps the smallest span that covers what was written in it. -/
theorem batch_eq_some_iff (opens : Opens calls first i) :
  b.batch = some s ↔ s.IsHull (WritesBetween length calls first i)
  := by
  constructor
  · exact follows.hull first opens s
  · intro hull
    cases kept : b.batch with
    | none =>
      obtain ⟨t, writes⟩ := hull.exists_mem
      exact absurd writes (follows.empty first opens kept t)
    | some t => rw [hull.unique (follows.hull first opens t kept)]

/-- A buffer that is left with no open batch and nothing to be noted. -/
theorem of_closed (size : c.length = b.length) (closed : c.IsClosed)
    (none : openBefore calls (i + 1) = 0) :
  c.Follows length calls (i + 1)
  := by
  have outside (first : Nat) : ¬ Opens calls first (i + 1) := by
    intro opens
    have inside := opens.inside
    rw [none] at inside
    cases inside
  exact ⟨size.trans follows.size, closed.depth.trans none.symm, fun _ => closed.batch,
    fun first opens => absurd opens (outside first), fun first opens => absurd opens (outside first)⟩

/-- A call that writes nothing and does not end an outermost batch. -/
theorem of_quiet (made : calls[i]? = some call) (quiet : ∀ t, ¬ WritesAt length calls i t)
    (size : c.length = b.length) (depth : c.depth = call.openAfter b.depth)
    (batch : c.batch = b.batch) (idle : c.depth = 0 → b.depth = 0) :
  c.Follows length calls (i + 1)
  where
  size := size.trans follows.size
  depth := by rw [depth, openBefore_succ made, follows.depth]
  idle none := batch.trans (follows.idle (idle none))
  hull first opens s kept := by
    rw [batch] at kept
    rw [writesBetween_succ_of_not quiet]
    rcases opens.of_succ with rfl | opens'
    · rw [follows.idle (follows.depth.trans opens.outermost)] at kept
      cases kept
    · exact follows.hull first opens' s kept
  empty first opens kept := by
    rw [batch] at kept
    rw [writesBetween_succ_of_not quiet]
    rcases opens.of_succ with rfl | opens'
    · rintro s ⟨j, after, before, -⟩
      omega
    · exact follows.empty first opens' kept

/-! ### One call -/

theorem step_beginBatch (made : calls[i]? = some .beginBatch) :
  b.Steps length calls i b.beginBatch
  := by
  have quiet (t : Span) : ¬ WritesAt length calls i t := not_writesAt made rfl
  have edits : b.beginBatch.edits = b.edits := rfl
  apply step_of_quiet made quiet edits nofun
  exact follows.of_quiet made quiet rfl rfl rfl nofun

theorem step_endBatch (made : calls[i]? = some .endBatch) :
  b.Steps length calls i b.endBatch
  := by
  have quiet (t : Span) : ¬ WritesAt length calls i t := not_writesAt made rfl
  have size : b.endBatch.length = b.length := length_eq_of_version (version_endBatch b)
  have after : openBefore calls (i + 1) = b.depth - 1 := by
    rw [openBefore_succ made, follows.depth]
    rfl
  by_cases last : b.depth = 1
  · obtain ⟨closed, edits⟩ := endBatch_of_last last
    have none : openBefore calls (i + 1) = 0 := by rw [after, last]
    obtain ⟨first, opens⟩ := exists_opens (by rw [← follows.depth, last]; exact Nat.one_pos)
    refine ⟨b.batch, edits, ?_, follows.of_closed size closed none⟩
    intro s
    rw [follows.batch_eq_some_iff opens]
    constructor
    · intro hull
      exact .batch first ⟨opens, made, none⟩ hull
    · rintro (⟨outside, -⟩ | ⟨first', outermost, hull⟩)
      · rw [← follows.depth, last] at outside
        cases outside
      · rw [opens.unique outermost.toOpens]
        exact hull
  · have inside : openBefore calls i ≠ 1 := by
      rw [← follows.depth]
      exact last
    obtain ⟨edits, depth, batch⟩ := endBatch_of_not_last last follows.idle
    apply step_of_quiet made quiet edits fun _ => inside
    apply follows.of_quiet made quiet size depth batch
    omega

/-- A write that is empty. -/
theorem step_update_of_empty (made : calls[i]? = some call) (named : call.span? = some span)
    (clamped : b.clamp? span = none) (f : Attributes → Attributes) :
  b.Steps length calls i (b.update span f)
  := by
  have unchanged : b.update span f = b := by rw [update, clamped]
  have quiet (t : Span) : ¬ WritesAt length calls i t := by
    rw [writesAt_iff made named follows.size, clamped]
    intro some
    cases some
  have ends : call ≠ .endBatch := by
    rintro rfl
    cases named
  rw [unchanged]
  apply step_of_quiet made quiet rfl fun last => absurd last ends
  exact follows.of_quiet made quiet rfl (StylingCall.openAfter_of_span? named b.depth).symm rfl id

/-- A write outside of all batches. -/
theorem step_update_of_closed (made : calls[i]? = some call) (named : call.span? = some span)
    {inside : Span} (clamped : b.clamp? span = some inside) (outside : b.depth = 0)
    (f : Attributes → Attributes) :
  b.Steps length calls i (b.update span f)
  := by
  have written : WritesAt length calls i inside :=
    (writesAt_iff made named follows.size).mpr clamped
  have before : openBefore calls i = 0 := follows.depth.symm.trans outside
  have after : openBefore calls (i + 1) = 0 := by
    rw [openBefore_succ made, StylingCall.openAfter_of_span? named, before]
  obtain ⟨depth, batch, edits⟩ := update_of_closed outside clamped f
  have closed : (b.update span f).IsClosed :=
    ⟨depth.trans outside, batch.trans (follows.idle outside)⟩
  refine ⟨some inside, edits, ?_, follows.of_closed (length_update b span f) closed after⟩
  intro s
  constructor
  · rintro ⟨⟩
    exact .write before written
  · rintro (⟨-, writes⟩ | ⟨first, outermost, -⟩)
    · exact congrArg some (written.unique writes)
    · exact absurd outermost (not_isOutermost_of_write made named)

/-- A write in a batch is kept until the batch ends. -/
theorem step_update_of_open (made : calls[i]? = some call) (named : call.span? = some span)
    {inside : Span} (clamped : b.clamp? span = some inside) (within : b.depth ≠ 0)
    (f : Attributes → Attributes) :
  b.Steps length calls i (b.update span f)
  := by
  have written : WritesAt length calls i inside :=
    (writesAt_iff made named follows.size).mpr clamped
  have after : openBefore calls (i + 1) = b.depth := by
    rw [openBefore_succ made, StylingCall.openAfter_of_span? named, follows.depth]
  obtain ⟨depth, edits, batch⟩ := update_of_open within clamped f
  refine ⟨none, ?_, ?_, (length_update b span f).trans follows.size, depth.trans after.symm,
    ?_, ?_, ?_⟩
  · rw [edits]
    exact Array.append_empty.symm
  · intro s
    constructor
    · intro some
      cases some
    · rintro (⟨outside, -⟩ | ⟨first, outermost, -⟩)
      · exact absurd (follows.depth.trans outside) within
      · exact absurd outermost (not_isOutermost_of_write made named)
  · intro none
    exact absurd (depth.symm.trans none) within
  · intro first opens s kept
    have opened := opens.of_write made named
    rw [writesBetween_succ written opened.order]
    rw [batch] at kept
    obtain rfl := Option.some.inj kept
    cases pending : b.batch with
    | none => exact Span.isHull_of_only (follows.empty first opened pending) inside
    | some before => exact (follows.hull first opened before pending).insert inside
  · intro first opens none
    rw [batch] at none
    cases none

theorem step_update (made : calls[i]? = some call) (named : call.span? = some span)
    (f : Attributes → Attributes) :
  b.Steps length calls i (b.update span f)
  := by
  cases clamped : b.clamp? span with
  | none => exact follows.step_update_of_empty made named clamped f
  | some inside =>
    by_cases outside : b.depth = 0
    · exact follows.step_update_of_closed made named clamped outside f
    · exact follows.step_update_of_open made named clamped outside f

theorem step (made : calls[i]? = some call) :
  b.Steps length calls i (b.call call)
  := by
  cases call with
  | beginBatch => exact follows.step_beginBatch made
  | endBatch => exact follows.step_endBatch made
  | set span a => exact follows.step_update made rfl fun _ => a
  | add span v => exact follows.step_update made rfl fun old => old.set v

end Follows

/-! ### All calls -/

/-- Before the first call nothing is kept. -/
theorem IsClosed.follows (closed : b.IsClosed) (calls : List StylingCall) :
  b.Follows b.length calls 0
  where
  size := rfl
  depth := closed.depth
  idle _ := closed.batch
  hull first opens := absurd opens.order (Nat.not_lt_zero first)
  empty first opens := absurd opens.order (Nat.not_lt_zero first)

theorem callAll_take_succ (b : Buffer) (made : calls[i]? = some call) :
  b.callAll (calls.take (i + 1)) = (b.callAll (calls.take i)).call call
  := by
  rw [callAll, List.take_add_one, made, List.foldl_append]
  rfl

/-- The notes of the calls so far, each with the call that noted it, are those that there should
be, in the order of the calls. -/
def Noted (b : Buffer) (calls : List StylingCall) (k : Nat) (notes : List (Nat × Span)) : Prop :=
  (b.callAll (calls.take k)).edits
      = b.edits ++ (notes.map fun note => Edit.ofSpan note.2).toArray
    ∧ notes.Pairwise (fun note later => note.1 < later.1)
    ∧ ∀ i s, (i, s) ∈ notes ↔ i < k ∧ ShouldNote b.length calls i s

theorem noted_zero (b : Buffer) (calls : List StylingCall) :
  b.Noted calls 0 []
  := by
  refine ⟨Array.append_empty.symm, .nil, ?_⟩
  intro i s
  simp

theorem Noted.step {k : Nat} {notes : List (Nat × Span)} (noted : b.Noted calls k notes)
    (stepped : Steps b.length calls k (b.callAll (calls.take k)) (b.callAll (calls.take (k + 1)))) :
  ∃ notes', b.Noted calls (k + 1) notes'
  := by
  obtain ⟨edits, order, before⟩ := noted
  obtain ⟨note, edits', here, -⟩ := stepped
  use notes ++ (note.map fun s => (k, s)).toList
  refine ⟨?_, ?_, ?_⟩
  · rw [edits', edits]
    cases note <;> simp
  · apply List.pairwise_append.mpr
    refine ⟨order, ?_, ?_⟩
    · cases note <;> simp
    · rintro ⟨i, s⟩ earlier ⟨j, t⟩ now
      obtain ⟨t', -, same⟩ := Option.map_eq_some_iff.mp (Option.mem_toList.mp now)
      obtain ⟨rfl, -⟩ := Prod.mk.inj same
      exact ((before i s).mp earlier).1
  · intro i s
    rw [List.mem_append, before, Option.mem_toList, Option.map_eq_some_iff]
    constructor
    · rintro (⟨earlier, should⟩ | ⟨t, kept, same⟩)
      · exact ⟨earlier.trans (Nat.lt_succ_self k), should⟩
      · obtain ⟨rfl, rfl⟩ := Prod.mk.inj same
        exact ⟨Nat.lt_succ_self _, (here _).mp kept⟩
    · rintro ⟨le, should⟩
      rcases Nat.lt_succ_iff_lt_or_eq.mp le with earlier | rfl
      · exact .inl ⟨earlier, should⟩
      · exact .inr ⟨s, (here s).mpr should, rfl⟩

theorem exists_noted (closed : b.IsClosed) {k : Nat} (within : k ≤ calls.length) :
  (∃ notes, b.Noted calls k notes) ∧ (b.callAll (calls.take k)).Follows b.length calls k
  := by
  induction k with
  | zero => exact ⟨⟨[], noted_zero b calls⟩, closed.follows calls⟩
  | succ k ih =>
    obtain ⟨⟨notes, noted⟩, follows⟩ := ih (Nat.le_of_succ_le within)
    have made := List.getElem?_eq_getElem within
    have stepped := follows.step made
    rw [← callAll_take_succ b made] at stepped
    have more := noted.step stepped
    obtain ⟨-, -, -, follows'⟩ := stepped
    exact ⟨more, follows'⟩

/-- Whatever calls are made when no batch is open, in any order, after each of them exactly those
edits have been noted that should be, in the order of the calls that note them: each write outside
of all batches by itself, and the writes in an outermost batch, if there are any, when it ends, by
the smallest span that covers them.  The buffer counts the batches that are open, and when there
are none, nothing remains to be noted. -/
theorem notes_callAll (closed : b.IsClosed) (calls : List StylingCall) {k : Nat}
    (within : k ≤ calls.length) :
  let c := b.callAll (calls.take k)
  (∃ notes : List (Nat × Span),
    c.edits = b.edits ++ (notes.map fun note => Edit.ofSpan note.2).toArray
    ∧ notes.Pairwise (fun note later => note.1 < later.1)
    ∧ ∀ i s, (i, s) ∈ notes ↔ i < k ∧ ShouldNote b.length calls i s)
  ∧ c.depth = openBefore calls k ∧ (c.depth = 0 → c.IsClosed)
  := by
  obtain ⟨noted, follows⟩ := exists_noted closed within
  exact ⟨noted, follows.depth, fun none => ⟨none, follows.idle none⟩⟩

/-- A write outside of all batches, one in a batch inside another one, one that goes beyond the end
of the text, and a batch that is not ended; also one write that is empty, and one end too many. -/
theorem notes_callAll_nested :
  let b := Buffer.ofText "abcdef".toList {}
  let calls : List StylingCall := [.set ⟨0, 1⟩ {}, .add ⟨4, 2⟩ (.underline .single), .beginBatch,
    .beginBatch, .add ⟨2, 3⟩ (.underline .single), .endBatch, .set ⟨5, 9⟩ {}, .endBatch, .endBatch,
    .beginBatch, .set ⟨0, 6⟩ {}]
  b.IsClosed ∧ 11 ≤ calls.length
    ∧ (b.callAll (calls.take 11)).edits.toList
      = [⟨.attributes, ⟨0, 1⟩, 0⟩, ⟨.attributes, ⟨2, 6⟩, 0⟩]
    ∧ ∃ notes : List (Nat × Span), notes.map (fun note => Edit.ofSpan note.2)
        = [⟨.attributes, ⟨0, 1⟩, 0⟩, ⟨.attributes, ⟨2, 6⟩, 0⟩]
      ∧ notes.Pairwise (fun note later => note.1 < later.1)
      ∧ ∀ i s, (i, s) ∈ notes ↔ i < 11 ∧ ShouldNote b.length calls i s
  := by
  intro b calls
  have closed : b.IsClosed := ⟨rfl, rfl⟩
  have edits : (b.callAll (calls.take 11)).edits.toList
      = [⟨.attributes, ⟨0, 1⟩, 0⟩, ⟨.attributes, ⟨2, 6⟩, 0⟩] := by
    decide +kernel
  obtain ⟨⟨notes, noted, order, should⟩, -⟩ := notes_callAll closed calls (k := 11) (by decide)
  have all := congrArg Array.toList noted
  rw [edits, Array.toList_append] at all
  exact ⟨closed, by decide, edits, notes, all.symm, order, should⟩

end Buffer

end LiveMarkdown
