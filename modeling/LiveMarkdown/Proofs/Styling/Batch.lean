import LiveMarkdown.Proofs.Styling.Splice

/-!
# What styling tells of itself

A pass writes many times, and tells of it once: it opens a batch, and when it ends the batch, the
smallest span that covers all writes is noted.

* While the batch is open, the code units that have changed are those of the span that will be
  noted, and this span lies where the pass writes.
* When the batch ends, at most one edit is noted, and no batch is open.
* This holds of each of the four passes.  Each writes in the span that it is said to style.
-/

namespace LiveMarkdown

namespace Span

/-- A span is a part of another one, and of what lies before a limit.  It is not empty. -/
structure IsPart (s range : Span) (limit : Nat) : Prop where
  /-- The part is not empty. -/
  order : s.start < s.stop
  /-- It starts in the span. -/
  start : range.start ≤ s.start
  /-- It stops in the span. -/
  stop : s.stop ≤ range.stop
  /-- It stops at the limit or before. -/
  limit : s.stop ≤ limit

theorem IsPart.hull {s t range : Span} {limit : Nat} (hs : s.IsPart range limit)
    (ht : t.IsPart range limit) :
  (s.hull t).IsPart range limit
  where
  order := (Nat.min_le_left _ _).trans_lt (hs.order.trans_le (Nat.le_max_left _ _))
  start := Nat.le_min.mpr ⟨hs.start, ht.start⟩
  stop := Nat.max_le.mpr ⟨hs.stop, ht.stop⟩
  limit := Nat.max_le.mpr ⟨hs.limit, ht.limit⟩

theorem mem_hull {s t : Span} {u : Nat} (h : u ∈ s ∨ u ∈ t) :
  u ∈ s.hull t
  := by
  simp only [mem_iff, Span.hull] at *
  omega

end Span

/-- The note that the attributes in a span changed. -/
def Edit.ofSpan (s : Span) : Edit :=
  ⟨.attributes, s, 0⟩

namespace Buffer

/-- No batch is open, and none remains to be noted. -/
structure IsClosed (b : Buffer) : Prop where
  /-- No batch is open. -/
  depth : b.depth = 0
  /-- There is nothing to be noted. -/
  batch : b.batch = none

/-- A buffer becomes another one by changes of the attributes in a span, or not at all.  The span
lies in the buffer and in the range of what is being styled. -/
structure Restyles (range : Span) (changed : Option Span) (b c : Buffer) : Prop where
  /-- The text stays as it is. -/
  version : c.version = b.version
  /-- The span lies in the range and in the buffer. -/
  isPart : ∀ s ∈ changed, s.IsPart range b.length
  /-- The other code units keep their attributes. -/
  rest : ∀ u, (∀ s ∈ changed, u ∉ s) → c.attributes[u]? = b.attributes[u]?

/-- A buffer becomes another one in which one batch is open. -/
structure Batches (range : Span) (b c : Buffer) : Prop where
  /-- The changes are those that will be noted. -/
  restyles : Restyles range c.batch b c
  /-- One batch is open. -/
  depth : c.depth = 1
  /-- Nothing has been noted. -/
  edits : c.edits = b.edits

/-- A buffer becomes another one by one batch. -/
def Notes (range : Span) (b c : Buffer) : Prop :=
  ∃ changed, Restyles range changed b c ∧ c.IsClosed
    ∧ c.edits = b.edits ++ (changed.map Edit.ofSpan).toArray

section

variable {range : Span} {b c : Buffer}

theorem restyles_self (range : Span) (b : Buffer) :
  Restyles range none b b
  where
  version := rfl
  isPart := nofun
  rest := by
    intro u _
    rfl

/-- A buffer that is left alone has nothing to note. -/
theorem IsClosed.notes (closed : b.IsClosed) (range : Span) :
  Notes range b b
  := ⟨none, restyles_self range b, closed, Array.append_empty.symm⟩

theorem IsClosed.batches (closed : b.IsClosed) (range : Span) :
  Batches range b b.beginBatch
  where
  restyles := by
    have none : b.beginBatch.batch = none := closed.batch
    obtain ⟨version, isPart, rest⟩ := restyles_self range b
    rw [none]
    exact ⟨version, isPart, rest⟩
  depth := congrArg Nat.succ closed.depth
  edits := rfl

/-- Where a write takes place that lies in a range. -/
theorem isPart_of_clamp?_eq_some {span inside : Span} (h : b.clamp? span = some inside)
    (within : ∀ u ∈ span, u ∈ range) :
  inside.IsPart range b.length
  := by
  have shown (u : Nat) (hu : u ∈ inside) : u ∈ range ∧ u < b.length := by
    obtain ⟨hu, short⟩ := (mem_of_clamp?_eq_some h).mp hu
    exact ⟨within u hu, short⟩
  have order : inside.start < inside.stop := by
    obtain ⟨rfl, order⟩ := Span.nonempty?_eq_some_iff.mp h
    exact order
  -- the bounds of a span that is not empty are told by its first and its last position
  obtain ⟨first, -⟩ := shown inside.start (Span.mem_iff.mpr ⟨le_rfl, order⟩)
  obtain ⟨last, short⟩ := shown (inside.stop - 1) (Span.mem_iff.mpr (by omega))
  rw [Span.mem_iff] at first last
  exact ⟨order, first.1, by omega, by omega⟩

/-- A write leaves alone what lies outside its part of the buffer. -/
theorem getElem?_update_of_not_mem {span inside : Span} (h : b.clamp? span = some inside)
    (f : Attributes → Attributes) {u : Nat} (outside : u ∉ inside) :
  (b.update span f).attributes[u]? = b.attributes[u]?
  := by
  rw [getElem?_update]
  by_cases hu : u ∈ span
  · have beyond : b.attributes.size ≤ u := by
      by_contra short
      exact outside ((mem_of_clamp?_eq_some h).mpr ⟨hu, Nat.lt_of_not_le short⟩)
    rw [if_pos hu, Array.getElem?_eq_none beyond]
    rfl
  · rw [if_neg hu]

/-- A write in an open batch is added to what will be noted. -/
theorem update_of_open {span inside : Span} (opened : b.depth ≠ 0)
    (h : b.clamp? span = some inside) (f : Attributes → Attributes) :
  (b.update span f).depth = b.depth ∧ (b.update span f).edits = b.edits
    ∧ (b.update span f).batch = some (match b.batch with
      | some pending => pending.hull inside
      | none => inside)
  := by
  simp only [update, h, noteAttributes]
  rw [if_neg opened]
  exact ⟨rfl, rfl, rfl⟩

/-- A write in the range keeps a batch in the range. -/
theorem Batches.update (batches : Batches range b c) {span : Span}
    (within : ∀ u ∈ span, u ∈ range) (f : Attributes → Attributes) :
  Batches range b (c.update span f)
  := by
  cases clamped : c.clamp? span with
  | none =>
    have same : c.update span f = c := by rw [Buffer.update, clamped]
    rw [same]
    exact batches
  | some inside =>
    obtain ⟨⟨version, isPart, rest⟩, depth, edits⟩ := batches
    have opened : c.depth ≠ 0 := by
      rw [depth]
      exact Nat.one_ne_zero
    obtain ⟨depth', edits', batch⟩ := update_of_open opened clamped f
    have part : inside.IsPart range b.length := by
      rw [← length_eq_of_version version]
      exact isPart_of_clamp?_eq_some clamped within
    have kept (u : Nat) (outside : u ∉ inside) := getElem?_update_of_not_mem clamped f outside
    refine ⟨?_, depth'.trans depth, edits'.trans edits⟩
    rw [batch]
    -- this is the first write, or what is noted is the hull of this write and those before it
    cases pending : c.batch with
    | none =>
      refine ⟨(version_update c span f).trans version, ?_, ?_⟩
      · rintro _ ⟨⟩
        exact part
      · intro u outside
        rw [kept u (outside _ rfl)]
        apply rest u
        rw [pending]
        intro w hw
        cases hw
    | some before =>
      refine ⟨(version_update c span f).trans version, ?_, ?_⟩
      · rintro _ ⟨⟩
        exact (isPart _ pending).hull part
      · intro u outside
        have outside := outside _ rfl
        rw [kept u fun hu => outside (Span.mem_hull (.inr hu))]
        apply rest u
        rw [pending]
        rintro _ ⟨⟩ hu
        exact outside (Span.mem_hull (.inl hu))

/-- Strokes in a batch are added to what will be noted. -/
theorem Batches.strokes (batches : Batches range b c) {window : Option Span} {ks : List Stroke}
    (within : ∀ k ∈ ks, ∀ u ∈ k.span, Shown window u → u ∈ range) :
  Batches range b (c.strokes window ks)
  := by
  apply strokes_induction c batches
  intro k hk d s v inside _ batches
  apply batches.update
  intro u hu
  exact within k hk u (inside u hu).1 (inside u hu).2

/-- The end of the only open batch. -/
theorem endBatch_of_last (last : b.depth = 1) :
  b.endBatch.IsClosed ∧ b.endBatch.edits = b.edits ++ (b.batch.map Edit.ofSpan).toArray
  := by
  have closed : b.depth - 1 = 0 := by rw [last]
  cases pending : b.batch with
  | none =>
    simp only [endBatch, closed, pending, if_true]
    exact ⟨⟨rfl, rfl⟩, Array.append_empty.symm⟩
  | some span =>
    simp only [endBatch, closed, pending, if_true, noteAttributes]
    exact ⟨⟨rfl, rfl⟩, rfl⟩

/-- When a batch ends, all that was written in it is noted. -/
theorem Batches.endBatch (batches : Batches range b c) :
  Notes range b c.endBatch
  := by
  obtain ⟨⟨version, isPart, rest⟩, depth, edits⟩ := batches
  obtain ⟨closed, noted⟩ := endBatch_of_last depth
  rw [edits] at noted
  refine ⟨c.batch, ⟨(version_endBatch c).trans version, isPart, ?_⟩, closed, noted⟩
  rw [attributes_endBatch]
  exact rest

end

end Buffer

/-! ### The passes -/

namespace Style

variable {b c : Buffer}

theorem notes_reset (style : Style) (closed : b.IsClosed) :
  Buffer.Notes ⟨0, b.length⟩ b (style.reset b)
  := by
  rw [reset]
  split
  · exact closed.notes _
  · apply Buffer.Batches.endBatch
    exact (closed.batches _).update (fun _ hu => hu) _

theorem notes_applyAll (style : Style) (closed : b.IsClosed) :
  Buffer.Notes ⟨0, b.length⟩ b (style.applyAll b)
  := by
  rw [applyAll]
  split
  · exact closed.notes _
  · have chars : (b.beginBatch.setAttributes ⟨0, b.length⟩ style.attributes).chars = b.chars :=
      Buffer.chars_eq_of_version (Buffer.version_setAttributes b.beginBatch _ _)
    dsimp only
    rw [walk_eq_strokes style chars]
    apply Buffer.Batches.endBatch
    apply Buffer.Batches.strokes
    · exact (closed.batches _).update (fun _ hu => hu) _
    · intro k hk u hu _
      obtain ⟨-, inside⟩ := Canvas.strokes_within_text (c := style.canvas b.chars) rfl 0 _ k hk u hu
      rw [Buffer.length_eq]
      exact ⟨Nat.zero_le u, inside.trans_eq (Nat.zero_add _)⟩

theorem notes_applyPart? {style : Style} (closed : b.IsClosed) {span : Span}
    (start : isBoundary b.chars span.start) (stop : isBoundary b.chars span.stop)
    (styled : style.applyPart? b span = some c) :
  Buffer.Notes span b c
  := by
  obtain ⟨order, -⟩ := (exists_applyPart?_iff style b span).mp ⟨c, styled⟩
  obtain ⟨cs, -, size, rfl⟩ := applyPart?_eq_some_of_isBoundary start stop styled
  apply Buffer.Batches.endBatch
  apply Buffer.Batches.strokes
  · exact (closed.batches _).update (fun _ hu => hu) _
  · intro k hk u hu _
    have within := Canvas.strokes_within_text rfl 0 _ k hk u hu
    rw [Span.length] at size
    dsimp only at within
    rw [Span.mem_iff]
    omega

theorem notes_applyLines? {style : Style} (closed : b.IsClosed) {s : Snapshot} {first last : Nat}
    {window : Span} (styled : style.applyLines? b s first last = some (window, c)) :
  Buffer.Notes window b c
  := by
  obtain ⟨-, -, -, rfl⟩ := applyLines?_eq_some styled
  apply Buffer.Batches.endBatch
  apply (closed.batches _).strokes
  intro k _ u _ shown
  rwa [shown_some] at shown

end Style

end LiveMarkdown
