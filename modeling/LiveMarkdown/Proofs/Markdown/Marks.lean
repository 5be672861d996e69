import LiveMarkdown.Markdown.Inline
import LiveMarkdown.Proofs.Markdown.Tokens

/-!
# The marks of nodes

Strong emphasis begins and ends with two ASCII characters, emphasis and a code span with one,
and a link begins with one.  A heading begins with number signs, or it has an underline.
Every part of a leaf has the marks of its kind, because it is made of tokens that have nothing
but ASCII characters.
-/

namespace LiveMarkdown.Markdown

namespace Source

/-- The first `n` and the last `n` bytes of a span are ASCII characters. -/
structure IsEnclosed (s : Source) (n : Nat) (span : Span) : Prop where
  /-- The first bytes. -/
  first : s.AreAscii ⟨span.start, span.start + n⟩
  /-- There are as many bytes. -/
  le : n ≤ span.stop
  /-- The last bytes. -/
  last : s.AreAscii ⟨span.stop - n, span.stop⟩

/-- There are `level` ASCII characters at a position and no other character after them. -/
structure IsNumbered (s : Source) (level i : Nat) : Prop where
  /-- The characters. -/
  signs : s.AreAscii ⟨i, i + level⟩
  /-- What follows them. -/
  next : ∀ c, s.get? (i + level) = some c → c.toNat < 0x80

/-- A line that makes a heading of some level of the text before it ends at a position. -/
def IsUnderlined (s : Source) (level stop : Nat) : Prop :=
  ∃ i < stop, s.underline? i = some (level, stop)

instance (s : Source) (level stop : Nat) : Decidable (s.IsUnderlined level stop) :=
  inferInstanceAs (Decidable (∃ i < stop, s.underline? i = some (level, stop)))

/-- A span has the marks that a node of some kind has. -/
def IsMarked (s : Source) (span : Span) : NodeKind → Prop
  | .heading level => s.IsNumbered level span.start ∨ s.IsUnderlined level span.stop
  | .strong => s.IsEnclosed 2 span
  | .emphasis | .inlineCode => s.IsEnclosed 1 span
  | .link _ => s.IsAscii span.start
  | _ => True

end Source

variable {s : Source}

/-! ### Parts of a leaf -/

/-- The characters of a run that have not been used are ASCII characters. -/
def EmphasisRun.IsSound (s : Source) (r : EmphasisRun) : Prop :=
  s.AreAscii ⟨r.start, r.start + r.count⟩

mutual

/-- A part of a leaf and everything inside it have their marks. -/
def Inline.IsSound (s : Source) : Inline → Prop
  | .run r => r.IsSound s
  | .part kind span inner => s.IsMarked span kind ∧ Inline.AreSound s inner

/-- Some parts of a leaf and everything inside them have their marks. -/
def Inline.AreSound (s : Source) : List Inline → Prop
  | [] => True
  | x :: xs => x.IsSound s ∧ Inline.AreSound s xs

end

namespace Inline

theorem areSound_nil :
  AreSound s []
  := trivial

theorem areSound_iff {xs : List Inline} :
  AreSound s xs ↔ ∀ x ∈ xs, x.IsSound s
  := by
  induction xs with
  | nil => simp [AreSound]
  | cons x xs ih => rw [AreSound, List.forall_mem_cons, ih]

theorem areSound_append {xs ys : List Inline} :
  AreSound s (xs ++ ys) ↔ AreSound s xs ∧ AreSound s ys
  := by
  simp only [areSound_iff, List.forall_mem_append]

theorem areSound_reverse {xs : List Inline} :
  AreSound s xs.reverse ↔ AreSound s xs
  := by
  simp only [areSound_iff, List.mem_reverse]

end Inline

/-! ### Pairing emphasis -/

/-- The emphasis made of two runs has its marks. -/
theorem emphasize_areSound {opener : EmphasisRun} {closeStart n used : Nat}
    {inner : List Inline} (hopener : opener.IsSound s)
    (hcloser : s.AreAscii ⟨closeStart, closeStart + n⟩) (short : n ≤ opener.count)
    (h : Inline.AreSound s inner) :
  Inline.AreSound s (emphasize opener closeStart n used inner)
  := by
  fun_induction emphasize opener closeStart n used inner with
  | case1 used inner more step kind span ih =>
    apply ih
    refine ⟨⟨?_, h⟩, trivial⟩
    have one : step = 1 ∨ step = 2 := by
      unfold step
      split
      · right
        rfl
      · left
        rfl
    have enough : used + step ≤ n := by
      unfold step
      split <;> omega
    have enclosed : s.IsEnclosed step span := by
      refine ⟨hopener.mono ?_ ?_, ?_, hcloser.mono ?_ ?_⟩ <;> dsimp only [span] <;> omega
    unfold kind
    split
    · trivial
    · rcases one with one | one <;> rw [one] at enclosed ⊢ <;> apply enclosed
  | case2 used inner done => apply h

namespace Opener

/-- The run of an opener and the parts after it have their marks. -/
structure IsSound (s : Source) (o : Opener) : Prop where
  /-- The run. -/
  run : o.run.IsSound s
  /-- The parts. -/
  after : Inline.AreSound s o.after

end Opener

namespace Pairing

/-- Everything that is being paired has its marks. -/
structure IsSound (s : Source) (p : Pairing) : Prop where
  /-- The openers. -/
  openers : ∀ o ∈ p.openers, o.IsSound s
  /-- The parts before them. -/
  base : Inline.AreSound s p.base

variable {p : Pairing}

theorem IsSound.add (h : p.IsSound s) {x : Inline} (hx : x.IsSound s) :
  (p.add x).IsSound s
  := by
  unfold Pairing.add
  split
  next => exact ⟨h.openers, hx, h.base⟩
  next o os ho =>
    have each := h.openers
    rw [ho, List.forall_mem_cons] at each
    refine ⟨?_, h.base⟩
    rw [List.forall_mem_cons]
    exact ⟨⟨each.1.run, hx, each.1.after⟩, each.2⟩

theorem IsSound.addAll (h : p.IsSound s) {xs : List Inline} (hx : Inline.AreSound s xs) :
  (xs.foldl Pairing.add p).IsSound s
  := by
  induction xs generalizing p with
  | nil => apply h
  | cons x xs ih => apply ih (h.add hx.1) hx.2

theorem IsSound.push (h : p.IsSound s) {r : EmphasisRun} (hr : r.IsSound s) :
  (p.push r).IsSound s
  := by
  refine ⟨?_, h.base⟩
  unfold Pairing.push
  rw [List.forall_mem_cons]
  exact ⟨⟨hr, trivial⟩, h.openers⟩

theorem IsSound.giveUp (h : p.IsSound s) (dead : EmphasisRun → Bool) :
  (p.giveUp dead).IsSound s
  := by
  have go (os : List Opener) (each : ∀ o ∈ os, o.IsSound s) :
      (giveUp.go dead os p.base).IsSound s := by
    induction os with
    | nil => exact ⟨by simp [giveUp.go], h.base⟩
    | cons o os ih =>
      rw [List.forall_mem_cons] at each
      have rest := ih each.2
      rw [giveUp.go]
      split
      · split
        next none =>
          refine ⟨by simp, ?_⟩
          rw [Inline.areSound_append]
          exact ⟨each.1.after, rest.base⟩
        next o' os' some =>
          have others := rest.openers
          rw [some, List.forall_mem_cons] at others
          refine ⟨?_, rest.base⟩
          rw [List.forall_mem_cons]
          refine ⟨⟨others.1.run, ?_⟩, others.2⟩
          rw [Inline.areSound_append]
          exact ⟨each.1.after, others.1.after⟩
      · refine ⟨?_, rest.base⟩
        rw [List.forall_mem_cons]
        exact ⟨each.1, rest.openers⟩
  apply go _ h.openers

theorem findOpener_isSound {closer : EmphasisRun} {os : List Opener} {after : List Inline}
    (each : ∀ o ∈ os, o.IsSound s) (hafter : Inline.AreSound s after) {opener : EmphasisRun}
    {found : List Inline} {rest : List Opener}
    (h : findOpener closer os after = some (opener, found, rest)) :
  opener.IsSound s ∧ Inline.AreSound s found ∧ ∀ o ∈ rest, o.IsSound s
  := by
  induction os generalizing after with
  | nil => cases h
  | cons o os ih =>
    rw [List.forall_mem_cons] at each
    have all : Inline.AreSound s (after ++ o.after) := by
      rw [Inline.areSound_append]
      exact ⟨hafter, each.1.after⟩
    rw [findOpener] at h
    split at h
    · cases h
      exact ⟨each.1.run, all, each.2⟩
    · apply ih each.2 all h

theorem IsSound.close (h : p.IsSound s) {closer : EmphasisRun} (hc : closer.IsSound s)
    (fuel : Nat) :
  (p.close fuel closer).1.IsSound s ∧ (p.close fuel closer).2.IsSound s
  := by
  fun_induction Pairing.close fuel p closer with
  | case1 | case2 => exact ⟨h, hc⟩
  | case3 fuel p closer more missing =>
    refine ⟨?_, hc⟩
    split
    · apply h.giveUp
    · apply h
  | case4 fuel p closer more opener after openers found n made q q' ih =>
    obtain ⟨hopener, hafter, hrest⟩ := findOpener_isSound h.openers Inline.areSound_nil found
    have hq : q.IsSound s := ⟨hrest, h.base⟩
    have hq' : q'.IsSound s := by
      unfold q'
      split
      · apply hq.push
        refine hopener.mono ?_ ?_ <;> dsimp only <;> omega
      · apply hq
    have hmade : Inline.AreSound s made := by
      apply emphasize_areSound hopener _ (Nat.min_le_right _ _)
      · rw [Inline.areSound_reverse]
        apply hafter
      · refine hc.mono ?_ ?_ <;> dsimp only <;> omega
    apply ih (hq'.addAll hmade)
    refine hc.mono ?_ ?_ <;> dsimp only <;> omega

theorem IsSound.step (h : p.IsSound s) {x : Inline} (hx : x.IsSound s) :
  (p.step x).IsSound s
  := by
  cases x with
  | part kind span inner => apply h.add hx
  | run r =>
    have rest (q : Pairing × EmphasisRun) (hq : q.1.IsSound s ∧ q.2.IsSound s) :
        IsSound s (if q.2.count != 0 && q.2.opens then q.1.push q.2 else q.1) := by
      split
      · apply hq.1.push hq.2
      · apply hq.1
    unfold Pairing.step
    dsimp only
    split
    · apply rest _ (h.close hx _)
    · apply rest (p, r) ⟨h, hx⟩

theorem IsSound.finish (h : p.IsSound s) :
  Inline.AreSound s p.finish
  := by
  unfold Pairing.finish
  rw [Inline.areSound_reverse]
  apply (h.giveUp _).base

end Pairing

/-- Pairing emphasis gives parts that have their marks. -/
theorem pairEmphasis_areSound {parts : List Inline} (h : Inline.AreSound s parts) :
  Inline.AreSound s (pairEmphasis parts)
  := by
  have all (p : Pairing) (hp : p.IsSound s) : (parts.foldl Pairing.step p).IsSound s := by
    induction parts generalizing p with
    | nil => apply hp
    | cons x xs ih => apply ih h.2 _ (hp.step h.1)
  have empty : Pairing.IsSound s ⟨[], []⟩ := ⟨by simp, trivial⟩
  apply (all _ empty).finish

/-! ### Settling tokens -/

/-- A bracket that may open a link is an ASCII character, and the parts before a bracket have
their marks. -/
structure Bracket.IsSound (s : Source) (b : Bracket) : Prop where
  /-- The bracket. -/
  ascii : b.image = false → s.IsAscii b.span.start
  /-- The parts. -/
  before : Inline.AreSound s b.before

namespace Settling

/-- Everything that is being settled has its marks. -/
structure IsSound (s : Source) (st : Settling) : Prop where
  /-- The brackets. -/
  brackets : ∀ b ∈ st.brackets, b.IsSound s
  /-- The parts after the nearest of them. -/
  parts : Inline.AreSound s st.parts

variable {st : Settling}

theorem IsSound.add (h : st.IsSound s) {x : Inline} (hx : x.IsSound s) :
  (st.add x).IsSound s
  := ⟨h.brackets, hx, h.parts⟩

theorem IsSound.open (h : st.IsSound s) {b : Bracket}
    (hb : b.image = false → s.IsAscii b.span.start) (same : b.before = st.parts) :
  IsSound s { st with brackets := b :: st.brackets, parts := [] }
  := by
  refine ⟨?_, Inline.areSound_nil⟩
  rw [List.forall_mem_cons]
  exact ⟨⟨hb, same ▸ h.parts⟩, h.brackets⟩

theorem IsSound.dropBracket (h : st.IsSound s) :
  st.dropBracket.IsSound s
  := by
  unfold Settling.dropBracket
  split
  next => apply h
  next b bs hb =>
    have each := h.brackets
    rw [hb, List.forall_mem_cons] at each
    refine ⟨each.2, ?_⟩
    rw [Inline.areSound_append]
    exact ⟨h.parts, each.1.before⟩

/-- A link begins with its bracket. -/
theorem IsSound.closeBracket (h : st.IsSound s) (destination : String) (stop : Nat) :
  (st.closeBracket destination stop).IsSound s
  := by
  unfold Settling.closeBracket
  split
  next => apply h
  next b bs hb =>
    have each := h.brackets
    rw [hb, List.forall_mem_cons] at each
    have inner := pairEmphasis_areSound (Inline.areSound_reverse.mpr h.parts)
    extract_lets kind made bs'
    refine ⟨?_, ⟨?_, inner⟩, each.1.before⟩
    · unfold bs'
      split
      · apply each.2
      · intro c hc
        obtain ⟨d, hd, rfl⟩ := List.mem_map.mp hc
        have sound := each.2 d hd
        split
        · apply sound
        · exact ⟨sound.ascii, sound.before⟩
    · unfold kind
      cases hi : b.image with
      | true => trivial
      | false => apply each.1.ascii hi

theorem IsSound.finish (h : st.IsSound s) :
  Inline.AreSound s st.finish
  := by
  have all (bs : List Bracket) (each : ∀ b ∈ bs, b.IsSound s) (parts : List Inline)
      (hp : Inline.AreSound s parts) :
      Inline.AreSound s (bs.foldl (fun parts b => parts ++ b.before) parts) := by
    induction bs generalizing parts with
    | nil => apply hp
    | cons b bs ih =>
      rw [List.forall_mem_cons] at each
      apply ih each.2
      rw [Inline.areSound_append]
      exact ⟨hp, each.1.before⟩
  unfold Settling.finish
  rw [Inline.areSound_reverse]
  apply all _ h.brackets _ h.parts

end Settling

namespace Leafing

variable {l : Leafing} {st : Settling}

theorem settleBracket_isSound (h : st.IsSound s) (i : Nat) (close : Span) :
  (l.settleBracket st i close).1.IsSound s
  := by
  fun_cases Leafing.settleBracket l st i close with
  | case1 => apply h
  | case2 | case6 | case7 | case9 => apply h.dropBracket
  | case3 | case4 | case8 => apply h.closeBracket
  | case5 => exact ⟨h.dropBracket.brackets, h.dropBracket.parts⟩

/-- The backticks that close a code span. -/
theorem closingTicks?_spec {n i k : Nat} (h : l.closingTicks? n i = some k) :
  ∃ t, l.tokens[i + k]? = some t ∧ t.kind.marks ∧ t.span.length = n
  := by
  fun_induction Leafing.closingTicks? l n i generalizing k with
  | case1 i inside t =>
    rename_i found
    cases h
    rw [Bool.and_eq_true, beq_iff_eq] at found
    refine ⟨t, Array.getElem?_eq_getElem inside, ?_, found.2⟩
    have ticks := found.1
    split at ticks
    next kind =>
      rw [kind]
      rfl
    next => cases ticks
  | case2 i inside t =>
    rename_i ih
    obtain ⟨j, hj, rfl⟩ := Option.map_eq_some_iff.mp h
    obtain ⟨close, hclose, spec⟩ := ih hj
    refine ⟨close, ?_, spec⟩
    rw [← hclose]
    congr 1
    omega
  | case3 => cases h

/-- A code span begins and ends with backticks. -/
theorem isEnclosed_code (hl : ∀ t ∈ l.tokens, t.IsSound s) {t : Token} (ht : t.IsSound s)
    {escaped : Bool} (kind : t.kind = .ticks escaped) {start i k : Nat}
    (hstart : t.span.start ≤ start)
    (h : (if t.span.stop - start == 0 then none
      else l.closingTicks? (t.span.stop - start) i) = some k) :
  s.IsEnclosed 1 ⟨start, (l.token? (i + k)).elim start (·.span.stop)⟩
  := by
  split at h
  next => cases h
  next some =>
    have some : t.span.stop - start ≠ 0 := fun zero => some (beq_iff_eq.mpr zero)
    obtain ⟨close, hclose, marks, length⟩ := closingTicks?_spec h
    obtain ⟨-, opening⟩ := ht (by rw [kind]; rfl)
    obtain ⟨-, closing⟩ := hl close (Array.mem_of_getElem? hclose) marks
    rw [token?, hclose, Option.elim_some]
    unfold Span.length at length
    refine ⟨opening.mono hstart ?_, ?_, closing.mono ?_ (Nat.le_refl _)⟩ <;> dsimp only <;> omega

theorem settleToken_isSound (hl : ∀ t ∈ l.tokens, t.IsSound s) (h : st.IsSound s) (i : Nat)
    {t : Token} (ht : t.IsSound s) :
  (l.settleToken st i t).1.IsSound s
  := by
  fun_cases Leafing.settleToken l st i t with
  | case1 | case2 | case3 | case6 | case7 | case9 | case10 => apply h
  | case4 mark opens closes kind =>
    apply h.add
    obtain ⟨order, ascii⟩ := ht (by rw [kind]; rfl)
    refine ascii.mono ?_ ?_ <;> unfold Span.length <;> dsimp only <;> omega
  | case5 escaped kind start n k found stop =>
    apply h.add
    refine ⟨isEnclosed_code hl ht kind ?_ found, Inline.areSound_nil⟩
    unfold start
    split <;> omega
  | case8 kind next hnext s' start stop address found =>
    apply h.add
    obtain ⟨order, ascii⟩ := ht (by rw [kind]; rfl)
    exact ⟨ascii _ (Span.mem_iff.mpr ⟨Nat.le_refl _, order⟩), Inline.areSound_nil⟩
  | case11 kind =>
    obtain ⟨order, ascii⟩ := ht (by rw [kind]; rfl)
    apply h.open _ rfl
    intro _
    apply ascii _ (Span.mem_iff.mpr ⟨Nat.le_refl _, order⟩)
  | case12 =>
    apply h.open _ rfl
    intro link
    cases link
  | case13 => apply settleBracket_isSound h

theorem settle_areSound (hl : ∀ t ∈ l.tokens, t.IsSound s) (h : st.IsSound s) (i : Nat) :
  Inline.AreSound s (l.settle st i)
  := by
  fun_induction Leafing.settle l st i with
  | case1 st i inside st' skip settled ih =>
    have step := settleToken_isSound hl h i (hl l.tokens[i] (Array.getElem_mem inside))
    rw [settled] at step
    apply ih step
  | case2 st i outside => apply h.finish

/-- All parts of a leaf have their marks if its tokens are sound. -/
theorem parts_areSound (hl : ∀ t ∈ l.tokens, t.IsSound s) :
  Inline.AreSound s l.parts
  := by
  apply pairEmphasis_areSound
  have empty : Settling.IsSound s ⟨[], [], []⟩ := ⟨by simp, Inline.areSound_nil⟩
  apply settle_areSound hl empty

end Leafing

end LiveMarkdown.Markdown
