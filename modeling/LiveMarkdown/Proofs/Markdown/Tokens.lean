import LiveMarkdown.Markdown.Token
import Mathlib.Tactic.Common

/-!
# The bytes of tokens

The characters that may mark something up belong to ASCII.  So every byte of a token that may
turn out to be the mark of emphasis, of code or of a link is an ASCII character, whatever
the text around it is.
-/

namespace LiveMarkdown.Markdown

namespace Source

/-! ### Bytes of ASCII characters -/

/-- The byte at a position is an ASCII character. -/
def IsAscii (s : Source) (i : Nat) : Prop :=
  ∃ c, s.whole.get? i = some c ∧ c.toNat < 0x80

/-- All bytes of a span are ASCII characters. -/
def AreAscii (s : Source) (span : Span) : Prop :=
  ∀ i ∈ span, s.IsAscii i

variable {s : Source} {i : Nat} {c : Char} {p : Char → Bool}

theorem get?_whole (h : s.get? i = some c) :
  s.whole.get? i = some c
  := by
  unfold get? at *
  split at h
  · split at h
    next inside =>
      rw [if_pos (by exact inside), dif_pos (by exact inside)]
      apply h
    next => cases h
  · cases h

theorem isAscii_of_get? (h : s.get? i = some c) (hc : c.toNat < 0x80) :
  s.IsAscii i
  := ⟨c, get?_whole h, hc⟩

theorem areAscii_append {a b c : Nat} (h : s.AreAscii ⟨a, b⟩) (h' : s.AreAscii ⟨b, c⟩) :
  s.AreAscii ⟨a, c⟩
  := by
  intro i hi
  rw [Span.mem_iff] at hi
  by_cases first : i < b
  · apply h i ⟨hi.1, first⟩
  · apply h' i ⟨Nat.le_of_not_lt first, hi.2⟩

theorem AreAscii.mono {outer inner : Span} (h : s.AreAscii outer)
    (start : outer.start ≤ inner.start) (stop : inner.stop ≤ outer.stop) :
  s.AreAscii inner
  := by
  intro i hi
  rw [Span.mem_iff] at hi
  apply h i
  rw [Span.mem_iff]
  exact ⟨Nat.le_trans start hi.1, Nat.lt_of_lt_of_le hi.2 stop⟩

theorem areAscii_single (h : s.IsAscii i) :
  s.AreAscii ⟨i, i + 1⟩
  := by
  intro j hj
  rw [Span.mem_iff] at hj
  dsimp only at hj
  obtain rfl : j = i := by omega
  apply h

theorem skipWhile_spec (s : Source) (p : Char → Bool) (i : Nat) :
  i ≤ s.skipWhile p i ∧ ∀ j, i ≤ j → j < s.skipWhile p i → (s.get? j).any p
  := by
  fun_induction skipWhile s p i with
  | case1 i inside holds ih =>
    refine ⟨by omega, ?_⟩
    intro j hj hj'
    by_cases first : j = i
    · rw [first]
      apply holds
    · apply ih.2 j (by omega) hj'
  | case2 i inside fails =>
    refine ⟨Nat.le_refl i, ?_⟩
    omega
  | case3 i outside =>
    refine ⟨Nat.le_refl i, ?_⟩
    omega

/-- The bytes that are counted as one ASCII character are that character. -/
theorem areAscii_count (hp : ∀ c, p c → c.toNat < 0x80) (i : Nat) :
  s.AreAscii ⟨i, i + s.count p i⟩
  := by
  obtain ⟨le, each⟩ := skipWhile_spec s p i
  intro j hj
  rw [Span.mem_iff] at hj
  unfold count at hj
  dsimp only at hj
  obtain ⟨c, hc, holds⟩ := Option.any_eq_true _ _ |>.mp (each j hj.1 (by omega))
  apply isAscii_of_get? hc (hp c holds)

theorem count_pos (h : s.get? i = some c) (hc : p c) :
  0 < s.count p i
  := by
  have inside : i < s.limit := by
    by_contra outside
    rw [get?, if_neg outside] at h
    cases h
  unfold count
  rw [skipWhile, dif_pos inside, h, Option.any_some, if_pos hc]
  have := (skipWhile_spec s p (i + 1)).1
  omega

end Source

/-! ### Tokens -/

/-- A token of this kind may turn out to be a mark or to begin with one. -/
def TokenKind.marks : TokenKind → Bool
  | run .. | ticks _ | angle | openBracket => true
  | _ => false

/-- A token that may turn out to be a mark is not empty, and all its bytes are ASCII
characters. -/
def Token.IsSound (s : Source) (t : Token) : Prop :=
  t.kind.marks → t.span.start < t.span.stop ∧ s.AreAscii t.span

theorem Token.isSound_of_areAscii {s : Source} {kind : TokenKind} {start stop : Nat}
    (order : start < stop) (h : s.AreAscii ⟨start, stop⟩) :
  Token.IsSound s ⟨kind, ⟨start, stop⟩⟩
  := fun _ => ⟨order, h⟩

theorem Token.isSound_of_not_marks {s : Source} {t : Token} (h : t.kind.marks = false) :
  t.IsSound s
  := by
  intro marks
  rw [h] at marks
  cases marks

/-- All tokens of a line are sound, and so is the line break after it. -/
structure TokenLine.IsSound (s : Source) (line : TokenLine) : Prop where
  /-- The tokens are sound. -/
  tokens : ∀ t ∈ line.tokens, t.IsSound s
  /-- The line break is sound. -/
  ending : ∀ t, line.ending = .lineBreak t → t.IsSound s

namespace LineState

variable {s : Source} {st : LineState} {i : Nat}

/-- All tokens found so far are sound. -/
def IsSound (s : Source) (st : LineState) : Prop :=
  ∀ t ∈ st.tokens, t.IsSound s

theorem IsSound.flush (h : st.IsSound s) (i : Nat) :
  (st.flush i).IsSound s
  := by
  unfold LineState.flush
  split
  · intro t ht
    rcases Array.mem_push.mp ht with ht | rfl
    · apply h t ht
    · apply Token.isSound_of_not_marks rfl
  · apply h

theorem IsSound.add (h : st.IsSound s) (i : Nat) {kind : TokenKind} {start stop : Nat}
    (ht : Token.IsSound s ⟨kind, ⟨start, stop⟩⟩) :
  (st.add i kind start stop).IsSound s
  := by
  intro t mem
  rcases Array.mem_push.mp mem with mem | rfl
  · apply h.flush i t mem
  · apply ht

theorem IsSound.finish (h : st.IsSound s) (i : Nat) :
  (st.finish s i).IsSound s
  where
  tokens := h.flush _
  ending t ht := by cases ht

end LineState

/-- What a character of a line leads to is sound. -/
def LineStep.IsSound (s : Source) : LineStep → Prop
  | go _ st => st.IsSound s
  | stop line => line.IsSound s

section

variable {s : Source} {st : LineState} {i : Nat}

/-- A line that goes on in the next one ends with a line break, which is no mark. -/
theorem lineBreak_isSound (h : st.IsSound s) (first next : Nat) :
  TokenLine.IsSound s
    ⟨(st.flush first).tokens, next, .lineBreak ⟨.lineBreak, ⟨first, next⟩⟩⟩
  where
  tokens := h.flush first
  ending t ht := by
    cases ht
    apply Token.isSound_of_not_marks rfl

theorem lineEndStep_isSound (h : st.IsSound s) (mode : LineMode) (start i : Nat) :
  (lineEndStep s mode start st i).IsSound s
  := by
  have table (stop columns : Nat) : TokenLine.IsSound s ⟨st.tokens, stop, .table columns⟩ :=
    ⟨h, fun t ht => by cases ht⟩
  unfold lineEndStep
  extract_lets next lineBreak backslashes spaces ordinary
  have goesOn : ordinary.IsSound s := by
    unfold ordinary
    split
    · apply lineBreak_isSound h
    · split <;> apply lineBreak_isSound h
  split
  · apply h.finish
  · apply goesOn
  · split
    · apply goesOn
    · split
      · split
        · apply table
        · apply goesOn
      · apply goesOn

theorem backslashStep_isSound (h : st.IsSound s) (inCell : Bool) (i : Nat) :
  (backslashStep s inCell st i).IsSound s
  := by
  unfold backslashStep
  split
  · extract_lets st'
    have h' : st'.IsSound s := h.flush i
    split
    next tick =>
      apply h'.add
      have n := Source.count_pos (p := (· == '\x60')) (beq_iff_eq.mp tick) (beq_self_eq_true _)
      apply Token.isSound_of_areAscii (by omega)
      apply Source.areAscii_count
      intro c hc
      rw [beq_iff_eq.mp hc]
      decide
    next => split <;> apply h'
  · apply h

theorem runStep_isSound (h : st.IsSound s) (inCell : Bool) {mark : Char}
    (here : s.get? i = some mark) (ascii : mark.toNat < 0x80) :
  (runStep s inCell mark st i).IsSound s
  := by
  unfold runStep
  extract_lets extra n opens closes
  split
  · apply h.add
    apply Token.isSound_of_areAscii (by omega)
    apply Source.areAscii_append (Source.areAscii_single (Source.isAscii_of_get? here ascii))
    have same : i + n = i + 1 + extra := by omega
    rw [same]
    apply Source.areAscii_count (s := s.whole)
    intro c hc
    rw [beq_iff_eq.mp hc]
    apply ascii
  · apply h

/-- A token of one ASCII character. -/
theorem isSound_single {c : Char} (here : s.get? i = some c) (ascii : c.toNat < 0x80)
    (kind : TokenKind) :
  Token.IsSound s ⟨kind, ⟨i, i + 1⟩⟩
  := by
  apply Token.isSound_of_areAscii (Nat.lt_succ_self i)
  apply Source.areAscii_single (Source.isAscii_of_get? here ascii)

theorem charStep_isSound (h : st.IsSound s) (mode : LineMode) (start : Nat) {c : Char}
    (here : s.get? i = some c) :
  (charStep s mode start st i c).IsSound s
  := by
  fun_cases charStep s mode start st i c with
  | case1 => apply lineEndStep_isSound h
  | case2 => apply backslashStep_isSound h
  | case3 inCell _ _ mark =>
    apply runStep_isSound h _ here
    simp only [Bool.or_eq_true, beq_iff_eq] at mark
    obtain (rfl | rfl) | rfl := mark <;> decide
  | case4 _ _ _ tick extra =>
    obtain rfl := beq_iff_eq.mp tick
    apply h.add
    apply Token.isSound_of_areAscii (by omega)
    apply Source.areAscii_append
      (Source.areAscii_single (Source.isAscii_of_get? here (by decide)))
    apply Source.areAscii_count
    intro d hd
    rw [beq_iff_eq.mp hd]
    decide
  | case5 _ _ _ _ angle =>
    simp only [Bool.and_eq_true, beq_iff_eq] at angle
    obtain ⟨rfl, -⟩ := angle
    apply h.add _ (isSound_single here (by decide) .angle)
  | case7 _ _ _ _ _ _ opening =>
    obtain rfl := beq_iff_eq.mp opening
    apply h.add _ (isSound_single here (by decide) .openBracket)
  | case6 | case8 | case9 => apply h.add _ (Token.isSound_of_not_marks rfl)
  | case11 => apply h.finish
  | case10 | case12 | case13 => apply h

end

/-- The tokens of a line are sound if those before the line are. -/
theorem tokenizeLine_isSound {s : Source} {tokens : Array Token}
    (h : ∀ t ∈ tokens, t.IsSound s) (mode : LineMode) (start : Nat) :
  (tokenizeLine s mode start tokens).IsSound s
  := by
  have rest (st : LineState) (i : Nat) (hst : st.IsSound s) :
      (tokenizeLine.go s mode start st i).IsSound s := by
    fun_induction tokenizeLine.go s mode start st i with
    | case1 st i inside missing => apply hst.finish
    | case2 st i inside c here line ends =>
      have step := charStep_isSound hst mode start here
      rw [ends] at step
      apply step
    | case3 st i inside c here skip st' goes ih =>
      have step := charStep_isSound hst mode start here
      rw [goes] at step
      apply ih step
    | case4 st i outside => apply hst.finish
  apply rest
  apply h

end LiveMarkdown.Markdown
