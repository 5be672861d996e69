import LiveMarkdown.Buffer.Paragraph
import Mathlib.Tactic.Common

/-!
# Replaced text and its paragraphs

What is before a replaced span keeps its text and its attributes.  The paragraphs around
a position inside a text hold the character after it, so only at the end of a text there
may be nothing around a position.
-/

namespace LiveMarkdown

/-! ### Places -/

namespace Place

theorem offset_advance_le (n : Nat) (before cs : List Char) :
  (advance n before cs).offset ≤ units before + n
  := by
  induction cs generalizing n before with
  | nil => exact Nat.le_add_right _ _
  | cons c cs ih =>
    rw [advance]
    split
    · have := ih (n - unitLength c) (c :: before)
      rw [units_cons] at this
      omega
    · exact Nat.le_add_right _ _

theorem offset_ofUnits_le (n : Nat) (cs : List Char) :
  (ofUnits n cs).offset ≤ n
  := by
  have := offset_advance_le n [] cs
  rw [units_nil, Nat.zero_add] at this
  exact this

/-- The place between two parts of a text. -/
theorem advance_append (n : Nat) (before xs ys : List Char) :
  advance (units xs + n) before (xs ++ ys) = advance n (xs.reverse ++ before) ys
  := by
  induction xs generalizing before with
  | nil => simp
  | cons c xs ih =>
    have rest : units xs + n = unitLength c + units xs + n - unitLength c := by omega
    rw [List.cons_append, advance, units_cons, if_pos (by omega), ← rest, ih]
    simp

theorem advance_zero (before cs : List Char) :
  advance 0 before cs = ⟨before, cs⟩
  := by
  cases cs with
  | nil => rfl
  | cons c cs =>
    have := unitLength_pos c
    rw [advance, if_neg (by omega)]

theorem ofUnits_units (xs ys : List Char) :
  ofUnits (units xs) (xs ++ ys) = ⟨xs.reverse, ys⟩
  := by
  have h := advance_append 0 [] xs ys
  rw [advance_zero, List.append_nil] at h
  exact h

theorem le_offset_advance (n : Nat) (before cs : List Char) :
  units before ≤ (advance n before cs).offset
  := by
  induction cs generalizing n before with
  | nil => exact Nat.le_refl _
  | cons c cs ih =>
    rw [advance]
    split
    · have := ih (n - unitLength c) (c :: before)
      rw [units_cons] at this
      omega
    · exact Nat.le_refl _

/-- A place that is not before the end of a part of a text is not inside the part. -/
theorem le_offset_ofUnits {n : Nat} {xs : List Char} (h : units xs ≤ n) (ys : List Char) :
  units xs ≤ (ofUnits n (xs ++ ys)).offset
  := by
  obtain ⟨m, rfl⟩ := Nat.exists_eq_add_of_le h
  rw [ofUnits, advance_append, List.append_nil, ← units_reverse]
  apply le_offset_advance

theorem after_ne_nil {n : Nat} {cs : List Char} (h : n < units cs) :
  (ofUnits n cs).after ≠ []
  := by
  intro empty
  have total := offset_add_units n cs
  have before := offset_ofUnits_le n cs
  rw [empty, units_nil] at total
  omega

theorem paragraphStart_le (p : Place) :
  p.paragraphStart ≤ p.offset
  := by
  rw [paragraphStart, offset]
  have parts := List.takeWhile_append_dropWhile (p := fun c => !isParagraphSeparator c) (l := p.before)
  have total := congrArg units parts
  rw [units_append] at total
  omega

/-- A text ends where a paragraph starts if it ends with a separator. -/
theorem le_paragraphStart_iff (cs : List Char) :
  units cs ≤ paragraphStart ⟨cs.reverse, []⟩ ↔ cs.getLast?.all isParagraphSeparator
  := by
  rw [← List.head?_reverse, ← units_reverse]
  cases cs.reverse with
  | nil => simp [units_nil]
  | cons c rest =>
    have one := unitLength_pos c
    have short := paragraphStart_le ⟨rest, []⟩
    dsimp only [offset] at short
    by_cases separator : isParagraphSeparator c
    · simp [paragraphStart, separator]
    · have first : paragraphStart ⟨c :: rest, []⟩ = paragraphStart ⟨rest, []⟩ := by
        simp [paragraphStart, separator]
      rw [first, units_cons]
      constructor
      · intro long
        omega
      · intro all
        exact absurd all separator

end Place

/-! ### Parts of a text -/

/-- A position between two characters cuts the text into two parts. -/
theorem isBoundary_iff {cs : List Char} {n : Nat} :
  isBoundary cs n ↔ ∃ xs ys, cs = xs ++ ys ∧ units xs = n
  := by
  constructor
  · intro h
    refine ⟨(Place.ofUnits n cs).before.reverse, (Place.ofUnits n cs).after, ?_, ?_⟩
    · exact (Place.text_ofUnits n cs).symm
    · rw [units_reverse]
      exact beq_iff_eq.mp h
  · rintro ⟨xs, ys, rfl, rfl⟩
    rw [isBoundary, Place.ofUnits_units]
    exact beq_iff_eq.mpr (units_reverse xs)

theorem units_eq_zero_iff {cs : List Char} :
  units cs = 0 ↔ cs = []
  := by
  cases cs with
  | nil => simp
  | cons c cs =>
    have one := unitLength_pos c
    rw [units_cons]
    simp only [reduceCtorEq, iff_false]
    omega

/-- Of two parts at the start of a text the shorter one is the start of the longer one. -/
theorem exists_append_of_units_le {xs ys xs' ys' : List Char} (same : xs ++ ys = xs' ++ ys')
    (le : units xs ≤ units xs') :
  ∃ zs, xs' = xs ++ zs ∧ ys = zs ++ ys'
  := by
  rcases List.append_eq_append_iff.mp same with ⟨zs, rfl, rfl⟩ | ⟨zs, rfl, rfl⟩
  · exact ⟨zs, rfl, rfl⟩
  · rw [units_append] at le
    obtain rfl := units_eq_zero_iff.mp (by omega : units zs = 0)
    exact ⟨[], by simp, rfl⟩

/-- A span between two characters cuts the text into three parts. -/
theorem exists_parts {cs : List Char} {span : Span} (order : span.start ≤ span.stop)
    (start : isBoundary cs span.start) (stop : isBoundary cs span.stop) :
  ∃ xs ys zs, cs = xs ++ (ys ++ zs) ∧ units xs = span.start ∧ units ys = span.length
  := by
  obtain ⟨xs, rest, first, hxs⟩ := isBoundary_iff.mp start
  obtain ⟨both, zs, second, hboth⟩ := isBoundary_iff.mp stop
  obtain ⟨ys, rfl, rfl⟩ := exists_append_of_units_le (first.symm.trans second) (by omega)
  refine ⟨xs, ys, zs, first, hxs, ?_⟩
  rw [units_append] at hboth
  rw [Span.length]
  omega

/-- The text of a span is the part of the text that it cuts out. -/
theorem Buffer.textIn?_of_parts {b : Buffer} {xs ys zs : List Char}
    (parts : b.chars = xs ++ (ys ++ zs)) :
  b.textIn? ⟨units xs, units xs + units ys⟩ = some ys
  := by
  have size : b.length = units xs + (units ys + units zs) := by
    rw [Buffer.length, b.size_attributes, parts, units_append, units_append]
  have first : Place.ofUnits (units xs) b.chars = ⟨xs.reverse, ys ++ zs⟩ := by
    rw [parts, Place.ofUnits_units]
  rw [textIn?, if_pos (by dsimp only; omega)]
  simp only [first, Place.offset, units_reverse, Nat.add_sub_cancel_left, Place.ofUnits_units,
    List.reverse_reverse]

/-- A span between two characters has a text, with as many code units as the span. -/
theorem Buffer.exists_textIn? {b : Buffer} {span : Span} (order : span.start ≤ span.stop)
    (start : isBoundary b.chars span.start) (stop : isBoundary b.chars span.stop) :
  ∃ cs, b.textIn? span = some cs ∧ units cs = span.length
  := by
  obtain ⟨xs, cs, zs, parts, first, size⟩ := exists_parts order start stop
  have same : (⟨units xs, units xs + units cs⟩ : Span) = span := by
    rw [size, first, Span.length, Nat.add_sub_cancel' order]
  use cs
  rw [← same]
  exact ⟨textIn?_of_parts parts, by rw [Span.length, Nat.add_sub_cancel_left]⟩

/-! ### Paragraphs -/

theorem unitLength_of_isParagraphSeparator {c : Char} (h : isParagraphSeparator c) :
  unitLength c = 1
  := by
  simp only [isParagraphSeparator, Bool.or_eq_true, beq_iff_eq] at h
  rcases h with (rfl | rfl) | rfl <;> rfl

/-- A paragraph holds its first character. -/
theorem le_paragraphStop (n : Nat) (c : Char) (cs : List Char) :
  n + unitLength c ≤ paragraphStop n (c :: cs)
  := by
  induction cs generalizing n c with
  | nil =>
    rw [paragraphStop]
    split
    · rw [unitLength_of_isParagraphSeparator ‹_›]
      split <;> omega
    · exact Nat.le_refl _
  | cons d cs ih =>
    rw [paragraphStop]
    split
    · rw [unitLength_of_isParagraphSeparator ‹_›]
      split <;> omega
    · have := ih (n + unitLength c) d
      omega

theorem lt_paragraphStop (n : Nat) {cs : List Char} (h : cs ≠ []) :
  n < paragraphStop n cs
  := by
  obtain ⟨c, cs, rfl⟩ := List.exists_cons_of_ne_nil h
  have := le_paragraphStop n c cs
  have := unitLength_pos c
  omega

namespace Buffer

/-- The paragraphs around a span start before it. -/
theorem paragraphSpan_start_le (b : Buffer) (span : Span) :
  (b.paragraphSpan span).start ≤ span.start
  := by
  have start := Place.paragraphStart_le (Place.ofUnits (min span.start b.length) b.chars)
  have before := Place.offset_ofUnits_le (min span.start b.length) b.chars
  change (Place.ofUnits (min span.start b.length) b.chars).paragraphStart ≤ span.start
  omega

/-- The paragraphs around a span that starts before the end of the text stop after its
start, or after any earlier place. -/
theorem lt_paragraphSpan_stop {b : Buffer} {span : Span} (h : span.start < b.length)
    {xs ys : List Char} (parts : b.chars = xs ++ ys) (start : units xs ≤ span.start) :
  units xs < (b.paragraphSpan span).stop
  := by
  have size : b.length = units b.chars := b.size_attributes
  have first : units xs ≤ (Place.ofUnits (min span.start b.length) b.chars).offset := by
    rw [parts]
    apply Place.le_offset_ofUnits
    omega
  change units xs < paragraphStop (if _ then _ else _ : Place).offset (if _ then _ else _ : Place).after
  split
  · rename_i last
    rw [Place.back]
    split
    · rename_i empty
      rw [Place.offset, Place.offset, empty] at last
      exact absurd last (Nat.not_lt_zero _)
    · rename_i c cs before
      rw [Place.offset, Place.offset, before, units_cons] at last
      have := le_paragraphStop (units cs) c (Place.ofUnits (min span.stop b.length) b.chars).after
      rw [Place.offset] at first
      change units xs
        < paragraphStop (units cs) (c :: (Place.ofUnits (min span.stop b.length) b.chars).after)
      omega
  · have := lt_paragraphStop (Place.ofUnits (min span.start b.length) b.chars).offset
      (Place.after_ne_nil (by omega : min span.start b.length < units b.chars))
    omega

/-- The last paragraph, which is empty if the text ends with a separator. -/
theorem paragraphSpan_length (b : Buffer) :
  b.paragraphSpan ⟨b.length, b.length⟩
    = ⟨Place.paragraphStart ⟨b.chars.reverse, []⟩, b.length⟩
  := by
  have length : b.length = units b.chars := b.size_attributes
  have last : Place.ofUnits b.length b.chars = ⟨b.chars.reverse, []⟩ := by
    have h := Place.ofUnits_units b.chars []
    rw [List.append_nil, ← length] at h
    exact h
  have size : (⟨b.chars.reverse, []⟩ : Place).offset = b.length := by
    rw [Place.offset, units_reverse, length]
  simp only [paragraphSpan, Nat.min_self, last, Nat.lt_irrefl, if_false, size]
  rfl

/-! ### Replaced text -/

theorem getElem?_extract_append {α : Type} (as xs ys : Array α) {start u : Nat} (h : u < start)
    (size : start ≤ as.size) :
  (as.extract 0 start ++ xs ++ ys)[u]? = as[u]?
  := by
  rw [Array.append_assoc, Array.getElem?_append_left (by rw [Array.size_extract]; omega),
    Array.getElem?_extract, if_pos (by omega), Nat.zero_add]

/-- A text that was replaced, what stood before it and what stands there now. -/
theorem replace?_spec {b c : Buffer} {span : Span} {text : List Char} {edit : Edit}
    (h : b.replace? span text = some (edit, c)) :
  ∃ before old after, b.chars = before ++ old ∧ c.chars = before ++ (text ++ after)
    ∧ units before = span.start ∧ edit.kind = .characters
    ∧ edit.span = ⟨span.start, span.start + units text⟩
    ∧ ∀ u < span.start, c.attributes[u]? = b.attributes[u]?
  := by
  rw [replace?] at h
  split at h
  · rename_i allowed
    obtain ⟨rfl, rfl⟩ := Prod.mk.inj (Option.some.inj h)
    have start : units (Place.ofUnits span.start b.chars).before.reverse = span.start := by
      rw [units_reverse]
      exact beq_iff_eq.mp allowed.2.1
    refine ⟨_, (Place.ofUnits span.start b.chars).after, _, ?_, rfl, start, rfl, rfl, ?_⟩
    · exact (Place.text_ofUnits span.start b.chars).symm
    · intro u hu
      have size := b.size_attributes
      have total := Place.offset_add_units span.start b.chars
      rw [Place.offset, ← units_reverse, start] at total
      exact getElem?_extract_append b.attributes _ _ hu (by omega)
  · cases h

end Buffer

end LiveMarkdown
