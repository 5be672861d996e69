import LiveMarkdown.Proofs.Buffer.Surroundings

/-!
# How paragraphs divide a text

A position stands in the paragraph that the scans for a separator find, backward and forward
from it.  The forward scan takes a carriage return and the line feed after it for one
separator; the backward scan stops at the line feed alone.  So the paragraphs of two positions
are the same or lie apart, unless the later position is between a carriage return and its line
feed.  There the backward scan stops at the carriage return, and what is found is the line feed,
which is also the end of the paragraph before.
-/

namespace LiveMarkdown

/-! ### Line breaks of two characters -/

/-- A position lies between a carriage return and the line feed after it. -/
def CutsBreak (cs : List Char) (n : Nat) : Prop :=
  ∃ xs ys, cs = xs ++ '\r' :: '\n' :: ys ∧ n = units xs + 1

/-- A text is cut in only one way at a position. -/
theorem append_inj_of_units {xs ys xs' ys' : List Char} (same : xs ++ ys = xs' ++ ys')
    (size : units xs = units xs') :
  xs = xs' ∧ ys = ys'
  := by
  obtain ⟨zs, rfl, rfl⟩ := exists_append_of_units_le same size.le
  rw [units_append] at size
  obtain rfl := units_eq_zero_iff.mp (by omega : units zs = 0)
  simp

theorem cutsBreak_iff {xs ys : List Char} :
  CutsBreak (xs ++ ys) (units xs) ↔ xs.getLast? = some '\r' ∧ ys.head? = some '\n'
  := by
  have one : units ['\r'] = 1 := rfl
  constructor
  · rintro ⟨before, after, parts, size⟩
    have cut : xs ++ ys = (before ++ ['\r']) ++ ('\n' :: after) := by
      rw [parts, List.append_assoc]
      rfl
    obtain ⟨rfl, rfl⟩ := append_inj_of_units cut (by rw [size, units_append, one])
    exact ⟨List.getLast?_concat, rfl⟩
  · rintro ⟨last, first⟩
    obtain ⟨before, rfl⟩ := List.getLast?_eq_some_iff.mp last
    obtain ⟨after, rfl⟩ := List.head?_eq_some_iff.mp first
    exact ⟨before, after, by rw [List.append_assoc]; rfl, by rw [units_append, one]⟩

/-! ### Scans over parts of a text -/

/-- The scan for the start of a paragraph passes what holds no separator. -/
theorem Place.paragraphStart_append {xs ys : List Char} (none : ∀ c ∈ ys, ¬ isParagraphSeparator c)
    (after after' : List Char) :
  paragraphStart ⟨(xs ++ ys).reverse, after⟩ = paragraphStart ⟨xs.reverse, after'⟩
  := by
  rw [paragraphStart, paragraphStart, List.reverse_append, List.dropWhile_append_of_pos]
  intro c hc
  simpa using none c (List.mem_reverse.mp hc)

/-- The scan for the start of a paragraph does not go back beyond a separator. -/
theorem Place.le_paragraphStart {c : Char} (separator : isParagraphSeparator c)
    (xs ys after : List Char) :
  units (xs ++ [c]) ≤ paragraphStart ⟨(xs ++ c :: ys).reverse, after⟩
  := by
  obtain ⟨first, line, parts, start, -, none⟩ := paragraphStart_spec (xs ++ c :: ys) after
  have cut : (xs ++ [c]) ++ ys = first ++ line := by
    rw [← parts, List.append_assoc]
    rfl
  rw [← start]
  rcases List.append_eq_append_iff.mp cut with ⟨zs, rfl, -⟩ | ⟨zs, last, rfl⟩
  · rw [units_append (xs ++ [c])]
    exact Nat.le_add_right _ _
  · rcases zs.eq_nil_or_concat with rfl | ⟨ds, d, rfl⟩
    · rw [last, List.append_nil]
    · -- The separator would be on the line that was scanned.
      rw [List.concat_eq_append, ← List.append_assoc] at last
      obtain ⟨-, same⟩ := List.append_inj' last rfl
      obtain rfl := (List.cons.inj same).1
      exact absurd separator (none c (by simp))

/-- The scan for the end of a paragraph passes what holds no separator. -/
theorem paragraphStop_append {ys : List Char} (none : ∀ c ∈ ys, ¬ isParagraphSeparator c)
    (n : Nat) (zs : List Char) :
  paragraphStop n (ys ++ zs) = paragraphStop (n + units ys) zs
  := by
  induction ys generalizing n with
  | nil => rfl
  | cons c ys ih =>
    have first := none c (List.mem_cons_self ..)
    have rest : ∀ d ∈ ys, ¬ isParagraphSeparator d := by
      intro d hd
      exact none d (List.mem_cons_of_mem c hd)
    rw [List.cons_append, paragraphStop, if_neg first, ih rest, units_cons, Nat.add_assoc]

/-! ### The paragraph of a position -/

/-- How a position stands in its paragraph. -/
structure StandsIn (cs : List Char) (n : Nat) (paragraph : Span) : Prop where
  /-- The paragraph does not start after the position. -/
  start_le : paragraph.start ≤ n
  /-- The paragraph does not stop before the position. -/
  le_stop : n ≤ paragraph.stop
  /-- Only at the end of the text the paragraph may be empty. -/
  finished : paragraph.stop = paragraph.start → n = units cs
  /-- The paragraph does not stop between a carriage return and its line feed. -/
  stop : ¬ CutsBreak cs paragraph.stop
  /-- It does not start there either, unless the position is there. -/
  start : ¬ CutsBreak cs n → ¬ CutsBreak cs paragraph.start
  /-- A position between a carriage return and its line feed has the line feed as its
  paragraph. -/
  feed : CutsBreak cs n → paragraph = ⟨n, n + 1⟩

namespace Buffer

variable {b : Buffer} {xs ys zs : List Char}

theorem ofUnits_of_parts (parts : b.chars = xs ++ ys) :
  Place.ofUnits (min (units xs) b.length) b.chars = ⟨xs.reverse, ys⟩
  := by
  have inside : units xs ≤ b.length := by
    rw [Buffer.length, b.size_attributes, parts, units_append]
    exact Nat.le_add_right _ _
  rw [Nat.min_eq_left inside, parts, Place.ofUnits_units]

/-- The paragraph of a position is what the two scans from there find. -/
theorem paragraphSpan_of_parts (parts : b.chars = xs ++ ys) :
  b.paragraphSpan ⟨units xs, units xs⟩
    = ⟨Place.paragraphStart ⟨xs.reverse, ys⟩, paragraphStop (units xs) ys⟩
  := by
  simp only [paragraphSpan, ofUnits_of_parts parts, Nat.lt_irrefl, if_false, Place.offset,
    units_reverse]

/-- The paragraphs around a part of the text are what the scans back from the part and on from
its last character find. -/
theorem paragraphSpan_of_parts_concat {c : Char} (parts : b.chars = xs ++ (ys ++ c :: zs)) :
  b.paragraphSpan ⟨units xs, units (xs ++ ys) + unitLength c⟩
    = ⟨Place.paragraphStart ⟨xs.reverse, ys ++ c :: zs⟩, paragraphStop (units (xs ++ ys)) (c :: zs)⟩
  := by
  have last : b.chars = (xs ++ ys ++ [c]) ++ zs := by
    rw [parts]
    simp
  have size : units (xs ++ ys) + unitLength c = units (xs ++ ys ++ [c]) := by
    rw [units_append _ [c], units_cons, units_nil, Nat.add_zero]
  have longer : units xs < units (xs ++ ys ++ [c]) := by
    have one := unitLength_pos c
    rw [← size, units_append]
    omega
  have back : Place.back ⟨(xs ++ ys ++ [c]).reverse, zs⟩ = ⟨(xs ++ ys).reverse, c :: zs⟩ := by
    rw [List.reverse_concat]
    rfl
  rw [size]
  simp only [paragraphSpan, ofUnits_of_parts parts, ofUnits_of_parts last, Place.offset,
    units_reverse, if_pos longer, back]

/-- A position between two characters stands in its paragraph. -/
theorem standsIn_paragraphSpan (parts : b.chars = xs ++ ys) :
  StandsIn b.chars (units xs) (b.paragraphSpan ⟨units xs, units xs⟩)
  := by
  rw [paragraphSpan_of_parts parts, parts]
  obtain ⟨first, line, hxs, start, -, none⟩ := paragraphStart_spec xs ys
  obtain ⟨paragraph, rest, hys, isParagraph, stop⟩ := paragraphStop_spec (units xs) ys
  constructor
  case start_le =>
    rw [← start, hxs, units_append]
    exact Nat.le_add_right _ _
  case le_stop =>
    rw [stop]
    exact Nat.le_add_right _ _
  case finished =>
    intro empty
    dsimp only at empty
    rw [stop, ← start, hxs, units_append] at empty
    obtain rfl := units_eq_zero_iff.mp (by omega : units paragraph = 0)
    rw [hys, isParagraph.rest_eq_nil]
    simp
  case stop =>
    have cut : xs ++ ys = (xs ++ paragraph) ++ rest := by
      rw [hys, List.append_assoc]
    have size : units xs + units paragraph = units (xs ++ paragraph) := (units_append ..).symm
    dsimp only
    rw [stop, size, cut, cutsBreak_iff]
    rintro ⟨last, feed⟩
    obtain ⟨line, separator, rfl, -, ends⟩ := isParagraph
    cases ends with
    | finish => cases feed
    | pair =>
      rw [← List.append_assoc, List.getLast?_append] at last
      cases last
    | single _ whole =>
      rw [← List.append_assoc, List.getLast?_append] at last
      exact whole ⟨Option.some.inj last, feed⟩
  case start =>
    intro apart
    have cut : xs ++ ys = first ++ (line ++ ys) := by
      rw [hxs, List.append_assoc]
    dsimp only
    rw [← start, cut, cutsBreak_iff]
    rintro ⟨return_, feed⟩
    cases line with
    | nil =>
      rw [List.append_nil] at hxs
      subst hxs
      exact apart (cutsBreak_iff.mpr ⟨return_, feed⟩)
    | cons d line =>
      obtain rfl := Option.some.inj feed
      exact none _ (List.mem_cons_self ..) (by decide)
  case feed =>
    intro cut
    obtain ⟨last, feed⟩ := cutsBreak_iff.mp cut
    obtain ⟨before, rfl⟩ := List.getLast?_eq_some_iff.mp last
    obtain ⟨after, rfl⟩ := List.head?_eq_some_iff.mp feed
    have one : ¬ ('\n' = '\r' ∧ after.head? = some '\n') := by simp
    rw [paragraphStop, if_pos (by decide), if_neg one, Place.paragraphStart,
      List.reverse_concat, List.dropWhile_cons_of_neg (by decide), units_cons, units_reverse,
      units_append, Nat.add_comm]
    rfl

/-! ### The paragraphs of two positions -/

/-- A part without a separator is inside one paragraph. -/
theorem paragraphSpan_eq_of_none (parts : b.chars = xs ++ (ys ++ zs))
    (none : ∀ c ∈ ys, ¬ isParagraphSeparator c) :
  b.paragraphSpan ⟨units xs, units xs⟩ = b.paragraphSpan ⟨units (xs ++ ys), units (xs ++ ys)⟩
  := by
  have parts' : b.chars = (xs ++ ys) ++ zs := by
    rw [parts, List.append_assoc]
  rw [paragraphSpan_of_parts parts, paragraphSpan_of_parts parts',
    Place.paragraphStart_append none zs (ys ++ zs), paragraphStop_append none, units_append]

/-- A separator ends the paragraph before it, and the paragraph after it starts behind it, unless
it is a carriage return whose line feed is already in the paragraph after it. -/
theorem paragraphSpan_stop_le_start_or {c : Char} {line more : List Char}
    (parts : b.chars = xs ++ (line ++ c :: more) ++ zs) (separator : isParagraphSeparator c)
    (none : ∀ d ∈ line, ¬ isParagraphSeparator d) :
  (b.paragraphSpan ⟨units xs, units xs⟩).stop
      ≤ (b.paragraphSpan ⟨units (xs ++ (line ++ c :: more)),
          units (xs ++ (line ++ c :: more))⟩).start
    ∨ CutsBreak b.chars (units (xs ++ (line ++ c :: more)))
      ∧ (b.paragraphSpan ⟨units xs, units xs⟩).stop = units (xs ++ (line ++ c :: more)) + 1
  := by
  have parts' : b.chars = xs ++ (line ++ (c :: (more ++ zs))) := by
    rw [parts]
    simp
  have one := unitLength_of_isParagraphSeparator separator
  have shape : xs ++ (line ++ c :: more) = (xs ++ line) ++ c :: more := (List.append_assoc ..).symm
  rw [paragraphSpan_of_parts parts', paragraphSpan_of_parts parts, paragraphStop_append none,
    paragraphStop, if_pos separator]
  by_cases pair : c = '\r' ∧ (more ++ zs).head? = some '\n'
  · obtain ⟨rfl, feed⟩ := pair
    cases more with
    | nil =>
      right
      rw [parts]
      constructor
      · apply cutsBreak_iff.mpr
        exact ⟨by simp, feed⟩
      · rw [if_pos ⟨rfl, feed⟩]
        simp only [units_append, units_cons, units_nil, one]
        omega
    | cons d more =>
      left
      obtain rfl := Option.some.inj feed
      have behind := Place.le_paragraphStart (by decide : isParagraphSeparator '\n')
        (xs ++ line ++ ['\r']) more zs
      have shape' : xs ++ (line ++ '\r' :: '\n' :: more) = (xs ++ line ++ ['\r']) ++ '\n' :: more := by
        simp
      have two : unitLength '\n' = 1 := rfl
      rw [if_pos ⟨rfl, feed⟩, shape']
      simp only [units_append, units_cons, units_nil, one, two] at behind ⊢
      omega
  · left
    have behind := Place.le_paragraphStart separator (xs ++ line) more zs
    rw [if_neg pair, shape]
    simp only [units_append, units_cons, units_nil, one] at behind ⊢
    omega

/-- The paragraphs on both sides of a part of the text are the same or lie apart, unless the
part ends between a carriage return and its line feed. -/
theorem paragraphSpan_eq_or (parts : b.chars = xs ++ (ys ++ zs)) :
  b.paragraphSpan ⟨units xs, units xs⟩ = b.paragraphSpan ⟨units (xs ++ ys), units (xs ++ ys)⟩
    ∨ (b.paragraphSpan ⟨units xs, units xs⟩).stop
        ≤ (b.paragraphSpan ⟨units (xs ++ ys), units (xs ++ ys)⟩).start
    ∨ CutsBreak b.chars (units (xs ++ ys))
      ∧ (b.paragraphSpan ⟨units xs, units xs⟩).stop = units (xs ++ ys) + 1
  := by
  cases found : ys.find? isParagraphSeparator with
  | none =>
    left
    exact paragraphSpan_eq_of_none parts (List.find?_eq_none.mp found)
  | some c =>
    right
    obtain ⟨separator, line, more, rfl, before⟩ := List.find?_eq_some_iff_append.mp found
    have parts' : b.chars = xs ++ (line ++ c :: more) ++ zs := by
      rw [parts]
      simp
    apply paragraphSpan_stop_le_start_or parts' separator
    intro d hd
    simpa using before d hd

/-- The paragraphs around a part of the text start where the paragraph of its first position
starts, and stop where the paragraph of its last character stops. -/
theorem paragraphSpan_of_part (parts : b.chars = xs ++ (ys ++ zs)) :
  (b.paragraphSpan ⟨units xs, units (xs ++ ys)⟩).start
      = (b.paragraphSpan ⟨units xs, units xs⟩).start
    ∧ (ys ≠ [] → ∃ before c after, b.chars = before ++ c :: after
        ∧ units before + unitLength c = units (xs ++ ys)
        ∧ (b.paragraphSpan ⟨units xs, units (xs ++ ys)⟩).stop
          = (b.paragraphSpan ⟨units before, units before⟩).stop)
  := by
  rcases ys.eq_nil_or_concat with rfl | ⟨ds, c, rfl⟩
  · simp
  · have parts' : b.chars = xs ++ (ds ++ c :: zs) := by
      rw [parts]
      simp
    have cut : b.chars = (xs ++ ds) ++ c :: zs := by
      rw [parts', List.append_assoc]
    have size : units (xs ++ ds.concat c) = units (xs ++ ds) + unitLength c := by
      simp only [List.concat_eq_append, units_append, units_cons, units_nil]
      omega
    rw [size, paragraphSpan_of_parts_concat parts', paragraphSpan_of_parts parts']
    constructor
    · rfl
    · intro
      exact ⟨xs ++ ds, c, zs, cut, rfl, by rw [paragraphSpan_of_parts cut]⟩

/-- Paragraphs divide a text.  Each of two positions between characters stands in its paragraph.
The two paragraphs are the same or the first one stops before the second one starts, unless the
second position is between a carriage return and its line feed; then the first paragraph may
stop after that line feed.  The paragraphs from one position to the other start where the
paragraph of the first one starts, and stop where the one of the last character before the
second position stops. -/
theorem paragraphs_divide_text (b : Buffer) {p q : Nat} (order : p ≤ q)
    (first : isBoundary b.chars p) (last : isBoundary b.chars q) :
  StandsIn b.chars p (b.paragraphSpan ⟨p, p⟩) ∧ StandsIn b.chars q (b.paragraphSpan ⟨q, q⟩)
    ∧ (b.paragraphSpan ⟨p, p⟩ = b.paragraphSpan ⟨q, q⟩
      ∨ (b.paragraphSpan ⟨p, p⟩).stop ≤ (b.paragraphSpan ⟨q, q⟩).start
      ∨ CutsBreak b.chars q ∧ (b.paragraphSpan ⟨p, p⟩).stop = q + 1)
    ∧ (b.paragraphSpan ⟨p, q⟩).start = (b.paragraphSpan ⟨p, p⟩).start
    ∧ (p = q → (b.paragraphSpan ⟨p, q⟩).stop = (b.paragraphSpan ⟨p, p⟩).stop)
    ∧ (p < q → ∃ before c after, b.chars = before ++ c :: after
        ∧ units before + unitLength c = q
        ∧ (b.paragraphSpan ⟨p, q⟩).stop = (b.paragraphSpan ⟨units before, units before⟩).stop)
  := by
  obtain ⟨xs, ys, zs, parts, rfl, size⟩ := @exists_parts b.chars ⟨p, q⟩ order first last
  dsimp only [Span.length] at *
  have parts' : b.chars = (xs ++ ys) ++ zs := by
    rw [parts, List.append_assoc]
  obtain rfl : units (xs ++ ys) = q := by
    rw [units_append]
    omega
  obtain ⟨start, stop⟩ := paragraphSpan_of_part parts
  refine ⟨standsIn_paragraphSpan parts, standsIn_paragraphSpan parts', paragraphSpan_eq_or parts,
    start, ?_, ?_⟩
  · intro same
    rw [← same]
  · intro before
    apply stop
    rintro rfl
    simp at before

/-- The first of two lines stops where the second one starts, also if a carriage return and a
line feed are between them. -/
theorem paragraphs_divide_text_two_lines :
  ∃ b : Buffer, b.chars = ['a', '\r', '\n', 'b'] ∧ isBoundary b.chars 0 ∧ isBoundary b.chars 3
    ∧ (b.paragraphSpan ⟨0, 0⟩).stop ≤ (b.paragraphSpan ⟨3, 3⟩).start
  := by
  let b := ofText ['a', '\r', '\n', 'b'] {}
  have first : isBoundary b.chars 0 := by decide
  have last : isBoundary b.chars 3 := by decide
  have differ : b.paragraphSpan ⟨0, 0⟩ ≠ b.paragraphSpan ⟨3, 3⟩ := by decide
  have stop : (b.paragraphSpan ⟨0, 0⟩).stop ≠ 3 + 1 := by decide
  obtain ⟨-, -, same | apart | ⟨-, longer⟩, -⟩ := paragraphs_divide_text b (Nat.zero_le 3) first last
  · exact absurd same differ
  · exact ⟨b, rfl, first, last, apart⟩
  · exact absurd longer stop

/-- The position between the two characters of a line break has a paragraph of its own, which
shares the line feed with the paragraph of the position before them. -/
theorem exists_overlapping_paragraphs :
  ∃ b : Buffer, b.chars = ['a', '\r', '\n', 'b'] ∧ isBoundary b.chars 1 ∧ isBoundary b.chars 2
    ∧ b.paragraphSpan ⟨1, 1⟩ ≠ b.paragraphSpan ⟨2, 2⟩
    ∧ 2 ∈ b.paragraphSpan ⟨1, 1⟩ ∧ 2 ∈ b.paragraphSpan ⟨2, 2⟩
    ∧ CutsBreak b.chars (b.paragraphSpan ⟨2, 2⟩).start
  := by
  let b := ofText ['a', '\r', '\n', 'b'] {}
  have first : b.paragraphSpan ⟨1, 1⟩ = ⟨0, 3⟩ := by decide
  have second : b.paragraphSpan ⟨2, 2⟩ = ⟨2, 3⟩ := by decide
  refine ⟨b, rfl, by decide, by decide, ?_⟩
  rw [first, second]
  exact ⟨by decide, by decide, by decide, ['a'], ['b'], rfl, rfl⟩

end Buffer

end LiveMarkdown
