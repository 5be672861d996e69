import LiveMarkdown.Proofs.Text.Offsets

/-!
# Bytes and code units of a text

The table of a text says for each byte how many code units the characters take that end there or
before.  So all bytes of a character are at the code unit where the character starts, and the last
entry is the number of code units of the text.  Between characters the table is strictly increasing,
and a span of bytes between characters has as many code units as the characters in it.
-/

namespace LiveMarkdown

open String (utf8Len)

/-! ### Characters in a span of bytes -/

/-- The characters of which all bytes lie in a span, in a text that starts at byte `n`. -/
def charsIn (span : Span) (n : Nat) : List Char → List Char
  | [] => []
  | c :: cs =>
    (if span.start ≤ n ∧ n + c.utf8Size ≤ span.stop then [c] else [])
      ++ charsIn span (n + c.utf8Size) cs

theorem charsIn_append (span : Span) (n : Nat) (xs ys : List Char) :
  charsIn span n (xs ++ ys) = charsIn span n xs ++ charsIn span (n + utf8Len xs) ys
  := by
  induction xs generalizing n with
  | nil => rfl
  | cons c xs ih =>
    rw [List.cons_append, charsIn, charsIn, ih, List.append_assoc, String.utf8Len_cons,
      Nat.add_comm (utf8Len xs), Nat.add_assoc]

/-- A text in the span is found whole. -/
theorem charsIn_of_inside {span : Span} {n : Nat} {cs : List Char} (start : span.start ≤ n)
    (stop : n + utf8Len cs ≤ span.stop) :
  charsIn span n cs = cs
  := by
  induction cs generalizing n with
  | nil => rfl
  | cons c cs ih =>
    rw [String.utf8Len_cons] at stop
    rw [charsIn, if_pos ⟨start, by omega⟩, ih (by omega) (by omega)]
    rfl

/-- Nothing is found of a text that ends before the span. -/
theorem charsIn_of_before {span : Span} {n : Nat} {cs : List Char}
    (before : n + utf8Len cs ≤ span.start) :
  charsIn span n cs = []
  := by
  induction cs generalizing n with
  | nil => rfl
  | cons c cs ih =>
    have size := c.utf8Size_pos
    rw [String.utf8Len_cons] at before
    rw [charsIn, if_neg (by omega), ih (by omega)]
    rfl

/-- Nothing is found of a text whose first character ends after the span. -/
theorem charsIn_of_after {span : Span} {n : Nat} {cs : List Char}
    (after : ∀ c ∈ cs.head?, span.stop < n + c.utf8Size) :
  charsIn span n cs = []
  := by
  induction cs generalizing n with
  | nil => rfl
  | cons c cs ih =>
    have first : span.stop < n + c.utf8Size := after c rfl
    rw [charsIn, if_neg (by omega), ih]
    · rfl
    · intro d _
      omega

/-- The characters in a span of bytes between characters are those between its ends. -/
theorem charsIn_middle (xs ys zs : List Char) :
  charsIn ⟨utf8Len xs, utf8Len (xs ++ ys)⟩ 0 (xs ++ ys ++ zs) = ys
  := by
  have before : charsIn ⟨utf8Len xs, utf8Len (xs ++ ys)⟩ 0 xs = [] :=
    charsIn_of_before (Nat.zero_add _).le
  have inside : charsIn ⟨utf8Len xs, utf8Len (xs ++ ys)⟩ (0 + utf8Len xs) ys = ys := by
    apply charsIn_of_inside
    · exact (Nat.zero_add _).ge
    · rw [String.utf8Len_append, Nat.zero_add]
  have after : charsIn ⟨utf8Len xs, utf8Len (xs ++ ys)⟩ (0 + utf8Len (xs ++ ys)) zs = [] := by
    apply charsIn_of_after
    intro c _
    have size := c.utf8Size_pos
    dsimp only
    omega
  rw [charsIn_append, charsIn_append, before, inside, after, List.nil_append, List.append_nil]

/-- A byte position lies between two characters of a text, or at one of its ends. -/
def IsByteBoundary (cs : List Char) (byte : Nat) : Prop :=
  ∃ xs, xs <+: cs ∧ utf8Len xs = byte

/-- Two positions between characters cut a text in three. -/
theorem exists_middle {cs : List Char} {a b : Nat} (ha : IsByteBoundary cs a)
    (hb : IsByteBoundary cs b) (order : a ≤ b) :
  ∃ xs ys zs, cs = xs ++ ys ++ zs ∧ utf8Len xs = a ∧ utf8Len (xs ++ ys) = b
  := by
  obtain ⟨xs, first, rfl⟩ := ha
  obtain ⟨ws, second, rfl⟩ := hb
  rcases List.prefix_or_prefix_of_prefix first second with ⟨ys, rfl⟩ | ⟨vs, rfl⟩
  · obtain ⟨zs, rfl⟩ := second
    exact ⟨xs, ys, zs, rfl, rfl, rfl⟩
  · -- the second position is not after the first, so they are the same
    rw [String.utf8Len_append] at order
    have none : vs = [] := String.utf8Len_eq_zero.mp (by omega)
    obtain ⟨zs, rfl⟩ := first
    rw [none]
    exact ⟨ws, [], zs, by simp, by simp, by simp⟩

/-- A byte of a text belongs to a character. -/
theorem exists_char_of_byte {cs : List Char} {byte : Nat} (inside : byte < utf8Len cs) :
  ∃ xs c zs i, cs = xs ++ c :: zs ∧ i < c.utf8Size ∧ byte = utf8Len xs + i
  := by
  induction cs generalizing byte with
  | nil => exact absurd inside (Nat.not_lt_zero _)
  | cons c cs ih =>
    rw [String.utf8Len_cons] at inside
    by_cases here : byte < c.utf8Size
    · exact ⟨[], c, cs, byte, rfl, here, by simp⟩
    · obtain ⟨m, rfl⟩ := Nat.exists_eq_add_of_le (Nat.le_of_not_lt here)
      obtain ⟨xs, d, zs, i, rfl, hi, rfl⟩ := ih (by omega : m < utf8Len cs)
      refine ⟨c :: xs, d, zs, i, rfl, hi, ?_⟩
      rw [String.utf8Len_cons]
      omega

namespace OffsetTable

/-! ### The entries of a table -/

/-- A byte of a character is at the code unit where the character starts. -/
theorem unitAt?_char (xs : List Char) {c : Char} (zs : List Char) {i : Nat} (hi : i < c.utf8Size) :
  (ofText (xs ++ c :: zs)).unitAt? (utf8Len xs + i) = some (units xs)
  := by
  rw [unitAt?_ofText, unitEntries_append, List.append_assoc,
    List.getElem?_append_right (by simp), length_unitEntries, Nat.add_sub_cancel_left, unitEntries,
    List.append_assoc, List.getElem?_append_left (by simpa using hi), List.getElem?_replicate,
    if_pos hi, Nat.zero_add]

/-- The entry of a byte counts the code units of the characters that end there or before. -/
theorem unitAt?_eq_units {cs : List Char} {byte : Nat} (inside : byte ≤ utf8Len cs) :
  (ofText cs).unitAt? byte = some (units (charsIn ⟨0, byte⟩ 0 cs))
  := by
  rcases Nat.lt_or_eq_of_le inside with inside | rfl
  · obtain ⟨xs, c, zs, i, rfl, hi, rfl⟩ := exists_char_of_byte inside
    have before : charsIn ⟨0, utf8Len xs + i⟩ 0 xs = xs :=
      charsIn_of_inside le_rfl (by simp)
    have after : charsIn ⟨0, utf8Len xs + i⟩ (0 + utf8Len xs) (c :: zs) = [] := by
      apply charsIn_of_after
      intro d hd
      obtain rfl := Option.some.inj hd
      dsimp only
      omega
    rw [unitAt?_char xs zs hi, charsIn_append, before, after, List.append_nil]
  · have whole := unitAt?_utf8Len cs []
    rw [List.append_nil] at whole
    rw [whole, charsIn_of_inside le_rfl (by simp)]

/-- Two positions between characters, in bytes and in code units: the characters between them take
some of both, unless there are none. -/
theorem exists_between {cs : List Char} {a b : Nat} (ha : IsByteBoundary cs a)
    (hb : IsByteBoundary cs b) (order : a ≤ b) :
  ∃ u, (ofText cs).unitAt? a = some u
    ∧ (ofText cs).unitAt? b = some (u + units (charsIn ⟨a, b⟩ 0 cs))
    ∧ b = a + utf8Len (charsIn ⟨a, b⟩ 0 cs)
  := by
  obtain ⟨xs, ys, zs, rfl, rfl, rfl⟩ := exists_middle ha hb order
  rw [charsIn_middle]
  refine ⟨units xs, ?_, ?_, String.utf8Len_append xs ys⟩
  · rw [List.append_assoc]
    exact unitAt?_utf8Len xs (ys ++ zs)
  · rw [← units_append]
    exact unitAt?_utf8Len (xs ++ ys) zs

/-- Between characters, later bytes are at later code units. -/
theorem unitAt?_strictMono {cs : List Char} {a b u v : Nat} (ha : IsByteBoundary cs a)
    (hb : IsByteBoundary cs b) (order : a < b) (hu : (ofText cs).unitAt? a = some u)
    (hv : (ofText cs).unitAt? b = some v) :
  u < v
  := by
  obtain ⟨u', hu', hv', bytes⟩ := exists_between ha hb order.le
  obtain rfl := Option.some.inj (hu.symm.trans hu')
  obtain rfl := Option.some.inj (hv.symm.trans hv')
  cases between : charsIn ⟨a, b⟩ 0 cs with
  | nil =>
    rw [between, String.utf8Len_nil] at bytes
    omega
  | cons c rest =>
    have one := unitLength_pos c
    rw [units_cons]
    omega

/-- A span of bytes between characters has the code units of the characters in it. -/
theorem unitSpan?_boundaries {cs : List Char} {a b u v : Nat} (ha : IsByteBoundary cs a)
    (hb : IsByteBoundary cs b) (hu : (ofText cs).unitAt? a = some u)
    (hv : (ofText cs).unitAt? b = some v) (limit : Nat) :
  (ofText cs).unitSpan? ⟨a, b⟩ limit = if a ≤ b ∧ v ≤ limit then some ⟨u, v⟩ else none
  := by
  have order : u ≤ v ↔ a ≤ b := by
    constructor
    · intro le
      by_contra later
      have lt := unitAt?_strictMono hb ha (Nat.lt_of_not_le later) hv hu
      omega
    · intro le
      exact unitAt?_mono le hu hv
  rw [unitSpan?, hu, hv, Option.bind_some, Option.bind_some, within?]
  simp only [order]

/-- A table tells exactly where the bytes of a text are. -/
structure IsExact (cs : List Char) (t : OffsetTable) : Prop where
  /-- The entry of a byte counts the code units of all characters that end there or before. -/
  unit : ∀ byte ≤ utf8Len cs, t.unitAt? byte = some (encode16 (charsIn ⟨0, byte⟩ 0 cs)).length
  /-- All bytes of a character have the entry of the first one. -/
  char : ∀ xs c zs, cs = xs ++ c :: zs →
    ∀ i < c.utf8Size, t.unitAt? (utf8Len xs + i) = t.unitAt? (utf8Len xs)
  /-- The last entry counts the code units of the whole text. -/
  last : t.unitAt? (utf8Len cs) = some (encode16 cs).length
  /-- There are no entries beyond the end. -/
  outside : ∀ byte, utf8Len cs < byte → t.unitAt? byte = none
  /-- The entries increase. -/
  mono : ∀ a b, a ≤ b → ∀ u ∈ t.unitAt? a, ∀ v ∈ t.unitAt? b, u ≤ v
  /-- Between characters they increase strictly. -/
  strictMono : ∀ a b, IsByteBoundary cs a → IsByteBoundary cs b → a < b →
    ∀ u ∈ t.unitAt? a, ∀ v ∈ t.unitAt? b, u < v
  /-- A span of bytes between characters that is in order has the code units of the characters in
  it, and it is found if these end at the limit or before. -/
  span : ∀ a b, IsByteBoundary cs a → IsByteBoundary cs b →
    ∃ u ∈ t.unitAt? a, ∃ v ∈ t.unitAt? b,
      (a ≤ b → v = u + (encode16 (charsIn ⟨a, b⟩ 0 cs)).length)
        ∧ ∀ limit, t.unitSpan? ⟨a, b⟩ limit = if a ≤ b ∧ v ≤ limit then some ⟨u, v⟩ else none

/-- The table of a text is exact. -/
theorem isExact_ofText (cs : List Char) :
  IsExact cs (ofText cs)
  where
  unit byte inside := by
    rw [length_encode16]
    exact unitAt?_eq_units inside
  char xs c zs parts i hi := by
    obtain rfl := parts
    rw [unitAt?_char xs zs hi, unitAt?_utf8Len]
  last := by
    have whole := unitAt?_utf8Len cs []
    rwa [List.append_nil, ← length_encode16] at whole
  outside byte after := by
    rw [← Option.not_isSome_iff_eq_none, isSome_unitAt?]
    exact Nat.not_le_of_lt after
  mono a b order u hu v hv := unitAt?_mono order hu hv
  strictMono a b ha hb order u hu v hv := unitAt?_strictMono ha hb order hu hv
  span a b ha hb := by
    have inside {c : Nat} (hc : IsByteBoundary cs c) : ∃ w, (ofText cs).unitAt? c = some w := by
      obtain ⟨xs, ⟨ys, rfl⟩, rfl⟩ := hc
      exact ⟨units xs, unitAt?_utf8Len xs ys⟩
    obtain ⟨u, hu⟩ := inside ha
    obtain ⟨v, hv⟩ := inside hb
    refine ⟨u, hu, v, hv, ?_, unitSpan?_boundaries ha hb hu hv⟩
    intro order
    obtain ⟨u', hu', hv', -⟩ := exists_between ha hb order
    obtain rfl := Option.some.inj (hu.symm.trans hu')
    rw [length_encode16]
    exact Option.some.inj (hv.symm.trans hv')

/-- A character of two bytes and one of four bytes, which has two code units. -/
example :
  (List.range 9).map (ofText "é😀a".toList).unitAt?
    = [some 0, some 0, some 1, some 1, some 1, some 1, some 3, some 4, none]
  := by
  decide

end OffsetTable

end LiveMarkdown
