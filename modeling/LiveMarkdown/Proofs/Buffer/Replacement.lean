import LiveMarkdown.Proofs.Buffer.Paragraph

/-!
# Replacing text

A host sees a text as its code units, where a character beyond the basic plane is a pair of
surrogates.  To replace the text in a span is to replace these code units, with the attributes
next to them.  A span that is out of order, out of bounds or that starts or stops inside a pair
is refused, and then the buffer stays as it is.
-/

namespace LiveMarkdown

/-! ### Code units of characters -/

/-- The code units that can only be the first one of a pair. -/
def isHighSurrogate (w : UInt16) : Bool :=
  0xD800 ≤ w && w ≤ 0xDBFF

/-- The code units that can only be the second one of a pair. -/
def isLowSurrogate (w : UInt16) : Bool :=
  0xDC00 ≤ w && w ≤ 0xDFFF

/-- A position lies between the two code units of a pair of surrogates. -/
def InsidePair (ws : List UInt16) (n : Nat) : Prop :=
  ∃ before high low after, ws = before ++ high :: low :: after ∧ n = before.length + 1
    ∧ isHighSurrogate high ∧ isLowSurrogate low

theorem isHighSurrogate_iff {w : UInt16} :
  isHighSurrogate w ↔ 0xD800 ≤ w.toNat ∧ w.toNat ≤ 0xDBFF
  := by
  simp only [isHighSurrogate, Bool.and_eq_true, decide_eq_true_eq, UInt16.le_iff_toNat_le]
  rfl

theorem isLowSurrogate_iff {w : UInt16} :
  isLowSurrogate w ↔ 0xDC00 ≤ w.toNat ∧ w.toNat ≤ 0xDFFF
  := by
  simp only [isLowSurrogate, Bool.and_eq_true, decide_eq_true_eq, UInt16.le_iff_toNat_le]
  rfl

/-- A character of the basic plane is not a surrogate. -/
theorem encodeChar_of_lt {c : Char} (basic : c.val < 0x10000) :
  ∃ w, encodeChar c = [w] ∧ ¬ isHighSurrogate w ∧ ¬ isLowSurrogate w
  := by
  have small : c.val.toNat < 0x10000 := UInt32.lt_iff_toNat_lt.mp basic
  have value : c.val.toUInt16.toNat = c.val.toNat := by
    rw [UInt32.toNat_toUInt16, Nat.mod_eq_of_lt small]
  have valid : c.val.toNat < 0xD800 ∨ 0xDFFF < c.val.toNat ∧ c.val.toNat < 0x110000 := c.valid
  rw [encodeChar, if_pos basic]
  refine ⟨_, rfl, ?_, ?_⟩
  · rw [isHighSurrogate_iff, value]
    omega
  · rw [isLowSurrogate_iff, value]
    omega

/-- A character beyond the basic plane is a pair of surrogates. -/
theorem encodeChar_of_not_lt {c : Char} (beyond : ¬ c.val < 0x10000) :
  ∃ high low, encodeChar c = [high, low] ∧ isHighSurrogate high ∧ isLowSurrogate low
  := by
  have valid : c.val.toNat < 0xD800 ∨ 0xDFFF < c.val.toNat ∧ c.val.toNat < 0x110000 := c.valid
  have value : (c.val - 0x10000).toNat = c.val.toNat - 0x10000 :=
    UInt32.toNat_sub_of_le _ _ (UInt32.not_lt.mp beyond)
  have high : (0xD800 + (c.val - 0x10000) / 0x400).toUInt16.toNat
      = 0xD800 + (c.val.toNat - 0x10000) / 0x400 := by
    rw [UInt32.toNat_toUInt16, UInt32.toNat_add, UInt32.toNat_div, value]
    simp only [UInt32.reduceToNat, Nat.reducePow]
    omega
  have low : (0xDC00 + (c.val - 0x10000) % 0x400).toUInt16.toNat
      = 0xDC00 + (c.val.toNat - 0x10000) % 0x400 := by
    rw [UInt32.toNat_toUInt16, UInt32.toNat_add, UInt32.toNat_mod, value]
    simp only [UInt32.reduceToNat, Nat.reducePow]
    omega
  rw [encodeChar, if_neg beyond]
  refine ⟨_, _, rfl, ?_, ?_⟩
  · rw [isHighSurrogate_iff, high]
    omega
  · rw [isLowSurrogate_iff, low]
    omega

/-- No text ends with the first code unit of a pair. -/
theorem not_isHighSurrogate_of_getLast? {cs : List Char} {w : UInt16}
    (last : (encode16 cs).getLast? = some w) :
  ¬ isHighSurrogate w
  := by
  rcases cs.eq_nil_or_concat with rfl | ⟨ds, c, rfl⟩
  · cases last
  · rw [List.concat_eq_append, encode16_append, encode16_cons, encode16_nil, List.append_nil] at last
    by_cases basic : c.val < 0x10000
    · obtain ⟨v, encoded, notHigh, -⟩ := encodeChar_of_lt basic
      rw [encoded, List.getLast?_append] at last
      obtain rfl : v = w := Option.some.inj last
      exact notHigh
    · obtain ⟨high, low, encoded, -, isLow⟩ := encodeChar_of_not_lt basic
      rw [encoded, List.getLast?_append] at last
      obtain rfl : low = w := Option.some.inj last
      rw [isHighSurrogate_iff]
      have := isLowSurrogate_iff.mp isLow
      omega

/-! ### Positions inside a character -/

/-- A position in a text is between two characters or inside one that is a pair. -/
theorem isBoundary_or_exists_inside {n : Nat} {cs : List Char} (inside : n ≤ units cs) :
  isBoundary cs n ∨ ∃ xs c ys, cs = xs ++ c :: ys ∧ ¬ c.val < 0x10000 ∧ n = units xs + 1
  := by
  rw [isBoundary_iff]
  induction cs generalizing n with
  | nil =>
    left
    exact ⟨[], [], rfl, (Nat.le_zero.mp inside).symm⟩
  | cons c cs ih =>
    rw [units_cons] at inside
    by_cases before : n < unitLength c
    · cases n with
      | zero =>
        left
        exact ⟨[], c :: cs, rfl, rfl⟩
      | succ n =>
        right
        rw [unitLength] at before
        split at before
        · omega
        · rename_i beyond
          exact ⟨[], c, cs, rfl, beyond, by rw [units_nil]; omega⟩
    · obtain ⟨m, rfl⟩ := Nat.exists_eq_add_of_le (Nat.le_of_not_lt before)
      rcases ih (by omega : m ≤ units cs) with ⟨xs, ys, rfl, rfl⟩ | ⟨xs, d, ys, rfl, beyond, rfl⟩
      · left
        exact ⟨c :: xs, ys, rfl, units_cons ..⟩
      · right
        exact ⟨c :: xs, d, ys, rfl, beyond, by rw [units_cons, Nat.add_assoc]⟩

/-- The positions in a text where it can be cut are those that are not inside a pair. -/
theorem isBoundary_iff_not_insidePair {n : Nat} {cs : List Char} :
  isBoundary cs n ↔ n ≤ units cs ∧ ¬ InsidePair (encode16 cs) n
  := by
  constructor
  · intro boundary
    obtain ⟨xs, ys, rfl, rfl⟩ := isBoundary_iff.mp boundary
    constructor
    · rw [units_append]
      exact Nat.le_add_right _ _
    · rintro ⟨before, high, low, after, parts, size, isHigh, -⟩
      have cut : encode16 xs ++ encode16 ys = (before ++ [high]) ++ low :: after := by
        rw [← encode16_append, parts, List.append_assoc]
        rfl
      obtain ⟨first, -⟩ := List.append_inj cut (by simp [size])
      apply not_isHighSurrogate_of_getLast? _ isHigh
      · exact xs
      · rw [first, List.getLast?_concat]
  · rintro ⟨inside, apart⟩
    rcases isBoundary_or_exists_inside inside with boundary | ⟨xs, c, ys, rfl, beyond, rfl⟩
    · exact boundary
    · obtain ⟨high, low, encoded, isHigh, isLow⟩ := encodeChar_of_not_lt beyond
      apply absurd _ apart
      exact ⟨encode16 xs, high, low, encode16 ys, by simp [encoded], by simp, isHigh, isLow⟩

/-! ### Spliced arrays -/

/-- An array in which a span is replaced by copies of one entry. -/
theorem getElem?_splice {α : Type} (as : Array α) (a : α) {i j : Nat} (order : i ≤ j)
    (inside : j ≤ as.size) (n u : Nat) :
  (as.extract 0 i ++ Array.replicate n a ++ as.extract j as.size)[u]?
    = if u < i then as[u]? else if u < i + n then some a else as[j + (u - (i + n))]?
  := by
  rw [Array.append_assoc]
  by_cases before : u < i
  · rw [if_pos before, ← Array.append_assoc, Buffer.getElem?_extract_append as _ _ before (by omega)]
  · have size : (as.extract 0 i).size = i := by
      rw [Array.size_extract]
      omega
    rw [if_neg before, Array.getElem?_append_right (by omega), size]
    by_cases among : u < i + n
    · rw [if_pos among, Array.getElem?_append_left (by rw [Array.size_replicate]; omega),
        Array.getElem?_replicate, if_pos (by omega)]
    · rw [if_neg among, Array.getElem?_append_right (by rw [Array.size_replicate]; omega),
        Array.size_replicate, Array.getElem?_extract, Nat.min_self, Nat.sub_sub]
      split
      · rfl
      · rw [Array.getElem?_eq_none (by omega)]

namespace Buffer

variable (b : Buffer) (span : Span) (text : List Char)

/-- A span whose text is not replaced: it is out of order or out of bounds, or it starts or stops
inside a pair of surrogates. -/
def Refuses : Prop :=
  span.stop < span.start ∨ b.length < span.stop ∨ InsidePair (encode16 b.chars) span.start
    ∨ InsidePair (encode16 b.chars) span.stop

/-- The buffer after an attempt to replace the text in a span. -/
def replaced : Buffer :=
  match b.replace? span text with
  | some (_, c) => c
  | none => b

/-- A buffer in which a text was put in place of a span, and the note of that edit. -/
structure IsSplice (edit : Edit) (c : Buffer) : Prop where
  /-- The code units in the span were replaced. -/
  encoded : encode16 c.chars
    = (encode16 b.chars).take span.start ++ encode16 text ++ (encode16 b.chars).drop span.stop
  /-- The code units before the span keep their attributes. -/
  before : ∀ u < span.start, c.attributes[u]? = b.attributes[u]?
  /-- The code units after the span keep their attributes. -/
  after : ∀ u, c.attributes[span.start + (encode16 text).length + u]?
    = b.attributes[span.stop + u]?
  /-- New code units take the attributes of the one before them. -/
  inherited : ∀ u < (encode16 text).length, 0 < span.start →
    c.attributes[span.start + u]? = b.attributes[span.start - 1]?
  /-- At the start of the buffer they take those of the code unit after the span, and none if
  nothing is there. -/
  inheritedFirst : ∀ u < (encode16 text).length, span.start = 0 →
    c.attributes[span.start + u]? = some (b.attributes[span.stop]?.getD {})
  /-- The text has a new revision. -/
  revision : c.revision.toNat = (b.revision.toNat + 1) % UInt64.size
  /-- One edit is noted. -/
  edits : c.edits = b.edits.push edit
  /-- The edit is one of the text, at the new code units, with the growth of the text. -/
  note : edit = ⟨.characters, ⟨span.start, span.start + (encode16 text).length⟩,
    (c.length : Int) - b.length⟩
  /-- The batches that are open stay open. -/
  depth : c.depth = b.depth
  /-- What they have covered stays the same. -/
  batch : c.batch = b.batch

variable {b span text}

theorem not_refuses_iff :
  ¬ b.Refuses span ↔ span.start ≤ span.stop ∧ isBoundary b.chars span.start
    ∧ isBoundary b.chars span.stop
  := by
  have size : b.length = units b.chars := b.size_attributes
  rw [Refuses, isBoundary_iff_not_insidePair, isBoundary_iff_not_insidePair]
  constructor
  · intro allowed
    simp only [not_or, Nat.not_lt] at allowed
    obtain ⟨order, inside, start, stop⟩ := allowed
    exact ⟨order, ⟨by omega, start⟩, by omega, stop⟩
  · rintro ⟨order, ⟨-, start⟩, inside, stop⟩ (outOfOrder | outOfBounds | cut | cut)
    · omega
    · omega
    · exact start cut
    · exact stop cut

/-- The code units of a text in which the part in a span was replaced. -/
theorem encode16_replaced {cs : List Char} (order : span.start ≤ span.stop)
    (start : isBoundary cs span.start) (stop : isBoundary cs span.stop) (text : List Char) :
  encode16 ((Place.ofUnits span.start cs).before.reverse
      ++ (text ++ (Place.ofUnits span.stop cs).after))
    = (encode16 cs).take span.start ++ encode16 text ++ (encode16 cs).drop span.stop
  := by
  obtain ⟨xs, ys, zs, rfl, first, size⟩ := exists_parts order start stop
  have last : units (xs ++ ys) = span.stop := by
    rw [units_append, first, size, Span.length]
    omega
  have before : Place.ofUnits span.start (xs ++ (ys ++ zs)) = ⟨xs.reverse, ys ++ zs⟩ := by
    rw [← first, Place.ofUnits_units]
  have after : Place.ofUnits span.stop (xs ++ (ys ++ zs)) = ⟨(xs ++ ys).reverse, zs⟩ := by
    rw [← last, ← List.append_assoc, Place.ofUnits_units]
  have taken : (encode16 (xs ++ (ys ++ zs))).take span.start = encode16 xs := by
    rw [encode16_append, List.take_left' (by rw [length_encode16, first])]
  have dropped : (encode16 (xs ++ (ys ++ zs))).drop span.stop = encode16 zs := by
    rw [← List.append_assoc, encode16_append, List.drop_left' (by rw [length_encode16, last])]
  rw [before, after, taken, dropped, List.reverse_reverse, encode16_append, encode16_append,
    List.append_assoc]

/-- Text that is replaced is spliced in. -/
theorem isSplice_of_replace? {edit : Edit} {c : Buffer}
    (h : b.replace? span text = some (edit, c)) :
  b.IsSplice span text edit c
  := by
  rw [replace?] at h
  split at h
  · rename_i allowed
    obtain ⟨order, start, stop⟩ := allowed
    obtain ⟨rfl, rfl⟩ := Prod.mk.inj (Option.some.inj h)
    have size : b.attributes.size = units b.chars := b.size_attributes
    have inside : span.stop ≤ b.attributes.size := by
      rw [size]
      exact (isBoundary_iff_not_insidePair.mp stop).1
    have entry (u : Nat) := getElem?_splice b.attributes (b.inherited span) order inside (units text) u
    constructor
    case encoded => exact encode16_replaced order start stop text
    case before =>
      intro u hu
      rw [entry, if_pos hu]
    case after =>
      intro u
      rw [length_encode16, entry, if_neg (by omega), if_neg (by omega)]
      congr 1
      omega
    case inherited =>
      intro u hu later
      rw [length_encode16] at hu
      rw [entry, if_neg (by omega), if_pos (by omega), inherited, if_neg (by omega)]
      have before : span.start - 1 < b.attributes.size := by omega
      rw [Array.getElem?_eq_getElem before]
      rfl
    case inheritedFirst =>
      intro u hu first
      rw [length_encode16] at hu
      rw [entry, if_neg (by omega), if_pos (by omega), inherited, if_pos first]
    case revision => exact UInt64.toNat_add b.revision 1
    case edits => rfl
    case note =>
      simp only [length_encode16, length, Array.size_append, Array.size_extract,
        Array.size_replicate, Span.length, Edit.mk.injEq, true_and]
      omega
    case depth => rfl
    case batch => rfl
  · cases h

/-- To replace text is to splice its code units, or to refuse. -/
theorem replaced_refuses_or_splices (b : Buffer) (span : Span) (text : List Char) :
  b.attributes.size = (encode16 b.chars).length
    ∧ (b.Refuses span ∧ b.replace? span text = none ∧ b.replaced span text = b
      ∨ ¬ b.Refuses span ∧ ∃ edit, b.replace? span text = some (edit, b.replaced span text)
        ∧ b.IsSplice span text edit (b.replaced span text))
  := by
  constructor
  · rw [length_encode16, b.size_attributes]
  · cases attempt : b.replace? span text with
    | none =>
      left
      have refused : b.Refuses span := by
        by_contra allowed
        rw [replace?, dif_pos (not_refuses_iff.mp allowed)] at attempt
        cases attempt
      exact ⟨refused, rfl, by rw [replaced, attempt]⟩
    | some result =>
      right
      obtain ⟨edit, c⟩ := result
      have allowed : ¬ b.Refuses span := by
        apply not_refuses_iff.mpr
        by_contra other
        rw [replace?, dif_neg other] at attempt
        cases attempt
      have done : b.replaced span text = c := by
        rw [replaced, attempt]
      rw [done]
      exact ⟨allowed, edit, rfl, isSplice_of_replace? attempt⟩

end Buffer

end LiveMarkdown
