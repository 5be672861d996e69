import LiveMarkdown.Proofs.Style.Colors

/-!
# Colors that are written and read back

A color is written with small hexadecimal digits, and the opacity is left out if it is full.  It is
read back from its text, and also if the digits are capitals, if a full opacity is not left out, and
with any number signs before the digits and white space around all this.  So two colors are not
written alike.  Of all texts from which a color is read its own text is the only canonical one.
-/

namespace LiveMarkdown

/-! ### Digits in either case -/

theorem idxOf?_digitChar :
  ∀ k : Fin 16, "0123456789abcdef".toList.idxOf? (Nat.digitChar k) = some k.val
  := by
  decide

/-- A hexadecimal digit is the digit that is written for its value, in either case. -/
theorem hexValue?_eq_some_iff {c : Char} {k : Nat} :
  hexValue? c = some k ↔ k < 16 ∧ c.toLower = Nat.digitChar k
  := by
  constructor
  · intro value
    have small := (lt_of_hexValue? value).1
    refine ⟨small, ?_⟩
    obtain ⟨_, found, -⟩ := List.idxOf?_eq_some_iff.mp value
    obtain ⟨_, written, -⟩ := List.idxOf?_eq_some_iff.mp (idxOf?_digitChar ⟨k, small⟩)
    exact found.symm.trans written
  · rintro ⟨small, same⟩
    rw [hexValue?, same]
    exact idxOf?_digitChar ⟨k, small⟩

theorem isBlank_of_ascii :
  ∀ n : Fin 128, (hexValue? (Char.ofNat n)).isSome → ¬ isBlank (Char.ofNat n)
  := by
  decide +kernel

/-- No hexadecimal digit is white space. -/
theorem not_isBlank_of_hexValue? {c : Char} {k : Nat} (h : hexValue? c = some k) :
  ¬ isBlank c
  := by
  have blank := isBlank_of_ascii ⟨c.toNat, (lt_of_hexValue? h).2⟩
  rw [Char.ofNat_toNat, h] at blank
  exact blank rfl

/-- Two hexadecimal digits write a number if they are its digits, in either case. -/
theorem isHexPair_iff_toLower {x y : Char} {n : UInt8} :
  IsHexPair x y n ↔ [x.toLower, y.toLower] = Color.channelDigits n
  := by
  have small : n.toNat < 256 := n.toNat_lt
  simp only [IsHexPair, Option.mem_def, hexValue?_eq_some_iff, Color.channelDigits,
    List.cons.injEq, and_true]
  constructor
  · rintro ⟨i, ⟨hi, left⟩, j, ⟨hj, right⟩, total⟩
    have high : n.toNat / 16 = i := by omega
    have low : n.toNat % 16 = j := by omega
    rw [high, low]
    exact ⟨left, right⟩
  · rintro ⟨left, right⟩
    exact ⟨_, ⟨by omega, left⟩, _, ⟨by omega, right⟩, by omega⟩

theorem Spells.iff_toLower {cs : List Char} {ns : List UInt8} :
  Spells IsHexPair cs ns ↔ cs.map Char.toLower = ns.flatMap Color.channelDigits
  := by
  constructor
  · intro h
    induction h with
    | nil => rfl
    | cons first _ ih =>
      rw [List.map_cons, List.map_cons, List.flatMap_cons, ← isHexPair_iff_toLower.mp first, ih]
      rfl
  · intro same
    induction ns generalizing cs with
    | nil =>
      obtain rfl := List.map_eq_nil_iff.mp same
      exact .nil
    | cons n ns ih =>
      obtain ⟨x, cs, rfl, left, rest⟩ := List.map_eq_cons_iff.mp same
      obtain ⟨y, cs, rfl, right, rest⟩ := List.map_eq_cons_iff.mp rest
      have pair : [x.toLower, y.toLower] = Color.channelDigits n := by
        rw [left, right]
        rfl
      exact .cons (isHexPair_iff_toLower.mpr pair) (ih rest)

/-- The characters of what is spelled are hexadecimal digits. -/
theorem Spells.isSome_hexValue? {cs : List Char} {ns : List UInt8} (h : Spells IsHexPair cs ns) :
  ∀ d ∈ cs, (hexValue? d).isSome
  := by
  induction h with
  | nil => nofun
  | cons first _ ih =>
    obtain ⟨i, hi, j, hj, -⟩ := first
    rw [List.forall_mem_cons, List.forall_mem_cons]
    exact ⟨Option.isSome_of_mem hi, Option.isSome_of_mem hj, ih⟩

/-- Hexadecimal digits are left if number signs before them and white space around all this are
dropped. -/
theorem isStripped_of_digits {before signs digits after : List Char} (blank : ∀ d ∈ before, isBlank d)
    (sharp : ∀ d ∈ signs, d = '#') (blank' : ∀ d ∈ after, isBlank d)
    (hex : ∀ d ∈ digits, (hexValue? d).isSome) :
  IsStripped (before ++ signs ++ digits ++ after) digits
  := by
  have dark : ∀ d ∈ signs ++ digits, ¬ isBlank d := by
    rw [List.forall_mem_append]
    constructor
    · intro d hd
      rw [sharp d hd]
      decide
    · intro d hd
      obtain ⟨k, value⟩ := Option.isSome_iff_exists.mp (hex d hd)
      exact not_isBlank_of_hexValue? value
  refine ⟨before, signs, after, by simp, blank, sharp, blank', ?_, ?_, ?_⟩
  · intro d hd
    exact dark d (List.mem_of_mem_head? hd)
  · intro d hd
    exact dark d (List.mem_of_mem_getLast? hd)
  · intro first
    have value := hex '#' (List.mem_of_mem_head? first)
    cases value

namespace Color

/-! ### Spellings of a color -/

theorem toList_toText (c : Color) :
  (toText c).toList
    = '#' :: (if c.alpha = 255 then [c.red, c.green, c.blue] else [c.red, c.green, c.blue, c.alpha]).flatMap
      channelDigits
  := by
  rw [toText]
  split <;> simp

/-- Hexadecimal digits that spell a color are those of its text in either case, where a full opacity
may be added. -/
theorem isSpelled_iff_toLower {c : Color} {digits : List Char} :
  c.IsSpelled IsHexPair digits
    ↔ '#' :: digits.map Char.toLower = (toText c).toList
      ∨ c.alpha = 255 ∧ '#' :: digits.map Char.toLower = (toText c).toList ++ ['f', 'f']
  := by
  have full : channelDigits 255 = ['f', 'f'] := rfl
  rw [IsSpelled, Spells.iff_toLower, Spells.iff_toLower, toList_toText]
  by_cases solid : c.alpha = 255
  · rw [if_pos solid, solid]
    simp [full, or_comm]
  · rw [if_neg solid]
    simp [solid]

/-- A text writes a color: it has the hexadecimal digits of the text of the color in either case, where
a full opacity may be added, with any number signs before them and white space around all this. -/
def IsWrittenAs (c : Color) (cs : List Char) : Prop :=
  ∃ before signs digits after, cs = before ++ signs ++ digits ++ after
    ∧ (∀ d ∈ before, isBlank d) ∧ (∀ d ∈ signs, d = '#') ∧ (∀ d ∈ after, isBlank d)
    ∧ ('#' :: digits.map Char.toLower = (toText c).toList
      ∨ c.alpha = 255 ∧ '#' :: digits.map Char.toLower = (toText c).toList ++ ['f', 'f'])

theorem IsSpelled.isSome_hexValue? {c : Color} {digits : List Char}
    (h : c.IsSpelled IsHexPair digits) :
  ∀ d ∈ digits, (hexValue? d).isSome
  := by
  rcases h with h | ⟨-, h⟩
  · exact h.isSome_hexValue?
  · exact h.isSome_hexValue?

theorem isWrittenAs_iff {c : Color} {cs : List Char} :
  c.IsWrittenAs cs ↔ ∃ body, IsStripped cs body ∧ c.IsSpelled IsHexPair body
  := by
  constructor
  · rintro ⟨before, signs, digits, after, rfl, blank, sharp, blank', same⟩
    have spelled := isSpelled_iff_toLower.mpr same
    exact ⟨digits, isStripped_of_digits blank sharp blank' spelled.isSome_hexValue?, spelled⟩
  · rintro ⟨digits, ⟨before, signs, after, rfl, blank, sharp, blank', -⟩, spelled⟩
    exact ⟨before, signs, digits, after, by simp, blank, sharp, blank',
      isSpelled_iff_toLower.mp spelled⟩

/-- A color is read from the texts that write it.  All others from which it is read have a plus
sign. -/
theorem isWrittenAs_iff_ofText {c : Color} {text : String} :
  c.IsWrittenAs text.toList ↔ ofText text = .ok c ∧ '+' ∉ text.toList
  := by
  have signs : '+' ∈ text.toList ↔ '+' ∈ stripped text.toList :=
    (isStripped_iff.mpr rfl).mem_iff (by decide) (by decide)
  rw [ofText_iff_isSpelled, signs, ← IsSpelled.hexPairs_iff, isWrittenAs_iff]
  simp [isStripped_iff]

/-! ### Canonical texts -/

/-- A text of a color is canonical: a number sign and six small hexadecimal digits, or eight of them if
the opacity is not full. -/
def IsCanonical (text : String) : Prop :=
  ∃ digits, text.toList = '#' :: digits ∧ (∀ d ∈ digits, d ∈ "0123456789abcdef".toList)
    ∧ (digits.length = 6 ∨ digits.length = 8 ∧ digits.drop 6 ≠ ['f', 'f'])

theorem digitChar_mem :
  ∀ k : Fin 16, Nat.digitChar k ∈ "0123456789abcdef".toList
  := by
  decide

theorem mem_of_mem_channelDigits {n : UInt8} {d : Char} (h : d ∈ channelDigits n) :
  d ∈ "0123456789abcdef".toList
  := by
  have small : n.toNat < 256 := n.toNat_lt
  rcases List.mem_pair.mp h with rfl | rfl
  · exact digitChar_mem ⟨n.toNat / 16, by omega⟩
  · exact digitChar_mem ⟨n.toNat % 16, by omega⟩

/-- Only a full channel has two digits `f`. -/
theorem eq_of_channelDigits {n : UInt8} (h : channelDigits n = ['f', 'f']) :
  n = 255
  := by
  have pair : IsHexPair 'f' 'f' n := isHexPair_iff_toLower.mpr h.symm
  obtain ⟨i, hi, j, hj, total⟩ := pair
  obtain rfl : 15 = i := Option.some.inj hi
  obtain rfl : 15 = j := Option.some.inj hj
  exact UInt8.toNat_inj.mp total

theorem isCanonical_toText (c : Color) :
  IsCanonical (toText c)
  := by
  refine ⟨_, toList_toText c, ?_, ?_⟩
  · intro d hd
    obtain ⟨n, -, hn⟩ := List.mem_flatMap.mp hd
    exact mem_of_mem_channelDigits hn
  · by_cases solid : c.alpha = 255
    · rw [if_pos solid]
      exact .inl rfl
    · rw [if_neg solid]
      refine .inr ⟨rfl, ?_⟩
      intro full
      exact solid (eq_of_channelDigits full)

theorem toLower_digitChar :
  ∀ k : Fin 16, (Nat.digitChar k).toLower = Nat.digitChar k
  := by
  decide

/-- A small hexadecimal digit stays the same if it is made small. -/
theorem toLower_of_mem_digits {d : Char} (h : d ∈ "0123456789abcdef".toList) :
  d.toLower = d ∧ (hexValue? d).isSome
  := by
  obtain ⟨k, small, rfl⟩ := List.mem_iff_getElem.mp h
  obtain ⟨_, written, -⟩ := List.idxOf?_eq_some_iff.mp (idxOf?_digitChar ⟨k, small⟩)
  rw [written]
  have same := toLower_digitChar ⟨k, small⟩
  exact ⟨same, Option.isSome_of_mem (hexValue?_eq_some_iff.mpr ⟨small, same⟩)⟩

theorem map_toLower_of_small {digits : List Char}
    (small : ∀ d ∈ digits, d ∈ "0123456789abcdef".toList) :
  digits.map Char.toLower = digits
  := by
  calc digits.map Char.toLower
    _ = digits.map id := List.map_congr_left fun d hd => (toLower_of_mem_digits (small d hd)).1
    _ = digits := List.map_id digits

/-- A color is read from its text. -/
theorem ofText_toText (c : Color) :
  ofText (toText c) = .ok c
  := by
  obtain ⟨digits, text, small, -⟩ := isCanonical_toText c
  have written : c.IsWrittenAs (toText c).toList := by
    refine ⟨[], ['#'], digits, [], by simp [text], nofun, by simp, nofun, .inl ?_⟩
    rw [map_toLower_of_small small, text]
  exact (isWrittenAs_iff_ofText.mp written).1

/-- Of the texts from which a color is read only its own is canonical. -/
theorem eq_toText_of_isCanonical {c : Color} {text : String} (h : IsCanonical text)
    (read : ofText text = .ok c) :
  text = toText c
  := by
  obtain ⟨digits, parts, small, size⟩ := h
  have hex : ∀ d ∈ digits, (hexValue? d).isSome := fun d hd => (toLower_of_mem_digits (small d hd)).2
  have around : IsStripped ([] ++ ['#'] ++ digits ++ []) digits :=
    isStripped_of_digits nofun (by simp) nofun hex
  have body : digits = stripped text.toList := by
    rw [parts, ← isStripped_iff]
    simpa using around
  have plus : '+' ∉ digits := fun h => by cases hex '+' h
  rw [ofText_iff_isSpelled, ← body] at read
  have spelled := isSpelled_iff_toLower.mp (IsSpelled.hexPairs_iff.mpr ⟨read, plus⟩)
  rw [map_toLower_of_small small, ← parts] at spelled
  rcases spelled with same | ⟨solid, same⟩
  · exact String.toList_inj.mp same
  · -- eight digits for a full opacity are not canonical
    rw [toList_toText, if_pos solid, parts] at same
    obtain rfl := (List.cons.inj same).2
    rcases size with six | ⟨-, other⟩
    · cases six
    · exact absurd rfl other

/-- A color is read from every text that writes it.  The text of a color that was read is canonical,
the color is read from it, and it is the only canonical text from which it is read.  Colors that are
written alike are equal. -/
theorem ofText_isWrittenAs (c : Color) :
  (∀ text : String, c.IsWrittenAs text.toList ↔ ofText text = .ok c ∧ '+' ∉ text.toList)
  ∧ (∀ text, ofText text = .ok c →
    IsCanonical (toText c) ∧ ofText (toText c) = .ok c
      ∧ ∀ text', IsCanonical text' → ofText text' = .ok c → text' = toText c)
  ∧ ∀ c', toText c = toText c' → c = c'
  := by
  refine ⟨fun text => isWrittenAs_iff_ofText, ?_, ?_⟩
  · intro text _
    exact ⟨isCanonical_toText c, ofText_toText c, fun text' => eq_toText_of_isCanonical⟩
  · intro c' same
    have read := ofText_toText c
    rw [same, ofText_toText c'] at read
    exact (Except.ok.inj read).symm

/-- A full opacity that is not left out, digits in both cases and two number signs, and a text with
plus signs. -/
theorem ofText_isWrittenAs_signs :
  (IsWrittenAs ⟨10, 102, 216, 255⟩ "\t ##0A66d8fF\n".toList
      ↔ ofText "\t ##0A66d8fF\n" = .ok ⟨10, 102, 216, 255⟩ ∧ '+' ∉ "\t ##0A66d8fF\n".toList)
    ∧ ofText "\t ##0A66d8fF\n" = .ok ⟨10, 102, 216, 255⟩
    ∧ ofText "+1+2+3+4" = .ok ⟨1, 2, 3, 4⟩
    ∧ (IsCanonical (toText ⟨1, 2, 3, 4⟩) ∧ ofText (toText ⟨1, 2, 3, 4⟩) = .ok ⟨1, 2, 3, 4⟩
      ∧ ∀ text', IsCanonical text' → ofText text' = .ok ⟨1, 2, 3, 4⟩ → text' = toText ⟨1, 2, 3, 4⟩)
  := by
  have signs : ofText "+1+2+3+4" = .ok ⟨1, 2, 3, 4⟩ := rfl
  obtain ⟨written, -, -⟩ := ofText_isWrittenAs ⟨10, 102, 216, 255⟩
  obtain ⟨-, canonical, -⟩ := ofText_isWrittenAs ⟨1, 2, 3, 4⟩
  exact ⟨written _, rfl, signs, canonical _ signs⟩

end Color

end LiveMarkdown
