import LiveMarkdown.Proofs.Text.Offsets

/-!
# Bytes of ASCII characters

In the encoding of a text a byte below 128 is a character of its own, and that character has
one code unit.  A byte of any character is at the code unit where the character starts, so no
byte is between the two code units of a character.
-/

namespace LiveMarkdown

open String (utf8Len utf8EncodeChar)

/-- The encoding of a character beyond ASCII has no byte of ASCII. -/
theorem utf8Size_of_lt {c : Char} {i : Nat} {b : UInt8} (h : (utf8EncodeChar c)[i]? = some b)
    (ascii : b.toNat < 0x80) :
  c.utf8Size = 1
  := by
  rw [Char.utf8Size_eq_one_iff]
  by_contra large
  have beyond : ¬ c.val.toNat ≤ 127 := large
  have mem := List.mem_of_getElem? h
  simp only [utf8EncodeChar, beyond, ↓reduceIte] at mem
  split at mem
  · simp only [List.mem_cons, List.not_mem_nil, or_false] at mem
    rcases mem with rfl | rfl <;> rw [UInt8.toNat_ofNat'] at ascii <;> omega
  · split at mem
    · simp only [List.mem_cons, List.not_mem_nil, or_false] at mem
      rcases mem with rfl | rfl | rfl <;> rw [UInt8.toNat_ofNat'] at ascii <;> omega
    · simp only [List.mem_cons, List.not_mem_nil, or_false] at mem
      rcases mem with rfl | rfl | rfl | rfl <;> rw [UInt8.toNat_ofNat'] at ascii <;> omega

/-- A byte of ASCII splits a text into what is before its character, the character and what is
after it. -/
theorem exists_of_ascii {cs : List Char} {i : Nat} {b : UInt8}
    (h : (cs.flatMap utf8EncodeChar)[i]? = some b) (ascii : b.toNat < 0x80) :
  ∃ xs c zs, cs = xs ++ c :: zs ∧ utf8Len xs = i ∧ c.utf8Size = 1
  := by
  induction cs generalizing i with
  | nil => cases h
  | cons c cs ih =>
    rw [List.flatMap_cons] at h
    by_cases here : i < c.utf8Size
    · rw [List.getElem?_append_left (by rw [String.length_utf8EncodeChar]; apply here)] at h
      have size := utf8Size_of_lt h ascii
      refine ⟨[], c, cs, rfl, ?_, size⟩
      rw [String.utf8Len_nil]
      omega
    · rw [List.getElem?_append_right (by rw [String.length_utf8EncodeChar]; omega),
        String.length_utf8EncodeChar] at h
      obtain ⟨xs, d, zs, rfl, start, size⟩ := ih h
      refine ⟨c :: xs, d, zs, rfl, ?_, size⟩
      rw [String.utf8Len_cons]
      omega

theorem utf8EncodeChar_of_utf8Size {c : Char} (h : c.utf8Size = 1) :
  utf8EncodeChar c = [c.toUInt8]
  := by
  have small : c.val.toNat ≤ 127 := Char.utf8Size_eq_one_iff.mp h
  simp only [utf8EncodeChar, small, if_true]
  rfl

/-- A character of ASCII is known from its byte. -/
theorem eq_of_toUInt8_eq {c d : Char} (hc : c.utf8Size = 1) (hd : d.utf8Size = 1)
    (same : c.toUInt8 = d.toUInt8) :
  c = d
  := by
  have smallc : c.val.toNat ≤ 127 := Char.utf8Size_eq_one_iff.mp hc
  have smalld : d.val.toNat ≤ 127 := Char.utf8Size_eq_one_iff.mp hd
  have value : c.val.toNat % 2 ^ 8 = d.val.toNat % 2 ^ 8 := by
    rw [← UInt32.toNat_toUInt8, ← UInt32.toNat_toUInt8]
    exact congrArg UInt8.toNat same
  apply Char.ext
  apply UInt32.toNat_inj.mp
  omega

theorem length_flatMap_utf8EncodeChar (cs : List Char) :
  (cs.flatMap utf8EncodeChar).length = utf8Len cs
  := by
  induction cs with
  | nil => rfl
  | cons c cs ih =>
    rw [List.flatMap_cons, List.length_append, String.length_utf8EncodeChar, ih,
      String.utf8Len_cons, Nat.add_comm]

/-- The bytes of a character of a text. -/
theorem getElem?_char (xs : List Char) {c : Char} (zs : List Char) {i : Nat}
    (hi : i < c.utf8Size) :
  ((xs ++ c :: zs).flatMap utf8EncodeChar)[utf8Len xs + i]? = (utf8EncodeChar c)[i]?
  := by
  have before := length_flatMap_utf8EncodeChar xs
  rw [List.flatMap_append, List.flatMap_cons, List.getElem?_append_right (by omega), before,
    Nat.add_sub_cancel_left, List.getElem?_append_left (by rwa [String.length_utf8EncodeChar])]

/-- A byte of a character of a text is that of an ASCII character if it is the first one and the
character is this one. -/
theorem getElem?_eq_ascii_iff (xs : List Char) {c d : Char} (zs : List Char) {i : Nat}
    (hi : i < c.utf8Size) (ascii : d.utf8Size = 1) :
  ((xs ++ c :: zs).flatMap utf8EncodeChar)[utf8Len xs + i]? = some d.toUInt8 ↔ i = 0 ∧ c = d
  := by
  have encoded := utf8EncodeChar_of_utf8Size ascii
  rw [getElem?_char xs zs hi]
  constructor
  · intro same
    have small : d.val.toNat ≤ 127 := Char.utf8Size_eq_one_iff.mp ascii
    have value : d.toUInt8.toNat = d.val.toNat % 2 ^ 8 := UInt32.toNat_toUInt8 d.val
    have size := utf8Size_of_lt same (by omega)
    obtain rfl : i = 0 := by omega
    rw [utf8EncodeChar_of_utf8Size size] at same
    exact ⟨rfl, eq_of_toUInt8_eq size ascii (Option.some.inj same)⟩
  · rintro ⟨rfl, rfl⟩
    rw [encoded]
    rfl

theorem unitLength_of_utf8Size {c : Char} (h : c.utf8Size = 1) :
  unitLength c = 1
  := by
  rw [Char.utf8Size_eq_one_iff] at h
  unfold unitLength
  rw [if_pos]
  apply UInt32.lt_of_le_of_lt h
  decide

namespace OffsetTable

variable {cs : List Char}

/-- The character of a byte of ASCII is one byte and one code unit. -/
theorem unitAt?_of_ascii {i : Nat} {b : UInt8} (h : (cs.flatMap utf8EncodeChar)[i]? = some b)
    (ascii : b.toNat < 0x80) :
  ∃ u, (ofText cs).unitAt? i = some u ∧ (ofText cs).unitAt? (i + 1) = some (u + 1)
  := by
  obtain ⟨xs, c, zs, rfl, rfl, size⟩ := exists_of_ascii h ascii
  refine ⟨units xs, unitAt?_utf8Len xs (c :: zs), ?_⟩
  have next := unitAt?_utf8Len (xs ++ [c]) zs
  rw [List.append_assoc, String.utf8Len_append, String.utf8Len_cons, String.utf8Len_nil, size,
    units_append, units_cons, units_nil, unitLength_of_utf8Size size] at next
  apply next

/-- No byte is between the two code units of a character. -/
theorem unitAt?_ne {xs zs : List Char} {c : Char} (hc : unitLength c = 2) {byte u : Nat}
    (h : (ofText (xs ++ c :: zs)).unitAt? byte = some u) :
  u ≠ units xs + 1
  := by
  rw [unitAt?_ofText, unitEntries_append, unitEntries] at h
  simp only [List.append_assoc] at h
  have mem := List.mem_of_getElem? h
  simp only [List.mem_append, List.mem_singleton, units_append, units_cons] at mem
  rcases mem with before | here | after | stop
  · have := (le_of_mem_unitEntries before).2
    omega
  · have := (List.mem_replicate.mp here).2
    omega
  · have := (le_of_mem_unitEntries after).1
    omega
  · omega

end OffsetTable

end LiveMarkdown
