import LiveMarkdown.Proofs.Text.Offsets

/-!
# Cutting texts

A span of bytes that can be cut out of a text splits the text into what is before it,
the part itself and what is after it.
-/

namespace LiveMarkdown

open String (utf8Len)

namespace IndexedText

/-- The number of characters that end before or at each byte of a text but the first
position, where `n` characters precede the text. -/
def charEntries (n : Nat) : List Char → List Nat
  | [] => []
  | c :: cs => List.replicate (c.utf8Size - 1) n ++ (n + 1) :: charEntries (n + 1) cs

theorem foldl_pushChar (as : Array Nat) (n : Nat) (h : as.back? = some n) (cs : List Char) :
  (cs.foldl pushChar as).toList = as.toList ++ charEntries n cs
  := by
  induction cs generalizing as n with
  | nil => simp [charEntries]
  | cons c cs ih =>
    have last : (pushChar as c).back? = some (n + 1) := by
      simp [pushChar, h]
    rw [List.foldl_cons, ih _ _ last, pushChar, h, Array.toList_push,
      OffsetTable.toList_pushCopies, charEntries]
    simp

theorem charsBefore_ofText (cs : List Char) :
  (ofText cs).charsBefore.toList = 0 :: charEntries 0 cs
  := foldl_pushChar #[0] 0 rfl cs

/-- A character and the entries of its bytes, the first position included. -/
theorem cons_charEntries (n : Nat) (c : Char) (cs : List Char) :
  n :: charEntries n (c :: cs)
    = List.replicate c.utf8Size n ++ (n + 1) :: charEntries (n + 1) cs
  := by
  obtain ⟨size, hs⟩ : ∃ size, c.utf8Size = size + 1 := Nat.exists_eq_add_one.mpr c.utf8Size_pos
  rw [charEntries, hs, Nat.add_sub_cancel, List.replicate_succ, List.cons_append]

/-- Where the number of characters changes from one byte to the next, a character ends. -/
theorem utf8Len_take_of_charEntries {byte n k : Nat} {cs : List Char}
    (here : (n :: charEntries n cs)[byte + 1]? = some k)
    (before : (n :: charEntries n cs)[byte]? ≠ some k) :
  n ≤ k ∧ k - n ≤ cs.length ∧ utf8Len (cs.take (k - n)) = byte + 1
  := by
  induction cs generalizing byte n with
  | nil => simp [charEntries] at here
  | cons c cs ih =>
    rw [cons_charEntries] at here before
    rcases Nat.lt_trichotomy (byte + 1) c.utf8Size with inside | ends | after
    · rw [List.getElem?_append_left (by simpa using inside), List.getElem?_replicate,
        if_pos inside] at here
      rw [List.getElem?_append_left (by simp; omega), List.getElem?_replicate,
        if_pos (by omega)] at before
      exact absurd here before
    · rw [List.getElem?_append_right (by simp; omega), List.length_replicate, ends,
        Nat.sub_self, List.getElem?_cons_zero] at here
      obtain rfl := Option.some.inj here
      have one : n + 1 - n = 1 := by omega
      rw [one]
      refine ⟨by omega, by simp, ?_⟩
      simp [ends]
    · rw [List.getElem?_append_right (by simp; omega), List.length_replicate] at here before
      have next : byte + 1 - c.utf8Size = byte - c.utf8Size + 1 := by omega
      rw [next] at here
      obtain ⟨order, short, size⟩ := ih here before
      have succ : k - n = k - (n + 1) + 1 := by omega
      refine ⟨by omega, by simp; omega, ?_⟩
      rw [succ, List.take_succ_cons, String.utf8Len_cons, size]
      omega

/-- The number of characters before a byte between two characters. -/
theorem charIndex?_spec {cs : List Char} {byte n : Nat}
    (h : (ofText cs).charIndex? byte = some n) :
  n ≤ cs.length ∧ utf8Len (cs.take n) = byte
  := by
  cases byte with
  | zero =>
    obtain rfl := Option.some.inj h
    simp
  | succ byte =>
    obtain ⟨k, hk, h⟩ := Option.bind_eq_some_iff.mp h
    by_cases before : (ofText cs).charsBefore[byte]? = some k
    · rw [if_pos before] at h
      cases h
    · rw [if_neg before] at h
      obtain rfl := Option.some.inj h
      rw [← Array.getElem?_toList, charsBefore_ofText] at hk before
      obtain ⟨-, short, size⟩ := utf8Len_take_of_charEntries hk before
      exact ⟨short, size⟩

/-- A span of bytes that can be cut out of a text splits the text in three. -/
theorem slice?_spec {cs : List Char} {span : Span} {ys : List Char}
    (h : (ofText cs).slice? span = some ys) :
  ∃ xs zs, cs = xs ++ ys ++ zs ∧ utf8Len xs = span.start ∧ utf8Len (xs ++ ys) = span.stop
  := by
  obtain ⟨cut, hcut, rfl⟩ := Option.map_eq_some_iff.mp h
  rw [cut?] at hcut
  split at hcut
  · rename_i order
    obtain ⟨first, hfirst, hcut⟩ := Option.bind_eq_some_iff.mp hcut
    obtain ⟨last, hlast, rfl⟩ := Option.map_eq_some_iff.mp hcut
    obtain ⟨-, start⟩ := charIndex?_spec hfirst
    obtain ⟨short, stop⟩ := charIndex?_spec hlast
    have inside : first ≤ last := by
      by_contra h
      -- the characters from `last` up to `first` would take no bytes
      have parts : cs.take first = cs.take last ++ (cs.drop last).take (first - last) := by
        rw [← List.take_add]
        congr 1
        omega
      have size := congrArg utf8Len parts
      rw [String.utf8Len_append, start, stop] at size
      have none : utf8Len ((cs.drop last).take (first - last)) = 0 := by omega
      rw [String.utf8Len_eq_zero, List.take_eq_nil_iff] at none
      rcases none with none | none
      · omega
      · have short' := (charIndex?_spec hfirst).1
        rw [List.drop_eq_nil_iff] at none
        omega
    have whole : cs.take first ++ (cs.drop first).take (last - first) = cs.take last := by
      rw [← List.take_add]
      congr 1
      omega
    have part : ((ofText cs).chars.extract first last).toList = (cs.drop first).take (last - first) := by
      simp [ofText]
    refine ⟨cs.take first, cs.drop last, ?_, start, ?_⟩
    · rw [part, whole, List.take_append_drop]
    · rw [part, whole, stop]
  · cases hcut

theorem isSome_slice? (t : IndexedText) (span : Span) :
  (t.slice? span).isSome = (t.cut? span).isSome
  := by
  rw [slice?, Option.isSome_map]

end IndexedText

end LiveMarkdown
