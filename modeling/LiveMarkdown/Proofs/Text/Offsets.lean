import LiveMarkdown.Text.Indexed
import Mathlib.Data.String.Basic

/-!
# Bytes, lines and code units

The table of a text is described by lists that follow the text: one entry for each byte,
and one for each line.  They are in order, so a part of a text that lies inside another
one in bytes does so in code units, and lines that follow each other do so in code units.
-/

namespace LiveMarkdown

open String (utf8Len)

namespace OffsetTable

/-! ### The lists of a table -/

/-- The code unit at which the character of each byte starts, for a text that starts at
code unit `n`. -/
def unitEntries (n : Nat) : List Char → List Nat
  | [] => []
  | c :: cs => List.replicate c.utf8Size n ++ unitEntries (n + unitLength c) cs

/-- The byte after each line feed of a text that starts at byte `n`. -/
def lineEntries (n : Nat) : List Char → List Nat
  | [] => []
  | c :: cs =>
    (if c = '\n' then [n + c.utf8Size] else []) ++ lineEntries (n + c.utf8Size) cs

theorem toList_pushCopies (as : Array Nat) (a n : Nat) :
  (pushCopies as a n).toList = as.toList ++ List.replicate n a
  := by
  induction n generalizing as with
  | zero => simp [pushCopies]
  | succ n ih => rw [pushCopies, ih, Array.toList_push, List.append_assoc]; rfl

@[simp] theorem length_unitEntries (n : Nat) (cs : List Char) :
  (unitEntries n cs).length = utf8Len cs
  := by
  induction cs generalizing n with
  | nil => rfl
  | cons c cs ih =>
    rw [unitEntries, List.length_append, List.length_replicate, ih, String.utf8Len_cons,
      Nat.add_comm]

theorem foldl_push (t : Partial) (cs : List Char) :
  (cs.foldl Partial.push t).unitOfByte.toList = t.unitOfByte.toList ++ unitEntries t.length cs
    ∧ (cs.foldl Partial.push t).lineStarts.toList
      = t.lineStarts.toList ++ lineEntries t.unitOfByte.size cs
    ∧ (cs.foldl Partial.push t).length = t.length + units cs
  := by
  induction cs generalizing t with
  | nil => simp [unitEntries, lineEntries]
  | cons c cs ih =>
    have size : (pushCopies t.unitOfByte t.length c.utf8Size).size
        = t.unitOfByte.size + c.utf8Size := by
      rw [← Array.length_toList, toList_pushCopies]
      simp
    obtain ⟨bytes, lines, length⟩ := ih (t.push c)
    rw [List.foldl_cons]
    refine ⟨?_, ?_, ?_⟩
    · rw [bytes, Partial.push, toList_pushCopies, List.append_assoc]
      rfl
    · rw [lines, Partial.push, lineEntries, size]
      split <;> simp
    · rw [length, Partial.push, units_cons, Nat.add_assoc]

theorem unitOfByte_ofText (cs : List Char) :
  (ofText cs).unitOfByte.toList = unitEntries 0 cs ++ [units cs]
  := by
  obtain ⟨bytes, -, length⟩ := foldl_push ⟨#[], #[0], 0⟩ cs
  simp only [ofText, Array.toList_push, bytes, length]
  simp

theorem lineStarts_ofText (cs : List Char) :
  (ofText cs).lineStarts.toList = 0 :: lineEntries 0 cs
  := by
  obtain ⟨-, lines, -⟩ := foldl_push ⟨#[], #[0], 0⟩ cs
  exact lines

@[simp] theorem bytes_ofText (cs : List Char) :
  (ofText cs).bytes = utf8Len cs
  := by
  rw [bytes, ← Array.length_toList, unitOfByte_ofText]
  simp

/-! ### Bytes -/

theorem unitAt?_ofText (cs : List Char) (byte : Nat) :
  (ofText cs).unitAt? byte = (unitEntries 0 cs ++ [units cs])[byte]?
  := by
  rw [unitAt?, ← Array.getElem?_toList, unitOfByte_ofText]

theorem unitEntries_append (n : Nat) (xs ys : List Char) :
  unitEntries n (xs ++ ys) = unitEntries n xs ++ unitEntries (n + units xs) ys
  := by
  induction xs generalizing n with
  | nil => rfl
  | cons c xs ih =>
    rw [List.cons_append, unitEntries, unitEntries, ih, List.append_assoc, units_cons, Nat.add_assoc]

/-- The position between two parts of a text, in bytes and in code units. -/
theorem unitAt?_utf8Len (xs ys : List Char) :
  (ofText (xs ++ ys)).unitAt? (utf8Len xs) = some (units xs)
  := by
  rw [unitAt?_ofText, unitEntries_append, List.append_assoc,
    List.getElem?_append_right (by simp), length_unitEntries, Nat.sub_self, Nat.zero_add]
  cases ys with
  | nil => simp [unitEntries]
  | cons c ys =>
    obtain ⟨n, hn⟩ : ∃ n, c.utf8Size = n + 1 := Nat.exists_eq_add_one.mpr c.utf8Size_pos
    rw [unitEntries, hn, List.replicate_succ]
    rfl

@[simp] theorem length_ofText (cs : List Char) :
  (ofText cs).length = units cs
  := by
  have h := unitAt?_utf8Len cs []
  rw [List.append_nil] at h
  rw [length, bytes_ofText, ← unitAt?, h]
  rfl

theorem isSome_unitAt? (cs : List Char) (byte : Nat) :
  ((ofText cs).unitAt? byte).isSome ↔ byte ≤ utf8Len cs
  := by
  have size : (unitEntries 0 cs ++ [units cs]).length = (utf8Len cs).succ := by simp
  rw [unitAt?_ofText, Option.isSome_iff_exists, ← Nat.lt_succ_iff, ← size]
  constructor
  · rintro ⟨u, hu⟩
    exact (List.getElem?_eq_some_iff.mp hu).1
  · intro h
    exact ⟨_, List.getElem?_eq_getElem h⟩

theorem le_of_mem_unitEntries {n e : Nat} {cs : List Char} (h : e ∈ unitEntries n cs) :
  n ≤ e ∧ e ≤ n + units cs
  := by
  induction cs generalizing n with
  | nil => simp [unitEntries] at h
  | cons c cs ih =>
    rw [units_cons]
    rcases List.mem_append.mp h with h | h
    · have := (List.mem_replicate.mp h).2
      omega
    · have := ih h
      omega

theorem pairwise_unitEntries (n : Nat) (cs : List Char) :
  (unitEntries n cs).Pairwise (· ≤ ·)
  := by
  induction cs generalizing n with
  | nil => exact List.Pairwise.nil
  | cons c cs ih =>
    refine List.pairwise_append.mpr ⟨List.pairwise_replicate.mpr (.inr le_rfl), ih _, ?_⟩
    intro e he f hf
    have first := (List.mem_replicate.mp he).2
    have second := (le_of_mem_unitEntries hf).1
    omega

theorem le_of_unitAt?_eq_some {cs : List Char} {byte u : Nat}
    (h : (ofText cs).unitAt? byte = some u) :
  u ≤ units cs
  := by
  rw [unitAt?_ofText] at h
  rcases List.mem_append.mp (List.mem_of_getElem? h) with entry | end_
  · have := (le_of_mem_unitEntries entry).2
    omega
  · exact (List.mem_singleton.mp end_).le

/-- The code units of a text end at the end of the text or before. -/
theorem unitSpan?_of_units_le {cs : List Char} {limit : Nat} (h : units cs ≤ limit) (span : Span) :
  (ofText cs).unitSpan? span limit = (ofText cs).unitSpan? span (units cs)
  := by
  rw [unitSpan?, unitSpan?]
  cases (ofText cs).unitAt? span.start with
  | none => rfl
  | some start =>
    cases last : (ofText cs).unitAt? span.stop with
    | none => rfl
    | some stop =>
      have inside := le_of_unitAt?_eq_some last
      simp only [Option.bind_some, within?]
      congr 1
      simp only [eq_iff_iff]
      omega

/-- A later byte is not at an earlier code unit. -/
theorem unitAt?_mono {cs : List Char} {byte byte' u u' : Nat} (h : byte ≤ byte')
    (hu : (ofText cs).unitAt? byte = some u) (hu' : (ofText cs).unitAt? byte' = some u') :
  u ≤ u'
  := by
  have order : (unitEntries 0 cs ++ [units cs]).Pairwise (· ≤ ·) := by
    refine List.pairwise_append.mpr ⟨pairwise_unitEntries 0 cs, List.pairwise_singleton _ _, ?_⟩
    intro e he f hf
    have first := (le_of_mem_unitEntries he).2
    have second := List.mem_singleton.mp hf
    omega
  rw [unitAt?_ofText] at hu hu'
  rcases Nat.lt_or_eq_of_le h with h | rfl
  · obtain ⟨i, rfl⟩ := List.getElem?_eq_some_iff.mp hu
    obtain ⟨j, rfl⟩ := List.getElem?_eq_some_iff.mp hu'
    exact List.pairwise_iff_getElem.mp order byte byte' i j h
  · rw [hu] at hu'
    exact (Option.some.inj hu').le

/-! ### Lines -/

/-- The byte at which a line starts; the lines beyond the last one start at the end. -/
def lineByte (t : OffsetTable) (line : Nat) : Nat :=
  (t.lineStart? line).getD t.bytes

/-- The code unit at which a line starts; the lines beyond the last one start at the
end. -/
def lineOffset (t : OffsetTable) (line : Nat) : Nat :=
  (t.unitAt? (t.lineByte line)).getD 0

theorem le_of_mem_lineEntries {n e : Nat} {cs : List Char} (h : e ∈ lineEntries n cs) :
  n < e ∧ e ≤ n + utf8Len cs
  := by
  induction cs generalizing n with
  | nil => simp [lineEntries] at h
  | cons c cs ih =>
    have size := c.utf8Size_pos
    rw [String.utf8Len_cons]
    rcases List.mem_append.mp h with h | h
    · split at h
      · have := List.mem_singleton.mp h
        omega
      · cases h
    · have := ih h
      omega

/-- Lines start in the order of the text, and no two of them at one place. -/
theorem pairwise_lineEntries (n : Nat) (cs : List Char) :
  (n :: lineEntries n cs).Pairwise (· < ·)
  := by
  apply List.pairwise_cons.mpr
  constructor
  · intro e he
    exact (le_of_mem_lineEntries he).1
  · induction cs generalizing n with
    | nil => exact List.Pairwise.nil
    | cons c cs ih =>
      refine List.pairwise_append.mpr ⟨by split <;> simp, ih _, ?_⟩
      intro e he f hf
      have later := (le_of_mem_lineEntries hf).1
      split at he
      · obtain rfl := List.mem_singleton.mp he
        exact later
      · cases he

theorem lineStart?_ofText (cs : List Char) (line : Nat) :
  (ofText cs).lineStart? line = (0 :: lineEntries 0 cs)[line]?
  := by
  rw [lineStart?, ← Array.getElem?_toList, lineStarts_ofText]

theorem lineCount_ofText (cs : List Char) :
  (ofText cs).lineCount = (lineEntries 0 cs).length + 1
  := by
  rw [lineCount, ← Array.length_toList, lineStarts_ofText, List.length_cons]

theorem lineCount_pos (cs : List Char) :
  0 < (ofText cs).lineCount
  := by
  rw [lineCount_ofText]
  apply Nat.succ_pos

theorem lineByte_le (cs : List Char) (line : Nat) :
  (ofText cs).lineByte line ≤ utf8Len cs
  := by
  rw [lineByte, bytes_ofText]
  cases h : (ofText cs).lineStart? line with
  | none => exact le_rfl
  | some byte =>
    rw [lineStart?_ofText] at h
    rcases List.mem_cons.mp (List.mem_of_getElem? h) with rfl | h
    · apply Nat.zero_le
    · have := (le_of_mem_lineEntries h).2
      rw [Option.getD_some]
      omega

theorem lineByte_mono (cs : List Char) {line line' : Nat} (h : line ≤ line') :
  (ofText cs).lineByte line ≤ (ofText cs).lineByte line'
  := by
  cases second : (ofText cs).lineStart? line' with
  | none =>
    have last : (ofText cs).lineByte line' = utf8Len cs := by
      rw [lineByte, second, bytes_ofText]
      rfl
    rw [last]
    apply lineByte_le
  | some byte' =>
    rw [lineStart?_ofText] at second
    obtain ⟨j, rfl⟩ := List.getElem?_eq_some_iff.mp second
    rw [lineByte, lineByte, lineStart?_ofText, lineStart?_ofText, second,
      List.getElem?_eq_getElem (by omega)]
    rcases Nat.lt_or_eq_of_le h with h | rfl
    · exact (List.pairwise_iff_getElem.mp (pairwise_lineEntries 0 cs) line line' (by omega) j h).le
    · exact le_rfl

theorem unitAt?_lineByte (cs : List Char) (line : Nat) :
  (ofText cs).unitAt? ((ofText cs).lineByte line) = some ((ofText cs).lineOffset line)
  := by
  rw [lineOffset]
  obtain ⟨u, hu⟩ := Option.isSome_iff_exists.mp ((isSome_unitAt? cs _).mpr (lineByte_le cs line))
  rw [hu]
  rfl

/-- A later line does not start at an earlier code unit. -/
theorem lineOffset_mono (cs : List Char) {line line' : Nat} (h : line ≤ line') :
  (ofText cs).lineOffset line ≤ (ofText cs).lineOffset line'
  := unitAt?_mono (lineByte_mono cs h) (unitAt?_lineByte cs line) (unitAt?_lineByte cs line')

theorem lineOffset_zero (cs : List Char) :
  (ofText cs).lineOffset 0 = 0
  := by
  have first : (ofText cs).lineByte 0 = utf8Len [] := by
    rw [lineByte, lineStart?_ofText]
    rfl
  have h := unitAt?_lineByte cs 0
  rw [first, ← List.nil_append cs, unitAt?_utf8Len] at h
  exact (Option.some.inj h).symm

theorem lineOffset_of_lineCount_le {cs : List Char} {line : Nat}
    (h : (ofText cs).lineCount ≤ line) :
  (ofText cs).lineOffset line = units cs
  := by
  have last : (ofText cs).lineByte line = utf8Len cs := by
    rw [lineByte, lineStart?, Array.getElem?_eq_none h, bytes_ofText]
    rfl
  have end_ := unitAt?_utf8Len cs []
  have h := unitAt?_lineByte cs line
  rw [List.append_nil] at end_
  rw [last, end_] at h
  exact (Option.some.inj h).symm

/-- The code units of some lines. -/
theorem lineWindow?_ofText {cs : List Char} {first last : Nat}
    (h : first < (ofText cs).lineCount) (order : first ≤ last) :
  (ofText cs).lineWindow? first last
    = some ⟨(ofText cs).lineOffset first, (ofText cs).lineOffset last⟩
  := by
  have start : (ofText cs).lineStart? first = some ((ofText cs).lineByte first) := by
    rw [lineByte, lineStart?, Array.getElem?_eq_getElem h]
    rfl
  rw [lineWindow?, start, Option.bind_some, unitAt?_lineByte, Option.bind_some, ← lineByte,
    unitAt?_lineByte, Option.bind_some, if_pos (lineOffset_mono cs order)]

/-- Every code unit is on a line. -/
theorem exists_line {cs : List Char} {u : Nat} (h : u < units cs) :
  ∃ line < (ofText cs).lineCount,
    (ofText cs).lineOffset line ≤ u ∧ u < (ofText cs).lineOffset (line + 1)
  := by
  have before (n : Nat) (hn : u < (ofText cs).lineOffset n) :
      ∃ line < n, (ofText cs).lineOffset line ≤ u ∧ u < (ofText cs).lineOffset (line + 1) := by
    induction n with
    | zero =>
      rw [lineOffset_zero] at hn
      omega
    | succ n ih =>
      by_cases here : (ofText cs).lineOffset n ≤ u
      · exact ⟨n, Nat.lt_succ_self n, here, hn⟩
      · obtain ⟨line, hl, inside⟩ := ih (by omega)
        exact ⟨line, by omega, inside⟩
  apply before
  rw [lineOffset_of_lineCount_le le_rfl]
  exact h

end OffsetTable

end LiveMarkdown
