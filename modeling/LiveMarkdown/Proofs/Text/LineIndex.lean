import LiveMarkdown.Proofs.Text.Lines

/-!
# The lines of a text

The table of a text says where its lines start: at the start of the text and after each line feed.
Every byte position is on exactly one line, and the line with the place in it leads back to the
position.  If the lines are taken in groups of the same number, the spans of the groups follow one
another in code units from the start of the text to its end, and only the last one can be empty.
-/

namespace LiveMarkdown

open String (utf8Len)

namespace OffsetTable

/-! ### Where lines start -/

/-- A line that is not the first one starts after a line feed. -/
theorem mem_lineEntries_iff {n e : Nat} {cs : List Char} :
  e ∈ lineEntries n cs ↔ ∃ xs ys, cs = xs ++ '\n' :: ys ∧ e = n + utf8Len xs + 1
  := by
  induction cs generalizing n with
  | nil => simp [lineEntries]
  | cons c cs ih =>
    rw [lineEntries, List.mem_append, ih]
    constructor
    · rintro (first | ⟨xs, ys, rfl, rfl⟩)
      · split at first
        · rename_i feed
          subst feed
          exact ⟨[], cs, rfl, List.mem_singleton.mp first⟩
        · cases first
      · refine ⟨c :: xs, ys, rfl, ?_⟩
        rw [String.utf8Len_cons]
        omega
    · rintro ⟨_ | ⟨d, xs⟩, ys, parts, rfl⟩
      · obtain ⟨rfl, rfl⟩ := List.cons.inj parts
        left
        rw [if_pos rfl]
        exact List.mem_singleton_self _
      · obtain ⟨rfl, rfl⟩ := List.cons.inj parts
        right
        refine ⟨xs, ys, rfl, ?_⟩
        rw [String.utf8Len_cons]
        omega

/-! ### The line of a byte -/

/-- A byte position is on a line: the line does not start after it, but the next line does, if there
is one. -/
def IsOnLine (t : OffsetTable) (line byte : Nat) : Prop :=
  ∃ start ∈ t.lineStart? line, start ≤ byte ∧ ∀ next ∈ t.lineStart? (line + 1), byte < next

/-- A number that is not before the first entry of a list is between some entry and the next one. -/
theorem exists_entry (entries : List Nat) {first b : Nat} (h : first ≤ b) :
  ∃ i, ∃ e ∈ (first :: entries)[i]?, e ≤ b ∧ ∀ next ∈ (first :: entries)[i + 1]?, b < next
  := by
  induction entries generalizing first with
  | nil => exact ⟨0, first, rfl, h, nofun⟩
  | cons second entries ih =>
    by_cases before : b < second
    · refine ⟨0, first, rfl, h, ?_⟩
      intro next hn
      obtain rfl := Option.some.inj hn
      exact before
    · obtain ⟨i, e, he, le, after⟩ := ih (Nat.le_of_not_lt before)
      exact ⟨i + 1, e, he, le, after⟩

theorem exists_isOnLine (cs : List Char) (byte : Nat) :
  ∃ line, (ofText cs).IsOnLine line byte
  := by
  obtain ⟨line, start, hs, le, after⟩ := exists_entry (lineEntries 0 cs) (Nat.zero_le byte)
  rw [← lineStart?_ofText] at hs after
  exact ⟨line, start, hs, le, after⟩

/-- The start of a line is not before the end of an earlier line. -/
theorem IsOnLine.le {cs : List Char} {line line' byte : Nat} (h : (ofText cs).IsOnLine line byte)
    (h' : (ofText cs).IsOnLine line' byte) :
  line' ≤ line
  := by
  by_contra later
  obtain ⟨start, -, -, after⟩ := h
  obtain ⟨start', hs', le', -⟩ := h'
  have first : (ofText cs).lineByte line' = start' := by rw [lineByte, hs', Option.getD_some]
  -- there is a line after the first one, as there is the second one
  cases hn : (ofText cs).lineStart? (line + 1) with
  | none =>
    rw [lineStart?, Array.getElem?_eq_none_iff] at hn
    have some_ := (Array.getElem?_eq_some_iff.mp hs').1
    omega
  | some next =>
    have order := lineByte_mono cs (Nat.lt_of_not_le later)
    rw [first, lineByte, hn, Option.getD_some] at order
    have strict := after next hn
    omega

/-- The line of a byte position and the place in it lead back to the position. -/
theorem IsOnLine.byteAt? {cs : List Char} {line byte start : Nat}
    (h : (ofText cs).IsOnLine line byte) (hs : (ofText cs).lineStart? line = some start)
    (inside : byte ≤ utf8Len cs) :
  (ofText cs).byteAt? ⟨line + 1, byte - start + 1⟩ = some byte
  := by
  obtain ⟨start', hs', le, -⟩ := h
  obtain rfl := Option.some.inj (hs.symm.trans hs')
  have back : start + (byte - start) = byte := Nat.add_sub_of_le le
  simp only [OffsetTable.byteAt?, Nat.add_eq_zero_iff, one_ne_zero, and_false, or_self, if_false,
    Nat.add_sub_cancel, hs, Option.bind_some, back, bytes_ofText, if_pos inside]

/-! ### Groups of lines -/

/-- Spans are those of the groups of `n` lines of a text of some number of code units: they follow
one another from its start to its end, and only the last one can be empty. -/
structure AreWindows (t : OffsetTable) (length n : Nat) (window : Nat → Span) : Prop where
  /-- Each group of lines has its span. -/
  found : ∀ k, k * n < t.lineCount → t.lineWindow? (k * n) ((k + 1) * n) = some (window k)
  /-- The first span starts at the start of the text. -/
  first : (window 0).start = 0
  /-- A span that is not the last one is not empty, and the next one starts where it stops. -/
  meet : ∀ k, (k + 1) * n < t.lineCount →
    (window k).start < (window k).stop ∧ (window k).stop = (window (k + 1)).start
  /-- The last span stops at the end of the text. -/
  last : ∀ k, k * n < t.lineCount → t.lineCount ≤ (k + 1) * n →
    (window k).start ≤ (window k).stop ∧ (window k).stop = length
  /-- Every code unit of the text is in exactly one of the spans. -/
  cover : ∀ u < length, ∃! k, k * n < t.lineCount ∧ u ∈ window k

theorem areWindows_ofText (cs : List Char) {n : Nat} (h : 0 < n) :
  AreWindows (ofText cs) (units cs) n fun k =>
    ⟨(ofText cs).lineOffset (k * n), (ofText cs).lineOffset ((k + 1) * n)⟩
  where
  found k line := lineWindow?_ofText line (Nat.mul_le_mul_right n (Nat.le_succ k))
  first := by
    rw [Nat.zero_mul]
    exact lineOffset_zero cs
  meet k more := by
    have order : k * n + 1 ≤ (k + 1) * n := by
      rw [Nat.succ_mul]
      omega
    refine ⟨?_, rfl⟩
    calc (ofText cs).lineOffset (k * n)
      _ < (ofText cs).lineOffset (k * n + 1) := lineOffset_lt (order.trans_lt more)
      _ ≤ (ofText cs).lineOffset ((k + 1) * n) := lineOffset_mono cs order
  last k _ all := by
    refine ⟨lineOffset_mono cs (Nat.mul_le_mul_right n (Nat.le_succ k)), ?_⟩
    exact lineOffset_of_lineCount_le all
  cover u inside := by
    obtain ⟨line, hl, start, stop⟩ := exists_line inside
    have before : line / n * n ≤ line := Nat.div_mul_le_self line n
    have after : line < (line / n + 1) * n := Nat.lt_mul_of_div_lt (Nat.lt_succ_self _) h
    refine ⟨line / n, ⟨before.trans_lt hl, ?_, ?_⟩, ?_⟩
    · exact (lineOffset_mono cs before).trans start
    · exact stop.trans_le (lineOffset_mono cs after)
    · -- a line of another group starts after the code unit, or ends before it
      rintro k ⟨-, start', stop'⟩
      have upper : k * n ≤ line := by
        by_contra later
        have order := lineOffset_mono cs (Nat.succ_le_of_lt (Nat.lt_of_not_le later))
        exact absurd (stop.trans_le (order.trans start')) (Nat.lt_irrefl u)
      have lower : line < (k + 1) * n := by
        by_contra earlier
        have order := lineOffset_mono cs (Nat.le_of_not_lt earlier)
        exact absurd (stop'.trans_le (order.trans start)) (Nat.lt_irrefl u)
      exact (Nat.div_eq_of_lt_le upper lower).symm

/-- A table tells exactly where the lines of a text are. -/
structure IsLineIndex (cs : List Char) (t : OffsetTable) : Prop where
  /-- The table is as long as the text, in bytes and in code units. -/
  size : t.bytes = utf8Len cs ∧ t.length = units cs
  /-- Later lines start at later bytes. -/
  increasing : t.lineStarts.toList.Pairwise (· < ·)
  /-- A line starts at the start of the text and after each line feed, and nowhere else. -/
  start : ∀ byte, byte ∈ t.lineStarts
    ↔ byte = 0 ∨ ∃ xs ys, cs = xs ++ '\n' :: ys ∧ byte = utf8Len xs + 1
  /-- Every byte position is on exactly one line. -/
  line : ∀ byte ≤ t.bytes, ∃! line, t.IsOnLine line byte
  /-- The line of a byte position and the place in it lead back to the position. -/
  location : ∀ byte ≤ t.bytes, ∀ line, t.IsOnLine line byte →
    ∀ start ∈ t.lineStart? line, t.byteAt? ⟨line + 1, byte - start + 1⟩ = some byte
  /-- The groups of lines follow one another. -/
  windows : ∀ n, 0 < n → ∃ window, t.AreWindows t.length n window

/-- The table of a text tells where its lines are. -/
theorem isLineIndex_ofText (cs : List Char) :
  IsLineIndex cs (ofText cs)
  where
  size := ⟨bytes_ofText cs, length_ofText cs⟩
  increasing := by
    rw [lineStarts_ofText]
    exact pairwise_lineEntries 0 cs
  start byte := by
    rw [← Array.mem_toList_iff, lineStarts_ofText, List.mem_cons, mem_lineEntries_iff]
    simp only [Nat.zero_add]
  line byte _ := by
    obtain ⟨line, on⟩ := exists_isOnLine cs byte
    refine ⟨line, on, ?_⟩
    intro line' on'
    exact Nat.le_antisymm (on.le on') (on'.le on)
  location byte inside line on start hs := by
    rw [bytes_ofText] at inside
    exact on.byteAt? hs inside
  windows n h := by
    rw [length_ofText]
    exact ⟨_, areWindows_ofText cs h⟩

/-- Three lines in groups of two, where the last line is empty, and the byte after the text. -/
example :
  let t := ofText "é\n😀\n".toList
  (List.range 2).map (fun k => t.lineWindow? (k * 2) ((k + 1) * 2)) = [some ⟨0, 5⟩, some ⟨5, 5⟩]
    ∧ t.lineStarts = #[0, 3, 8] ∧ t.byteAt? ⟨3, 1⟩ = some 8
  := by
  decide

end OffsetTable

end LiveMarkdown
