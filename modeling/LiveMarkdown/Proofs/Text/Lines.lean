import LiveMarkdown.Proofs.Text.Offsets

/-!
# Lines that are empty

Every line but the last one ends with a line feed, so it has a code unit.  The last line has
one too, unless the text is empty or ends with a line feed.  So of the windows that cut a text
into groups of lines only the last one can be empty.
-/

namespace LiveMarkdown

open String (utf8Len)

/-- Nothing stands on the last line of a text: the text is empty, or it ends with a line
feed. -/
def isLastLineEmpty (cs : List Char) : Bool :=
  cs.getLast?.all (· == '\n')

namespace OffsetTable

/-- The code unit after each line feed of a text that starts at code unit `n`. -/
def lineUnits (n : Nat) : List Char → List Nat
  | [] => []
  | c :: cs =>
    (if c = '\n' then [n + unitLength c] else []) ++ lineUnits (n + unitLength c) cs

theorem le_of_mem_lineUnits {n e : Nat} {cs : List Char} (h : e ∈ lineUnits n cs) :
  n < e ∧ e ≤ n + units cs
  := by
  induction cs generalizing n with
  | nil => cases h
  | cons c cs ih =>
    have one := unitLength_pos c
    rw [units_cons]
    rcases List.mem_append.mp h with h | h
    · split at h
      · have := List.mem_singleton.mp h
        omega
      · cases h
    · have := ih h
      omega

theorem pairwise_lineUnits (n : Nat) (cs : List Char) :
  (n :: lineUnits n cs).Pairwise (· < ·)
  := by
  apply List.pairwise_cons.mpr
  constructor
  · intro e he
    exact (le_of_mem_lineUnits he).1
  · induction cs generalizing n with
    | nil => exact List.Pairwise.nil
    | cons c cs ih =>
      refine List.pairwise_append.mpr ⟨by split <;> simp, ih _, ?_⟩
      intro e he f hf
      have later := (le_of_mem_lineUnits hf).1
      split at he
      · obtain rfl := List.mem_singleton.mp he
        exact later
      · cases he

/-- The code units at the bytes where the lines of the second part of a text start. -/
theorem map_unitAt?_lineEntries (xs ys : List Char) :
  (lineEntries (utf8Len xs) ys).map (ofText (xs ++ ys)).unitAt? = (lineUnits (units xs) ys).map some
  := by
  induction ys generalizing xs with
  | nil => rfl
  | cons c ys ih =>
    have parts : xs ++ c :: ys = xs ++ [c] ++ ys := by simp
    have bytes : utf8Len (xs ++ [c]) = utf8Len xs + c.utf8Size := by simp
    have size : units (xs ++ [c]) = units xs + unitLength c := by simp
    have next := unitAt?_utf8Len (xs ++ [c]) ys
    have rest := ih (xs ++ [c])
    rw [bytes, size] at next rest
    rw [lineEntries, lineUnits, List.map_append, List.map_append, parts, rest]
    congr 1
    split
    · rw [List.map_singleton, List.map_singleton, next]
    · rfl

/-- The code unit at which a line starts; the lines beyond the last one start at the end. -/
theorem lineOffset_ofText (cs : List Char) (line : Nat) :
  (ofText cs).lineOffset line = ((0 :: lineUnits 0 cs)[line]?).getD (units cs)
  := by
  cases line with
  | zero => exact lineOffset_zero cs
  | succ line =>
    have starts := congrArg (·[line]?) (map_unitAt?_lineEntries [] cs)
    simp only [String.utf8Len_nil, units_nil, List.nil_append, List.getElem?_map] at starts
    have start : (ofText cs).lineStart? (line + 1) = (lineEntries 0 cs)[line]? :=
      lineStart?_ofText cs (line + 1)
    rw [List.getElem?_cons_succ]
    cases byte : (lineEntries 0 cs)[line]? with
    | none =>
      rw [byte, Option.map_none] at starts
      rw [Option.map_eq_none_iff.mp starts.symm]
      apply lineOffset_of_lineCount_le
      rw [lineCount_ofText]
      have short := List.getElem?_eq_none_iff.mp byte
      omega
    | some byte' =>
      rw [byte, Option.map_some] at starts
      obtain ⟨u, hu, same⟩ := Option.map_eq_some_iff.mp starts.symm
      rw [hu, lineOffset, lineByte, start, byte, Option.getD_some, ← same]
      rfl

theorem length_lineUnits (cs : List Char) :
  (lineUnits 0 cs).length + 1 = (ofText cs).lineCount
  := by
  have starts := congrArg List.length (map_unitAt?_lineEntries [] cs)
  simp only [String.utf8Len_nil, units_nil, List.length_map] at starts
  rw [lineCount_ofText, starts]

/-- A line that is not the last one has a code unit. -/
theorem lineOffset_lt {cs : List Char} {line : Nat} (h : line + 1 < (ofText cs).lineCount) :
  (ofText cs).lineOffset line < (ofText cs).lineOffset (line + 1)
  := by
  have size : (0 :: lineUnits 0 cs).length = (ofText cs).lineCount := length_lineUnits cs
  rw [lineOffset_ofText, lineOffset_ofText, List.getElem?_eq_getElem (by omega),
    List.getElem?_eq_getElem (by omega)]
  exact List.pairwise_iff_getElem.mp (pairwise_lineUnits 0 cs) line (line + 1) (by omega)
    (by omega) (Nat.lt_succ_self line)

/-- The last line starts at the end if nothing stands on it, and only then. -/
theorem getLast_lineUnits (n : Nat) (cs : List Char) :
  (n :: lineUnits n cs).getLast (List.cons_ne_nil _ _) = n + units cs ↔ isLastLineEmpty cs
  := by
  induction cs generalizing n with
  | nil => simp [lineUnits, isLastLineEmpty]
  | cons c cs ih =>
    have one := unitLength_pos c
    have rest := ih (n + unitLength c)
    have total : n + units (c :: cs) = n + unitLength c + units cs := by
      rw [units_cons, Nat.add_assoc]
    rw [total, lineUnits]
    by_cases feed : c = '\n'
    · -- the line feed starts a line, and the lines of the rest go on from there
      have last : isLastLineEmpty (c :: cs) = isLastLineEmpty cs := by
        cases cs with
        | nil => simp [isLastLineEmpty, feed]
        | cons d ds => simp [isLastLineEmpty]
      rw [last, ← rest, if_pos feed]
      rfl
    · rw [if_neg feed, List.nil_append]
      cases lines : lineUnits (n + unitLength c) cs with
      | nil =>
        rw [lines] at rest
        have last : isLastLineEmpty (c :: cs) = false := by
          cases cs with
          | nil => simp [isLastLineEmpty, feed]
          | cons d ds =>
            have two := unitLength_pos d
            rw [List.getLast_singleton, units_cons] at rest
            simp only [isLastLineEmpty, List.getLast?_cons_cons] at rest ⊢
            rw [← Bool.not_eq_true, ← rest]
            omega
        rw [last, List.getLast_singleton]
        simp only [Bool.false_eq_true, iff_false]
        omega
      | cons e es =>
        rw [lines, List.getLast_cons_cons] at rest
        have last : isLastLineEmpty (c :: cs) = isLastLineEmpty cs := by
          cases cs with
          | nil => cases lines
          | cons d ds => simp [isLastLineEmpty]
        rw [last, List.getLast_cons_cons, rest]

theorem lineOffset_last (cs : List Char) :
  (ofText cs).lineOffset ((ofText cs).lineCount - 1) = units cs ↔ isLastLineEmpty cs
  := by
  have last := getLast_lineUnits 0 cs
  have size := length_lineUnits cs
  rw [Nat.zero_add] at last
  rw [← last, lineOffset_ofText, ← size, Nat.add_sub_cancel, List.getLast_eq_getElem,
    List.getElem?_eq_getElem (by simp)]
  rfl

/-- Some lines have a code unit, unless they are the last one and nothing stands on it. -/
theorem lineOffset_lt_iff {cs : List Char} {first last : Nat} (h : first < (ofText cs).lineCount)
    (order : first < last) :
  (ofText cs).lineOffset first < (ofText cs).lineOffset last
    ↔ ¬ (first + 1 = (ofText cs).lineCount ∧ isLastLineEmpty cs)
  := by
  by_cases more : first + 1 < (ofText cs).lineCount
  · have first_lt := lineOffset_lt more
    have mono := lineOffset_mono cs (Nat.succ_le_of_lt order)
    constructor
    · rintro - ⟨end_, -⟩
      omega
    · intro _
      exact first_lt.trans_le mono
  · have only : first + 1 = (ofText cs).lineCount := by omega
    have index : first = (ofText cs).lineCount - 1 := by omega
    have inside := lineOffset_mono cs (Nat.le_of_lt h)
    rw [lineOffset_of_lineCount_le (by omega : (ofText cs).lineCount ≤ last), ← lineOffset_last,
      ← index]
    rw [lineOffset_of_lineCount_le le_rfl] at inside
    omega

end OffsetTable

end LiveMarkdown
