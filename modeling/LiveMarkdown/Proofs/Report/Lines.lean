import LiveMarkdown.Proofs.Report.Numbers
import LiveMarkdown.Report.Basic

/-!
# The lines of a plain report

A plain report has a line for each run and a last line.  No text breaks a line: numbers, colors and
the names of attributes have no line feeds, and in quoted text they are written in two other
characters.
-/

namespace LiveMarkdown

/-- A text is on one line. -/
def IsOnOneLine (cs : List Char) : Prop :=
  '\n' ∉ cs

instance (cs : List Char) : Decidable (IsOnOneLine cs) :=
  inferInstanceAs (Decidable ('\n' ∉ cs))

theorem isOnOneLine_append {xs ys : List Char} :
  IsOnOneLine (xs ++ ys) ↔ IsOnOneLine xs ∧ IsOnOneLine ys
  := by
  simp only [IsOnOneLine, List.mem_append, not_or]

theorem isOnOneLine_cons {c : Char} {cs : List Char} :
  IsOnOneLine (c :: cs) ↔ c ≠ '\n' ∧ IsOnOneLine cs
  := by
  simp only [IsOnOneLine, List.mem_cons, not_or, ne_comm, ne_eq]

theorem isOnOneLine_replicate {c : Char} (other : c ≠ '\n') (n : Nat) :
  IsOnOneLine (List.replicate n c)
  := by
  intro mem
  exact other (List.eq_of_mem_replicate mem).symm

/-! ### Numbers -/

/-- The digits of a number are digits. -/
theorem exists_digit_of_mem {base n : Nat} (big : 1 < base) {c : Char}
    (mem : c ∈ Nat.toDigits base n) :
  ∃ d, c = Nat.digitChar d
  := by
  induction n using Nat.strong_induction_on with
  | _ n ih =>
    rw [Nat.toDigits_eq_if big] at mem
    split at mem
    · exact ⟨n, List.mem_singleton.mp mem⟩
    · rename_i long
      rcases List.mem_append.mp mem with first | last
      · exact ih (n / base) (Nat.div_lt_self (by omega) big) first
      · exact ⟨n % base, List.mem_singleton.mp last⟩

theorem isOnOneLine_toDigits {base : Nat} (big : 1 < base) (n : Nat) :
  IsOnOneLine (Nat.toDigits base n)
  := by
  intro mem
  obtain ⟨d, digit⟩ := exists_digit_of_mem big mem
  exact Nat.digitChar_ne '\n' rfl digit.symm

/-- A text in the characters of numbers is on one line. -/
theorem IsNumeral.isOnOneLine {cs : List Char} (numeral : IsNumeral cs) :
  IsOnOneLine cs
  := by
  intro mem
  cases numeral '\n' mem

theorem isOnOneLine_nat (n : Nat) :
  IsOnOneLine (toString n).toList
  := (isNumeral_nat n).isOnOneLine

theorem isOnOneLine_plainText (x : Float32) :
  IsOnOneLine (plainText x).toList
  := by
  have signs (negative : Bool) {cs : List Char} (one : IsOnOneLine cs) :
      IsOnOneLine (signed negative cs).toList := by
    rw [signed, String.toList_ofList]
    split
    · exact isOnOneLine_cons.mpr ⟨by decide, one⟩
    · exact one
  unfold plainText
  split
  · decide
  · exact signs _ (by decide)
  · apply signs
    split
    · decide
    · exact (Decimal.isNumeral_plain _).isOnOneLine

/-! ### Colors and quoted text -/

theorem isOnOneLine_channelDigits (n : UInt8) :
  IsOnOneLine (Color.channelDigits n)
  := by
  rw [Color.channelDigits, isOnOneLine_cons, isOnOneLine_cons]
  exact ⟨Nat.digitChar_ne '\n' rfl, Nat.digitChar_ne '\n' rfl, List.not_mem_nil⟩

theorem isOnOneLine_color (c : Color) :
  IsOnOneLine c.toText.toList
  := by
  have solid : IsOnOneLine ('#' :: (Color.channelDigits c.red ++ Color.channelDigits c.green
      ++ Color.channelDigits c.blue)) := by
    rw [isOnOneLine_cons, isOnOneLine_append, isOnOneLine_append]
    exact ⟨by decide, ⟨isOnOneLine_channelDigits _, isOnOneLine_channelDigits _⟩,
      isOnOneLine_channelDigits _⟩
  rw [Color.toText, String.toList_ofList]
  split
  · exact solid
  · exact isOnOneLine_append.mpr ⟨solid, isOnOneLine_channelDigits _⟩

theorem isOnOneLine_quoteChar (c : Char) :
  IsOnOneLine (quoteChar c)
  := by
  by_cases feed : c = '\n'
  · subst feed
    decide
  · have digits := isOnOneLine_toDigits (by decide : 1 < 16) c.toNat
    unfold quoteChar
    split
    case h_7 =>
      split
      · rw [isOnOneLine_cons, isOnOneLine_cons, isOnOneLine_cons, isOnOneLine_append]
        exact ⟨by decide, by decide, by decide, digits, by decide⟩
      · exact isOnOneLine_cons.mpr ⟨feed, List.not_mem_nil⟩
    all_goals decide

theorem isOnOneLine_quoted (cs : List Char) :
  IsOnOneLine (quoted cs).toList
  := by
  rw [quoted, String.toList_ofList, isOnOneLine_cons, isOnOneLine_append]
  refine ⟨by decide, ?_, by decide⟩
  intro mem
  obtain ⟨c, -, inside⟩ := List.mem_flatMap.mp mem
  exact isOnOneLine_quoteChar c inside

/-! ### Lines -/

namespace Report

theorem isOnOneLine_padLeft (width : Nat) {s : String} (one : IsOnOneLine s.toList) :
  IsOnOneLine (padLeft width s).toList
  := by
  rw [padLeft, String.toList_append, String.toList_ofList, isOnOneLine_append]
  exact ⟨isOnOneLine_replicate (by decide) _, one⟩

theorem isOnOneLine_padRight (width : Nat) {s : String} (one : IsOnOneLine s.toList) :
  IsOnOneLine (padRight width s).toList
  := by
  rw [padRight, String.toList_append, String.toList_ofList, isOnOneLine_append]
  exact ⟨one, isOnOneLine_replicate (by decide) _⟩

theorem isOnOneLine_fontWords (f : Font) :
  IsOnOneLine (fontWords f).toList
  := by
  rw [fontWords]
  simp only [String.toList_append, isOnOneLine_append]
  refine ⟨⟨⟨?_, isOnOneLine_plainText f.size⟩, ?_⟩, ?_⟩
  · cases f.family <;> decide
  · split <;> decide
  · split <;> decide

theorem isOnOneLine_words (a : Attributes) :
  ∀ word ∈ words a, IsOnOneLine word.toList
  := by
  intro word mem
  simp only [words, List.mem_append, Option.mem_toList, Option.map_eq_some_iff] at mem
  obtain ((((⟨f, -, rfl⟩ | ⟨c, -, rfl⟩) | ⟨c, -, rfl⟩) | ⟨l, -, rfl⟩) | ⟨_, -, rfl⟩) | ⟨_, -, rfl⟩ := mem
  · apply isOnOneLine_fontWords
  · apply isOnOneLine_color
  · rw [String.toList_append, isOnOneLine_append]
    exact ⟨by decide, isOnOneLine_color c⟩
  · rw [String.toList_append, isOnOneLine_append]
    exact ⟨by decide, isOnOneLine_plainText l.headIndent⟩
  · decide
  · decide

/-- Words with spaces between them are on one line if each of them is. -/
theorem isOnOneLine_intercalate {words : List String}
    (each : ∀ word ∈ words, IsOnOneLine word.toList) :
  IsOnOneLine (" ".intercalate words).toList
  := by
  rw [String.toList_intercalate]
  induction words with
  | nil => decide
  | cons word rest ih =>
    rw [List.forall_mem_cons] at each
    cases rest with
    | nil =>
      rw [List.map_singleton, List.intercalate_singleton]
      exact each.1
    | cons next rest =>
      rw [List.map_cons, List.map_cons, List.intercalate_cons_cons, ← List.map_cons,
        isOnOneLine_append, isOnOneLine_append]
      exact ⟨⟨each.1, by decide⟩, ih each.2⟩

/-- The line of a run ends with its only line feed. -/
theorem exists_line (run : Run) (text : List Char) :
  ∃ cs, (line run text).toList = cs ++ ['\n'] ∧ IsOnOneLine cs
  := by
  refine ⟨_, String.toList_append, ?_⟩
  simp only [String.toList_append, isOnOneLine_append]
  have start := isOnOneLine_padLeft 6 (isOnOneLine_nat run.span.start)
  have stop := isOnOneLine_padRight 6 (isOnOneLine_nat run.span.stop)
  have attributes := isOnOneLine_padRight 40 (isOnOneLine_intercalate (isOnOneLine_words run.attributes))
  exact ⟨⟨⟨⟨⟨⟨start, by decide⟩, stop⟩, by decide⟩, attributes⟩, by decide⟩, isOnOneLine_quoted text⟩

/-- The last line ends with its only line feed. -/
theorem exists_lastLine (r : Report) :
  ∃ cs, r.lastLine.toList = cs ++ ['\n'] ∧ IsOnOneLine cs
  := by
  have runs := isOnOneLine_nat r.runs.length
  have full := isOnOneLine_nat r.stats.fullPasses
  have lines := isOnOneLine_nat r.stats.linePasses
  have ending : " chunks\n".toList = " chunks".toList ++ ['\n'] := by decide
  refine ⟨_, by rw [lastLine, String.toList_append, ending, ← List.append_assoc], ?_⟩
  simp only [String.toList_append, isOnOneLine_append]
  exact ⟨⟨⟨⟨⟨runs, by decide⟩, full⟩, by decide⟩, lines⟩, by decide⟩

/-- A text of lines is split where the lines end. -/
theorem splitOn_of_lines {cs : List Char} (line : ∃ ds, cs = ds ++ ['\n'] ∧ IsOnOneLine ds)
    (rest : List Char) :
  (cs ++ rest).splitOn '\n' = cs.dropLast :: rest.splitOn '\n'
  := by
  obtain ⟨ds, rfl, one⟩ := line
  rw [List.append_assoc, List.dropLast_concat]
  exact List.splitOn_append_cons_self_of_not_mem one rest

/-- A plain report has one line for each run, in their order, and then the last line. -/
theorem splitOn_plain (r : Report) :
  r.plain.toList.splitOn '\n'
    = (r.runs.map fun entry => (line entry.1 entry.2).toList.dropLast)
      ++ [r.lastLine.toList.dropLast, []]
  := by
  rw [plain, String.toList_append, String.toList_join]
  induction r.runs with
  | nil =>
    have last := splitOn_of_lines (exists_lastLine r) []
    rw [List.append_nil] at last
    rw [List.map_nil, List.flatMap_nil, List.nil_append, last]
    rfl
  | cons entry runs ih =>
    rw [List.map_cons, List.flatMap_cons, List.append_assoc, splitOn_of_lines (exists_line ..), ih]
    rfl

end Report

end LiveMarkdown
