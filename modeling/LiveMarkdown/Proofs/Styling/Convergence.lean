import LiveMarkdown.Proofs.Styling.Passes

/-!
# Styling by lines

The lines of a text may be styled in any order and any number of times: once each line
has been styled, the buffer looks as if all of it had been styled at once.  A code unit
has the attributes of plain text until its line is styled, and from then on those that
the style gives it, because making the strokes of a document twice is making them once.
-/

namespace LiveMarkdown

namespace Style

variable {style : Style} {cs : List Char} {revision : UInt64}

/-- The lines from `first` up to `last` for each pair of them, one pair after the other. -/
def applyWindows (style : Style) (s : Snapshot) (b : Buffer) (windows : List (Nat × Nat)) :
    Buffer :=
  windows.foldl (fun b lines => style.applyLines s b lines.1 lines.2) b

@[simp] theorem version_applyWindows (style : Style) (s : Snapshot) (b : Buffer)
    (windows : List (Nat × Nat)) :
  (style.applyWindows s b windows).version = b.version
  := by
  induction windows generalizing b with
  | nil => rfl
  | cons lines windows ih =>
    rw [applyWindows, List.foldl_cons, ← applyWindows, ih, version_applyLines]

theorem isCanonical_applyWindows (h : style.HasNoNegativeZero) {b : Buffer} (hb : b.IsCanonical)
    (s : Snapshot) (windows : List (Nat × Nat)) :
  (style.applyWindows s b windows).IsCanonical
  := by
  induction windows generalizing b with
  | nil => exact hb
  | cons lines windows ih =>
    rw [applyWindows, List.foldl_cons, ← applyWindows]
    apply ih
    apply isCanonical_applyLines h hb

/-- Styling a code unit once more changes nothing. -/
theorem touches_canonical_touches (ks : List Stroke) (u : Nat) (a : Attributes) :
  (touches ks u (touches ks u a).canonical).canonical = (touches ks u a).canonical
  := by
  rw [canonical_touches, touches_touches]

/-- Some lines of a text, styled in any order, touch their code units once. -/
theorem canonicalAt_applyWindows (nested : IsNestedText cs) {b : Buffer}
    (h : b.version = (cs, revision)) (windows : List (Nat × Nat)) (u : Nat) :
  (style.applyWindows (Snapshot.ofText cs revision) b windows).canonicalAt u
    = if ∃ lines ∈ windows, u ∈ lineSpan cs lines.1 lines.2
      then (b.canonicalAt u).map fun a => (touches (style.strokesOf cs) u a).canonical
      else b.canonicalAt u
  := by
  induction windows generalizing b with
  | nil => simp [applyWindows]
  | cons lines windows ih =>
    have next := (version_applyLines style (Snapshot.ofText cs revision) b lines.1 lines.2).trans h
    rw [applyWindows, List.foldl_cons, ← applyWindows, ih next, canonicalAt_applyLines nested h]
    simp only [List.exists_mem_cons_iff]
    by_cases here : u ∈ lineSpan cs lines.1 lines.2
    · simp only [here, true_or, if_true]
      split
      · rw [Option.map_map]
        congr 1
        funext a
        apply touches_canonical_touches
      · rfl
    · simp only [here, false_or, if_false]

/-- Every code unit is in some lines if these have all lines among them. -/
theorem exists_mem_lineSpan {windows : List (Nat × Nat)}
    (all : ∀ line < (OffsetTable.ofText cs).lineCount,
      ∃ lines ∈ windows, lines.1 ≤ line ∧ line < lines.2)
    {u : Nat} (h : u < units cs) :
  ∃ lines ∈ windows, u ∈ lineSpan cs lines.1 lines.2
  := by
  obtain ⟨line, hl, start, stop⟩ := OffsetTable.exists_line h
  obtain ⟨lines, hlines, first, last⟩ := all line hl
  refine ⟨lines, hlines, ?_, ?_⟩
  · exact (OffsetTable.lineOffset_mono cs first).trans start
  · exact Nat.lt_of_lt_of_le stop (OffsetTable.lineOffset_mono cs last)

/-- The attributes of a buffer are those of the style, once each line has been styled,
in any order and any number of times. -/
theorem applyWindows_eq_applyAll (b : Buffer) (windows : List (Nat × Nat))
    (sizes : style.HasNoNegativeZero) (nested : IsNestedText b.chars)
    (all : ∀ line < (Snapshot.capture (style.reset b)).lineCount,
      ∃ lines ∈ windows, lines.1 ≤ line ∧ line < lines.2) :
  (style.applyWindows (Snapshot.capture (style.reset b)) (style.reset b) windows).attributes
    = (style.applyAll b).attributes
  := by
  have version := version_reset style b
  have chars := Buffer.chars_eq_of_version version
  have capture : Snapshot.capture (style.reset b) = Snapshot.ofText b.chars b.revision := by
    rw [Snapshot.capture, chars, Buffer.revision_eq_of_version version]
  rw [capture] at all ⊢
  apply Buffer.IsCanonical.attributes_eq
  · exact isCanonical_applyWindows sizes (isCanonical_reset sizes b) _ _
  · exact isCanonical_applyAll sizes b
  · intro u
    rw [canonicalAt_applyWindows nested version, canonicalAt_applyAll, attributesAt]
    by_cases inside : u < units b.chars
    · rw [if_pos (exists_mem_lineSpan all inside), if_pos inside,
        canonicalAt_reset style b (by rwa [Buffer.length_eq]), Option.map_some, canonical_touches]
    · have none : (style.reset b).canonicalAt u = none := by
        apply Buffer.canonicalAt_eq_none
        rw [Buffer.length_eq_of_version version, Buffer.length_eq]
        omega
      rw [if_neg inside, none, Option.map_none, ite_self]

/-- A heading and a line with emphasis, the last line styled first and the second line
three times. -/
theorem applyWindows_eq_applyAll_heading :
  let b := Buffer.ofText "# A\n*b*\n".toList {}
  let plain := standard.reset b
  standard.HasNoNegativeZero ∧ IsNestedText b.chars
    ∧ (∀ line < (Snapshot.capture plain).lineCount,
        ∃ lines ∈ [(1, 3), (0, 2), (1, 2)], lines.1 ≤ line ∧ line < lines.2)
    ∧ (standard.applyWindows (Snapshot.capture plain) plain [(1, 3), (0, 2), (1, 2)]).attributes
      = (standard.applyAll b).attributes
  := by
  intro b plain
  have sizes : standard.HasNoNegativeZero := by decide +kernel
  have nested : IsNestedText b.chars := by decide +kernel
  have all : ∀ line < (Snapshot.capture plain).lineCount,
      ∃ lines ∈ [(1, 3), (0, 2), (1, 2)], lines.1 ≤ line ∧ line < lines.2 := by
    decide +kernel
  exact ⟨sizes, nested, all, applyWindows_eq_applyAll b _ sizes nested all⟩

/-! ### Line after line -/

/-- The code units of the lines of a text before a line have the attributes that the style
gives them, and the others those of plain text. -/
structure Halfway (style : Style) (cs : List Char) (line : Nat) (b : Buffer) : Prop where
  /-- The attributes, up to the sign of sizes that are zero. -/
  attributes : IsNestedText cs → ∀ u < units cs, b.canonicalAt u
    = if u < lineOffset cs line then style.attributesAt cs u else some style.attributes.canonical
  /-- No size is a negative zero. -/
  sizes : style.HasNoNegativeZero → b.IsCanonical

theorem halfway_reset (style : Style) {b : Buffer} (h : b.chars = cs) :
  Halfway style cs 0 (style.reset b)
  := by
  constructor
  · intro _ u hu
    have start : lineOffset cs 0 = 0 := OffsetTable.lineOffset_zero cs
    rw [start, if_neg (Nat.not_lt_zero u)]
    apply canonicalAt_reset
    rw [Buffer.length_eq, h]
    exact hu
  · intro sizes
    exact isCanonical_reset sizes b

/-- The next lines are styled. -/
theorem Halfway.applyLines {first : Nat} {b : Buffer} (half : Halfway style cs first b)
    (h : b.version = (cs, revision)) {last : Nat} (order : first ≤ last) :
  Halfway style cs last (style.applyLines (Snapshot.ofText cs revision) b first last)
  := by
  constructor
  · intro nested u hu
    have mono : lineOffset cs first ≤ lineOffset cs last := OffsetTable.lineOffset_mono cs order
    rw [canonicalAt_applyLines nested h, half.attributes nested u hu]
    simp only [lineSpan, Span.mem_iff]
    by_cases before : u < lineOffset cs first
    · rw [if_neg (by omega), if_pos before, if_pos (by omega)]
    · rw [if_neg before]
      by_cases here : u < lineOffset cs last
      · rw [if_pos (by omega), if_pos here, Option.map_some, canonical_touches, attributesAt,
          if_pos hu]
      · rw [if_neg (by omega), if_neg here]
  · intro sizes
    exact isCanonical_applyLines sizes (half.sizes sizes) _ _ _

/-- After the last line all code units have the attributes that the style gives them. -/
theorem Halfway.canonicalAt {line : Nat} {b : Buffer} (half : Halfway style cs line b)
    (nested : IsNestedText cs) (h : b.chars = cs) (last : (OffsetTable.ofText cs).lineCount ≤ line)
    (u : Nat) :
  b.canonicalAt u = style.attributesAt cs u
  := by
  by_cases inside : u < units cs
  · have stop : lineOffset cs line = units cs := OffsetTable.lineOffset_of_lineCount_le last
    rw [half.attributes nested u inside, stop, if_pos inside]
  · rw [attributesAt, if_neg inside]
    apply Buffer.canonicalAt_eq_none
    rw [Buffer.length_eq, h]
    omega

end Style

end LiveMarkdown
