import LiveMarkdown.Styling.Stroke
import Mathlib

/-!
# The attributes of one code unit

What a write does to a buffer is said code unit by code unit: inside its span each code
unit gets new attributes that depend on its old ones alone, and outside nothing changes.
Writes that proceed run by run treat all code units of a run like the first one.  The
test for equal attributes does not tell the two zeros apart, so for fonts this is right
only up to the sign of a size that is zero.
-/

namespace LiveMarkdown

/-! ### Numbers that are equal -/

/-- The pattern of bits of the negative zero. -/
def negativeZeroBits : UInt32 :=
  0x80000000

/-- The number itself, but the positive zero in place of the negative one. -/
def withoutNegativeZero (x : Float32) : Float32 :=
  if x.toBits = negativeZeroBits then 0 else x

theorem withoutNegativeZero_of_ne {x : Float32} (h : x.toBits ≠ negativeZeroBits) :
  withoutNegativeZero x = x
  := if_neg h

theorem withoutNegativeZero_zero :
  withoutNegativeZero 0 = 0
  := ite_self _

theorem withoutNegativeZero_neg_zero :
  withoutNegativeZero (-0) = 0
  := if_pos (by decide +kernel)

/-- Equal numbers are the same but for the sign of zero. -/
theorem withoutNegativeZero_eq_of_beq {x y : Float32} (h : x == y) :
  withoutNegativeZero x = withoutNegativeZero y
  := by
  obtain ⟨-, -, rfl | ⟨rfl, rfl⟩ | ⟨rfl, rfl⟩⟩ := Float32.beq_iff_ne_nan_and_eq.mp h
  · rfl
  · rw [withoutNegativeZero_zero, withoutNegativeZero_neg_zero]
  · rw [withoutNegativeZero_zero, withoutNegativeZero_neg_zero]

theorem withoutNegativeZero_idem (x : Float32) :
  withoutNegativeZero (withoutNegativeZero x) = withoutNegativeZero x
  := by
  by_cases h : x.toBits = negativeZeroBits
  · simp only [withoutNegativeZero, if_pos h, ite_self]
  · simp only [withoutNegativeZero_of_ne h]

/-! ### Layouts and fonts that are equal -/

theorem Layout.beq_iff (l m : Layout) :
  l == m ↔ l.headIndent == m.headIndent ∧ l.firstLineIndent == m.firstLineIndent
    ∧ l.minLineHeight == m.minLineHeight ∧ l.maxLineHeight == m.maxLineHeight
    ∧ l.spacing == m.spacing
  := by
  change (_ && _) = true ↔ _
  simp only [Bool.and_eq_true]

instance : PartialEquivBEq Layout where
  symm h := by
    simp only [Layout.beq_iff] at *
    exact ⟨BEq.symm h.1, BEq.symm h.2.1, BEq.symm h.2.2.1, BEq.symm h.2.2.2.1, BEq.symm h.2.2.2.2⟩
  trans h h' := by
    simp only [Layout.beq_iff] at *
    exact ⟨BEq.trans h.1 h'.1, BEq.trans h.2.1 h'.2.1, BEq.trans h.2.2.1 h'.2.2.1,
      BEq.trans h.2.2.2.1 h'.2.2.2.1, BEq.trans h.2.2.2.2 h'.2.2.2.2⟩

instance instPartialEquivBEqOption {α : Type} [BEq α] [PartialEquivBEq α] :
    PartialEquivBEq (Option α) where
  symm {x y} h := by
    cases x <;> cases y <;> simp_all [BEq.symm]
  trans {x y z} h h' := by
    cases x <;> cases y <;> cases z <;> simp_all
    exact BEq.trans h h'

theorem Font.beq_iff (f g : Font) :
  f == g ↔ f.family = g.family ∧ f.size == g.size ∧ f.weight = g.weight ∧ f.italic = g.italic
  := by
  change (_ && _) = true ↔ _
  simp only [Bool.and_eq_true, beq_iff_eq]

/-- The font with a positive zero for a size that is zero. -/
def Font.canonical (f : Font) : Font :=
  { f with size := withoutNegativeZero f.size }

theorem Font.canonical_eq_of_beq {f g : Font} (h : f == g) :
  f.canonical = g.canonical
  := by
  obtain ⟨family, size, weight, italic⟩ := (f.beq_iff g).mp h
  rw [canonical, canonical, family, weight, italic, withoutNegativeZero_eq_of_beq size]

@[simp] theorem Font.canonical_canonical (f : Font) :
  f.canonical.canonical = f.canonical
  := by
  simp only [canonical, withoutNegativeZero_idem]

@[simp] theorem Font.canonical_adding (f : Font) (t : FontTrait) :
  (f.adding t).canonical = f.canonical.adding t
  := by
  cases t <;> rfl

namespace Attributes

/-- The attributes with a positive zero for a font size that is zero. -/
def canonical (a : Attributes) : Attributes :=
  { a with font := a.font.map Font.canonical }

@[simp] theorem canonical_canonical (a : Attributes) :
  a.canonical.canonical = a.canonical
  := by
  cases h : a.font <;> simp [canonical, h]

theorem canonical_eq_self_iff {a : Attributes} :
  a.canonical = a ↔ a.font.map Font.canonical = a.font
  := by
  constructor
  · intro h
    exact congrArg font h
  · intro h
    rw [canonical, h]

/-- The attributes with a layout in place of a different one. -/
def layOut (l : Layout) (a : Attributes) : Attributes :=
  if a.layout == some l then a else a.set (.layout l)

theorem canonical_set (a : Attributes) (v : Attribute) :
  (a.set v).canonical = (a.canonical.set v).canonical
  := by
  cases v with
  | font f => rfl
  | _ => exact (canonical_canonical _).symm

theorem canonical_layOut (l : Layout) (a : Attributes) :
  (a.layOut l).canonical = (a.canonical.layOut l).canonical
  := by
  have same : a.canonical.layout = a.layout := rfl
  rw [layOut, layOut, same]
  split
  · rw [canonical_canonical]
  · apply canonical_set

/-- The attributes with a trait added to the font, for which `body` stands if it is
missing. -/
def addTrait (body : Font) (t : FontTrait) (a : Attributes) : Attributes :=
  a.set (.font ((a.font.getD body).adding t))

/-- What a trait makes of a font does not depend on the sign of a size that is zero. -/
theorem canonical_addTrait (body : Font) (t : FontTrait) (a : Attributes) :
  (a.addTrait body t).canonical = (a.canonical.addTrait body t).canonical
  := by
  cases h : a.font <;> simp [addTrait, canonical, set, h]

theorem layOut_of_agree {a b : Attributes} (h : b.agree a .layout) (l : Layout) :
  b.layOut l = if a.layout == some l then b else b.set (.layout l)
  := by
  change (b.layout == a.layout) = true at h
  rw [layOut, BEq.congr_left h]

theorem canonical_addTrait_of_agree {a b : Attributes} (h : b.agree a .font) (body : Font)
    (t : FontTrait) :
  (b.set (.font ((a.font.getD body).adding t))).canonical = (b.addTrait body t).canonical
  := by
  have same : (a.font.getD body).canonical = (b.font.getD body).canonical := by
    change (b.font == a.font) = true at h
    cases ha : a.font <;> cases hb : b.font <;> rw [ha, hb] at h <;> simp_all
    symm
    apply Font.canonical_eq_of_beq h
  simp only [addTrait, canonical, set, Option.map_some, Font.canonical_adding, same]

end Attributes

/-! ### Writes in one span -/

theorem getElem?_modifyRange {α : Type} (f : α → α) (as : Array α) (i n u : Nat) :
  (modifyRange f as i n)[u]? = if i ≤ u ∧ u < i + n then as[u]?.map f else as[u]?
  := by
  induction n generalizing as i with
  | zero =>
    rw [if_neg (by omega)]
    rfl
  | succ n ih =>
    rw [modifyRange, ih, Array.getElem?_modify]
    by_cases first : i = u
    · rw [if_neg (by omega), if_pos first, if_pos (by omega)]
    · rw [if_neg first]
      congr 1
      simp only [eq_iff_iff]
      omega

namespace Buffer

@[simp] theorem attributes_noteAttributes (b : Buffer) (span : Span) :
  (b.noteAttributes span).attributes = b.attributes
  := by
  rw [noteAttributes]
  split <;> rfl

@[simp] theorem attributes_beginBatch (b : Buffer) :
  b.beginBatch.attributes = b.attributes
  := rfl

@[simp] theorem attributes_endBatch (b : Buffer) :
  b.endBatch.attributes = b.attributes
  := by
  simp only [endBatch]
  split
  · split
    · simp
    · rfl
  · rfl

theorem not_mem_of_clamp?_eq_none {b : Buffer} {span : Span} (h : b.clamp? span = none) {u : Nat}
    (hu : u < b.length) :
  u ∉ span
  := by
  unfold clamp? Span.nonempty? at h
  split at h
  · cases h
  · simp only [Span.mem_iff]
    dsimp only at *
    omega

theorem mem_of_clamp?_eq_some {b : Buffer} {span inside : Span} (h : b.clamp? span = some inside)
    {u : Nat} :
  u ∈ inside ↔ u ∈ span ∧ u < b.length
  := by
  obtain ⟨rfl, -⟩ := Span.nonempty?_eq_some_iff.mp h
  simp only [Span.mem_iff]
  omega

@[simp] theorem length_update (b : Buffer) (span : Span) (f : Attributes → Attributes) :
  (b.update span f).length = b.length
  := by
  unfold update length
  split
  · rfl
  · simp

/-- A write changes the code units of its span. -/
theorem getElem?_update (b : Buffer) (span : Span) (f : Attributes → Attributes) (u : Nat) :
  (b.update span f).attributes[u]?
    = if u ∈ span then b.attributes[u]?.map f else b.attributes[u]?
  := by
  by_cases inside : u < b.length
  · cases h : b.clamp? span with
    | none =>
      rw [if_neg (not_mem_of_clamp?_eq_none h inside)]
      simp [update, h]
    | some part =>
      have shown := mem_of_clamp?_eq_some (u := u) h
      simp only [update, h, attributes_noteAttributes, getElem?_modifyRange]
      congr 1
      simp only [Span.mem_iff, Span.length, eq_iff_iff] at *
      omega
  · have size := length_update b span f
    unfold length at size inside
    rw [Array.getElem?_eq_none (by omega), Array.getElem?_eq_none (by omega)]
    simp

/-! ### Writes that proceed run by run -/

/-- All entries up to the end of a run agree with its first one. -/
theorem runStop_spec (as : Array Attributes) (a : Attributes) (key : AttributeKey)
    (ceiling i : Nat) :
  i ≤ runStop as a key ceiling i ∧ runStop as a key ceiling i ≤ max i ceiling
    ∧ ∀ u, i ≤ u → u < runStop as a key ceiling i → ∀ c, as[u]? = some c → c.agree a key
  := by
  fun_induction runStop as a key ceiling i with
  | case1 i h ih =>
    obtain ⟨lower, upper, agree⟩ := ih
    refine ⟨by omega, by omega, ?_⟩
    intro u hi hu c hc
    by_cases first : u = i
    · have any := h.2
      rw [← first, hc] at any
      simpa using any
    · exact agree u (by omega) hu c hc
  | case2 i h =>
    refine ⟨le_rfl, by omega, ?_⟩
    intro u hi hu
    omega

/-- The run of a code unit inside a limit that starts with it: its end, and that all its
code units agree with the first one. -/
theorem attribute?_spec {b : Buffer} {key : AttributeKey} {i stop : Nat} (h : i < stop)
    {current : Option Attribute} {run : Span}
    (found : b.attribute? key i ⟨i, stop⟩ = some (current, run)) :
  ∃ a, b.attributes[i]? = some a ∧ current = a.get? key ∧ i < run.stop ∧ run.stop ≤ stop
    ∧ ∀ u, i ≤ u → u < run.stop → ∀ c, b.attributes[u]? = some c → u = i ∨ c.agree a key
  := by
  rw [attribute?, if_pos (Span.mem_iff.mpr ⟨le_rfl, h⟩)] at found
  obtain ⟨a, ha, pair⟩ := Option.map_eq_some_iff.mp found
  obtain ⟨rfl, rfl⟩ := Prod.mk.inj pair
  obtain ⟨lower, upper, agree⟩ := runStop_spec b.attributes a key (min stop b.length) (i + 1)
  have inside : i < b.length := (Array.getElem?_eq_some_iff.mp ha).1
  refine ⟨a, ha, rfl, ?_, ?_, ?_⟩
  · dsimp only at *
    omega
  · dsimp only at *
    omega
  · intro u hi hu c hc
    by_cases first : u = i
    · left
      exact first
    · right
      exact agree u (by omega) hu c hc

theorem attribute?_eq_none {b : Buffer} {key : AttributeKey} {i stop : Nat} (h : i < stop)
    (missing : b.attribute? key i ⟨i, stop⟩ = none) :
  b.length ≤ i
  := by
  rw [attribute?, if_pos (Span.mem_iff.mpr ⟨le_rfl, h⟩), Option.map_eq_none_iff,
    Array.getElem?_eq_none_iff] at missing
  exact missing

/-- A run that ends before its limit is followed by attributes that do not agree. -/
theorem runStop_maximal {as : Array Attributes} {a c : Attributes} {key : AttributeKey}
    {ceiling i : Nat} (h : runStop as a key ceiling i < ceiling)
    (hc : as[runStop as a key ceiling i]? = some c) :
  ¬ c.agree a key
  := by
  fun_induction runStop as a key ceiling i with
  | case1 i agrees ih => apply ih h hc
  | case2 i differs =>
    intro agree
    apply differs
    exact ⟨h, by rw [hc]; exact agree⟩

/-- The run of a code unit inside a limit ends where the next one does not agree with it. -/
theorem attribute?_maximal {b : Buffer} {key : AttributeKey} {i stop : Nat}
    {current : Option Attribute} {run : Span}
    (found : b.attribute? key i ⟨i, stop⟩ = some (current, run)) (short : run.stop < stop)
    {a c : Attributes} (ha : b.attributes[i]? = some a)
    (hc : b.attributes[run.stop]? = some c) :
  ¬ c.agree a key
  := by
  unfold attribute? at found
  split at found
  · rw [ha, Option.map_some, Option.some.injEq, Prod.mk.injEq] at found
    obtain ⟨-, rfl⟩ := found
    apply runStop_maximal _ hc
    have inside : _ < b.length := (Array.getElem?_eq_some_iff.mp hc).1
    dsimp only at short inside ⊢
    omega
  · cases found

/-- Laying out a run lays out each of its code units. -/
theorem getElem?_layOut_run {b : Buffer} {i stop : Nat} (h : i < stop)
    {current : Option Attribute} {run : Span}
    (found : b.attribute? .layout i ⟨i, stop⟩ = some (current, run)) (l : Layout) (u : Nat) :
  (if current == some (.layout l) then b
    else b.addAttribute ⟨i, max run.stop (i + 1)⟩ (.layout l)).attributes[u]?
    = if i ≤ u ∧ u < max run.stop (i + 1) then b.attributes[u]?.map (Attributes.layOut l)
      else b.attributes[u]?
  := by
  obtain ⟨a, ha, rfl, after, -, agree⟩ := attribute?_spec h found
  rw [Nat.max_eq_left after]
  have test : (a.get? .layout == some (.layout l)) = (a.layout == some l) := by
    rw [Attributes.get?]
    cases a.layout <;> rfl
  have each (c : Attributes) (hc : b.attributes[u]? = some c) (hi : i ≤ u) (hu : u < run.stop) :
      c.layOut l = if a.layout == some l then c else c.set (.layout l) := by
    rcases agree u hi hu c hc with rfl | same
    · obtain rfl := Option.some.inj (ha.symm.trans hc)
      rfl
    · exact Attributes.layOut_of_agree same l
  rw [test]
  by_cases inside : i ≤ u ∧ u < run.stop
  · rw [if_pos inside]
    cases hc : b.attributes[u]? with
    | none => split <;> simp [addAttribute, getElem?_update, hc]
    | some c =>
      rw [Option.map_some, each c hc inside.1 inside.2]
      split
      · exact hc
      · rw [addAttribute, getElem?_update, if_pos (Span.mem_iff.mpr inside), hc]
        rfl
  · rw [if_neg inside]
    split
    · rfl
    · rw [addAttribute, getElem?_update, if_neg (mt Span.mem_iff.mp inside)]

/-- Laying out a span lays out each of its code units. -/
theorem getElem?_layOut (b : Buffer) (l : Layout) (stop i u : Nat) :
  (b.layOut l stop i).attributes[u]?
    = if i ≤ u ∧ u < stop then b.attributes[u]?.map (Attributes.layOut l) else b.attributes[u]?
  := by
  fun_induction Buffer.layOut b l stop i with
  | case1 b i h missing =>
    have outside := attribute?_eq_none h missing
    split
    · rw [Array.getElem?_eq_none (by unfold length at outside; omega)]
      rfl
    · rfl
  | case2 b i h current run found next b' ih =>
    obtain ⟨-, -, -, after, before, -⟩ := attribute?_spec h found
    have here : b'.attributes[u]? = _ := getElem?_layOut_run h found l u
    rw [ih, here]
    by_cases rest : next ≤ u ∧ u < stop
    · rw [if_pos rest, if_neg (by omega), if_pos (by omega)]
    · rw [if_neg rest]
      congr 1
      simp only [eq_iff_iff]
      omega
  | case3 b i h =>
    rw [if_neg (by omega)]

/-- The attributes of a code unit, with a positive zero for a font size that is zero. -/
def canonicalAt (b : Buffer) (u : Nat) : Option Attributes :=
  b.attributes[u]?.map Attributes.canonical

/-- Adding a trait to a run adds it to each of its code units. -/
theorem canonicalAt_addTrait_run {b : Buffer} {i stop : Nat} (h : i < stop)
    {current : Option Attribute} {run : Span}
    (found : b.attribute? .font i ⟨i, stop⟩ = some (current, run)) (body old : Font)
    (first : ∀ a, b.attributes[i]? = some a → current = a.get? .font → old = a.font.getD body)
    (t : FontTrait) (u : Nat) :
  (b.addAttribute ⟨i, max run.stop (i + 1)⟩ (.font (old.adding t))).canonicalAt u
    = if i ≤ u ∧ u < max run.stop (i + 1)
      then (b.canonicalAt u).map fun c => (c.addTrait body t).canonical
      else b.canonicalAt u
  := by
  obtain ⟨a, ha, same, after, -, agree⟩ := attribute?_spec h found
  obtain rfl := first a ha same
  rw [Nat.max_eq_left after, canonicalAt, addAttribute, getElem?_update]
  by_cases inside : i ≤ u ∧ u < run.stop
  · rw [if_pos (Span.mem_iff.mpr inside), if_pos inside, canonicalAt]
    cases hc : b.attributes[u]? with
    | none => rfl
    | some c =>
      simp only [Option.map_some, Option.some.injEq, ← Attributes.canonical_addTrait]
      rcases agree u inside.1 inside.2 c hc with rfl | same
      · obtain rfl := Option.some.inj (ha.symm.trans hc)
        rfl
      · exact Attributes.canonical_addTrait_of_agree same body t
  · rw [if_neg (mt Span.mem_iff.mp inside), if_neg inside]
    rfl

/-- Adding a trait to a span adds it to each of its code units. -/
theorem canonicalAt_addTrait (b : Buffer) (body : Font) (t : FontTrait) (stop i u : Nat) :
  (b.addTrait body t stop i).canonicalAt u
    = if i ≤ u ∧ u < stop
      then (b.canonicalAt u).map fun c => (c.addTrait body t).canonical
      else b.canonicalAt u
  := by
  fun_induction Buffer.addTrait b body t stop i with
  | case1 b i h missing =>
    have outside := attribute?_eq_none h missing
    split
    · rw [canonicalAt, Array.getElem?_eq_none (by unfold length at outside; omega)]
      rfl
    · rfl
  | case2 b i h current run found next old ih =>
    obtain ⟨-, -, -, after, before, -⟩ := attribute?_spec h found
    have first (a : Attributes) (ha : b.attributes[i]? = some a) (same : current = a.get? .font) :
        old = a.font.getD body := by
      subst same
      unfold old Attributes.get?
      cases a.font <;> rfl
    rw [ih, canonicalAt_addTrait_run h found body old first]
    by_cases rest : next ≤ u ∧ u < stop
    · rw [if_pos rest, if_neg (by omega), if_pos (by omega)]
    · rw [if_neg rest]
      congr 1
      simp only [eq_iff_iff]
      omega
  | case3 b i h =>
    rw [if_neg (by omega)]

end Buffer

end LiveMarkdown
