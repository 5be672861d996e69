import LiveMarkdown.Proofs.Buffer.Attributes

/-!
# Equal attributes

Numbers in attributes are compared as numbers: the two zeros are equal, and an undefined number is
not even equal to itself.  So equality of attributes is symmetric and transitive, and attributes
without undefined numbers are equal to themselves.
-/

namespace LiveMarkdown

/-! ### Symmetry and transitivity -/

instance : PartialEquivBEq Font where
  symm h := by
    simp only [Font.beq_iff] at *
    exact ⟨h.1.symm, BEq.symm h.2.1, h.2.2.1.symm, h.2.2.2.symm⟩
  trans h h' := by
    simp only [Font.beq_iff] at *
    exact ⟨h.1.trans h'.1, BEq.trans h.2.1 h'.2.1, h.2.2.1.trans h'.2.2.1,
      h.2.2.2.trans h'.2.2.2⟩

theorem Attributes.beq_iff (a b : Attributes) :
  a == b ↔ a.font == b.font ∧ a.foreground = b.foreground ∧ a.background = b.background
    ∧ a.layout == b.layout ∧ a.underline = b.underline ∧ a.link = b.link
  := by
  change (_ && _) = true ↔ _
  simp only [Bool.and_eq_true, beq_iff_eq]

instance : PartialEquivBEq Attributes where
  symm h := by
    simp only [Attributes.beq_iff] at *
    obtain ⟨font, foreground, background, layout, underline, link⟩ := h
    exact ⟨BEq.symm font, foreground.symm, background.symm, BEq.symm layout, underline.symm,
      link.symm⟩
  trans h h' := by
    simp only [Attributes.beq_iff] at *
    obtain ⟨font, foreground, background, layout, underline, link⟩ := h
    obtain ⟨font', foreground', background', layout', underline', link'⟩ := h'
    exact ⟨BEq.trans font font', foreground.trans foreground', background.trans background',
      BEq.trans layout layout', underline.trans underline', link.trans link'⟩

/-! ### Undefined numbers -/

/-- No number of a layout is undefined. -/
def Layout.HasNumbers (l : Layout) : Prop :=
  ∀ x ∈ [l.headIndent, l.firstLineIndent, l.minLineHeight, l.maxLineHeight, l.spacing],
    x.isNaN = false

instance (l : Layout) : Decidable l.HasNumbers :=
  inferInstanceAs (Decidable (∀ x ∈ [l.headIndent, l.firstLineIndent, l.minLineHeight,
    l.maxLineHeight, l.spacing], x.isNaN = false))

theorem beq_self_of_isNaN {x : Float32} (h : x.isNaN = false) :
  x == x
  := by
  rw [Float32.beq_self_iff]
  intro nan
  rw [Float32.isNaN_eq_decide_eq_nan, nan] at h
  simp at h

/-- A layout without undefined numbers is equal to itself. -/
theorem Layout.HasNumbers.beq_self {l : Layout} (h : l.HasNumbers) :
  l == l
  := by
  simp only [HasNumbers, List.forall_mem_cons, List.not_mem_nil, false_implies, implies_true,
    and_true] at h
  obtain ⟨head, first, least, greatest, spacing⟩ := h
  rw [beq_iff]
  exact ⟨beq_self_of_isNaN head, beq_self_of_isNaN first, beq_self_of_isNaN least,
    beq_self_of_isNaN greatest, beq_self_of_isNaN spacing⟩

/-- No number in a set of attributes is undefined. -/
def Attributes.HasNumbers (a : Attributes) : Prop :=
  (∀ f ∈ a.font, f.size.isNaN = false) ∧ ∀ l ∈ a.layout, l.HasNumbers

instance (a : Attributes) : Decidable a.HasNumbers :=
  inferInstanceAs (Decidable ((∀ f ∈ a.font, f.size.isNaN = false) ∧ ∀ l ∈ a.layout, l.HasNumbers))

/-- Attributes without undefined numbers are equal to themselves. -/
theorem Attributes.HasNumbers.beq_self {a : Attributes} (h : a.HasNumbers) :
  a == a
  := by
  have font : a.font == a.font := by
    cases hf : a.font with
    | none => rfl
    | some f =>
      change f == f
      rw [Font.beq_iff]
      exact ⟨rfl, beq_self_of_isNaN (h.1 f hf), rfl, rfl⟩
  have layout : a.layout == a.layout := by
    cases hl : a.layout with
    | none => rfl
    | some l => exact (h.2 l hl).beq_self
  rw [beq_iff]
  exact ⟨font, rfl, rfl, layout, rfl, rfl⟩

end LiveMarkdown
