import LiveMarkdown.Proofs.Styling.Passes

/-!
# Neighbouring code units

Two neighbouring code units are treated alike by a stroke that neither starts nor stops
between them.  If they have the same attributes before, they have the same ones afterwards,
also where fonts are changed run by run: a run that takes in the first of them takes in the
second one as well, or it ends after the first because a size that is no number differs
from itself, and then each of them is changed on its own.
-/

namespace LiveMarkdown

/-! ### Attributes that stay alike -/

/-- Attributes that are related stay related when both are changed in one way, and they have
the same font. -/
structure IsShared (R : Attributes → Attributes → Prop) : Prop where
  /-- An attribute is set. -/
  set : ∀ {a a' : Attributes}, R a a' → ∀ v, R (a.set v) (a'.set v)
  /-- A layout is put in place of a different one. -/
  layOut : ∀ {a a' : Attributes}, R a a' → ∀ l, R (a.layOut l) (a'.layOut l)
  /-- The fonts are the same. -/
  font : ∀ {a a' : Attributes}, R a a' → a.font = a'.font

namespace IsShared

variable {R : Attributes → Attributes → Prop} {a a' : Attributes}

theorem addTrait (h : IsShared R) (same : R a a') (body : Font) (t : FontTrait) :
  R (a.addTrait body t) (a'.addTrait body t)
  := by
  rw [Attributes.addTrait, Attributes.addTrait, h.font same]
  apply h.set same

theorem eq :
  IsShared Eq
  where
  set same v := congrArg (Attributes.set · v) same
  layOut same l := congrArg (Attributes.layOut l) same
  font same := congrArg Attributes.font same

end IsShared

/-- The attributes but the color of the characters. -/
def Attributes.uncolored (a : Attributes) : Attributes :=
  { a with foreground := none }

theorem Attributes.uncolored_set (a : Attributes) (v : Attribute) :
  (a.set v).uncolored = (a.uncolored.set v).uncolored
  := by
  cases v <;> rfl

theorem Attributes.uncolored_layOut (a : Attributes) (l : Layout) :
  (a.layOut l).uncolored = (a.uncolored.layOut l).uncolored
  := by
  have same : a.uncolored.layout = a.layout := rfl
  rw [layOut, layOut, same]
  split
  · rfl
  · apply uncolored_set

/-- Attributes differ in the color of the characters at most. -/
def Attributes.DifferInColor (a a' : Attributes) : Prop :=
  a.uncolored = a'.uncolored

theorem IsShared.differInColor :
  IsShared Attributes.DifferInColor
  where
  set same v := by
    rw [Attributes.DifferInColor, Attributes.uncolored_set, same, ← Attributes.uncolored_set]
  layOut same l := by
    rw [Attributes.DifferInColor, Attributes.uncolored_layOut, same,
      ← Attributes.uncolored_layOut]
  font same := by
    apply congrArg Attributes.font same

/-- A stroke starts or stops at a position. -/
def Stroke.Cuts (m : Nat) (k : Stroke) : Prop :=
  k.span.start = m ∨ k.span.stop = m

/-! ### Where a trait is added -/

/-- The font of some attributes, or another one if they have none. -/
theorem Attributes.font_getD (a : Attributes) (body : Font) :
  (match a.get? .font with
    | some (.font f) => f
    | _ => body) = a.font.getD body
  := by
  unfold get?
  cases a.font <;> rfl

namespace Buffer

section

variable {b : Buffer} {body : Font} {t : FontTrait} {stop i u : Nat}

/-- Nothing is added outside a span. -/
theorem getElem?_addTrait_of_not (h : u < i ∨ stop ≤ u) :
  (b.addTrait body t stop i).attributes[u]? = b.attributes[u]?
  := by
  fun_induction Buffer.addTrait b body t stop i with
  | case1 => rfl
  | case2 b i inside current run found next old ih =>
    obtain ⟨-, -, -, after, before, -⟩ := attribute?_spec inside found
    rw [ih (by omega), addAttribute, getElem?_update, if_neg]
    rw [Span.mem_iff]
    dsimp only
    omega
  | case3 => rfl

/-- At its start a span gets the trait added to its own font. -/
theorem getElem?_addTrait_start (h : i < stop) :
  (b.addTrait body t stop i).attributes[i]? = b.attributes[i]?.map (Attributes.addTrait body t)
  := by
  fun_cases Buffer.addTrait b body t stop i with
  | case1 _ missing =>
    rw [Array.getElem?_eq_none (attribute?_eq_none h missing)]
    rfl
  | case2 _ current run found next old =>
    obtain ⟨a, ha, rfl, after, -⟩ := attribute?_spec h found
    have own : old = a.font.getD body := Attributes.font_getD a body
    rw [getElem?_addTrait_of_not (by omega), addAttribute, getElem?_update, if_pos, ha, own]
    · rfl
    · rw [Span.mem_iff]
      dsimp only
      omega
  | case3 outside => apply absurd h outside

end

/-! ### Pairs -/

/-- A code unit and the next one have attributes that are related. -/
def HasPair (R : Attributes → Attributes → Prop) (u : Nat) (b : Buffer) : Prop :=
  ∃ a a', b.attributes[u]? = some a ∧ b.attributes[u + 1]? = some a' ∧ R a a'

variable {R : Attributes → Attributes → Prop} {u : Nat} {b c : Buffer}

theorem HasPair.of_eq (h : b.HasPair R u) (first : c.attributes[u]? = b.attributes[u]?)
    (second : c.attributes[u + 1]? = b.attributes[u + 1]?) :
  c.HasPair R u
  := by
  obtain ⟨a, a', ha, ha', same⟩ := h
  exact ⟨a, a', first.trans ha, second.trans ha', same⟩

/-- Both code units are changed in one way. -/
theorem HasPair.of_map {f : Attributes → Attributes} (h : b.HasPair R u)
    (hf : ∀ {a a'}, R a a' → R (f a) (f a'))
    (first : c.attributes[u]? = b.attributes[u]?.map f)
    (second : c.attributes[u + 1]? = b.attributes[u + 1]?.map f) :
  c.HasPair R u
  := by
  obtain ⟨a, a', ha, ha', same⟩ := h
  refine ⟨f a, f a', ?_, ?_, hf same⟩
  · rw [first, ha, Option.map_some]
  · rw [second, ha', Option.map_some]

theorem HasPair.update (h : b.HasPair R u) {f : Attributes → Attributes}
    (hf : ∀ {a a'}, R a a' → R (f a) (f a')) {span : Span}
    (uncut : span.start ≠ u + 1 ∧ span.stop ≠ u + 1) :
  (b.update span f).HasPair R u
  := by
  have both : u + 1 ∈ span ↔ u ∈ span := by
    simp only [Span.mem_iff]
    omega
  by_cases inside : u ∈ span
  · apply h.of_map hf
    · rw [getElem?_update, if_pos inside]
    · rw [getElem?_update, if_pos (both.mpr inside)]
  · apply h.of_eq
    · rw [getElem?_update, if_neg inside]
    · rw [getElem?_update, if_neg (mt both.mp inside)]

theorem HasPair.layOut (hR : IsShared R) (h : b.HasPair R u) (l : Layout) {stop i : Nat}
    (uncut : i ≠ u + 1 ∧ stop ≠ u + 1) :
  (b.layOut l stop i).HasPair R u
  := by
  by_cases inside : i ≤ u ∧ u < stop
  · apply h.of_map (f := Attributes.layOut l) (fun same => hR.layOut same l)
    · rw [getElem?_layOut, if_pos inside]
    · rw [getElem?_layOut, if_pos (by omega)]
  · apply h.of_eq
    · rw [getElem?_layOut, if_neg inside]
    · rw [getElem?_layOut, if_neg (by omega)]

/-- A run of fonts that ends between the code units of a pair starts with the pair. -/
theorem HasPair.run_start (hR : IsShared R) (h : b.HasPair R u) {i stop : Nat}
    {current : Option Attribute} {run : Span}
    (found : b.attribute? .font i ⟨i, stop⟩ = some (current, run)) (starts : i ≤ u)
    (ends : run.stop = u + 1) (short : u + 1 < stop) :
  i = u
  := by
  by_contra early
  obtain ⟨a, a', ha, ha', same⟩ := h
  obtain ⟨first, hfirst, -, -, -, agree⟩ := attribute?_spec (by omega) found
  have agrees := (agree u (by omega) (by omega) a ha).resolve_left (by omega)
  have differs := attribute?_maximal found (c := a') (by omega) hfirst (by rw [ends]; apply ha')
  apply differs
  unfold Attributes.agree at agrees ⊢
  rw [← hR.font same]
  apply agrees

/-- The run that holds the first code unit of a pair holds the second one too, or it is the
first code unit alone. -/
theorem HasPair.addTrait (hR : IsShared R) (h : b.HasPair R u) (body : Font) (t : FontTrait)
    {stop i : Nat} (uncut : i ≠ u + 1 ∧ stop ≠ u + 1) :
  (b.addTrait body t stop i).HasPair R u
  := by
  by_cases inside : i ≤ u ∧ u + 1 < stop
  · fun_induction Buffer.addTrait b body t stop i with
    | case1 b i starts missing =>
      obtain ⟨a, -, ha, -⟩ := h
      have outside := attribute?_eq_none starts missing
      have short : u < b.length := (Array.getElem?_eq_some_iff.mp ha).1
      omega
    | case2 b i starts current run found next old ih =>
      obtain ⟨first, hfirst, rfl, after, before, -⟩ := attribute?_spec starts found
      have stops : next = run.stop := Nat.max_eq_left after
      rcases Nat.lt_trichotomy next (u + 1) with early | ends | late
      · apply ih _ ⟨by omega, uncut.2⟩ ⟨by omega, inside.2⟩
        apply h.update (fun same => hR.set same _)
        exact ⟨uncut.1, by dsimp only; omega⟩
      · obtain rfl := h.run_start hR found inside.1 (stops ▸ ends) inside.2
        have own : old = first.font.getD body := Attributes.font_getD first body
        apply h.of_map (f := Attributes.addTrait body t) (fun same => hR.addTrait same body t)
        · rw [getElem?_addTrait_of_not (by omega), addAttribute, getElem?_update,
            if_pos (by simp only [Span.mem_iff]; omega), hfirst, own]
          rfl
        · rw [ends, getElem?_addTrait_start (by omega), addAttribute, getElem?_update,
            if_neg (by simp only [Span.mem_iff]; omega)]
      · apply h.of_map (fun same => hR.set same (.font (old.adding t)))
        · rw [getElem?_addTrait_of_not (by omega), addAttribute, getElem?_update,
            if_pos (by simp only [Span.mem_iff]; omega)]
        · rw [getElem?_addTrait_of_not (by omega), addAttribute, getElem?_update,
            if_pos (by simp only [Span.mem_iff]; omega)]
    | case3 b i outside => omega
  · apply h.of_eq
    · apply getElem?_addTrait_of_not
      omega
    · apply getElem?_addTrait_of_not
      omega

/-! ### Strokes -/

/-- A stroke that does not cut a pair keeps it. -/
theorem HasPair.stroke (hR : IsShared R) (h : b.HasPair R u) {k : Stroke}
    (uncut : ¬ k.Cuts (u + 1)) :
  (b.stroke none k).HasPair R u
  := by
  unfold Stroke.Cuts at uncut
  rw [not_or] at uncut
  unfold Buffer.stroke Span.visible?
  cases k with
  | set span v =>
    dsimp only
    split
    next => apply h
    next shown =>
      obtain ⟨rfl, -⟩ := Span.nonempty?_eq_some_iff.mp shown
      apply h.update (fun same => hR.set same v) uncut
  | layOut span l =>
    dsimp only
    split
    next => apply h
    next shown =>
      obtain ⟨rfl, -⟩ := Span.nonempty?_eq_some_iff.mp shown
      apply h.layOut hR l uncut
  | addTrait span body t =>
    dsimp only
    split
    next => apply h
    next shown =>
      obtain ⟨rfl, -⟩ := Span.nonempty?_eq_some_iff.mp shown
      apply h.addTrait hR body t uncut

/-- What changes nothing but colors keeps the other attributes alike. -/
theorem HasPair.of_map_uncolored (h : b.HasPair Attributes.DifferInColor u)
    (same : ∀ v : Nat, c.attributes[v]?.map Attributes.uncolored
      = b.attributes[v]?.map Attributes.uncolored) :
  c.HasPair Attributes.DifferInColor u
  := by
  obtain ⟨a, a', ha, ha', alike⟩ := h
  have first := same u
  have second := same (u + 1)
  rw [ha, Option.map_some, Option.map_eq_some_iff] at first
  rw [ha', Option.map_some, Option.map_eq_some_iff] at second
  obtain ⟨d, hd, first⟩ := first
  obtain ⟨d', hd', second⟩ := second
  exact ⟨d, d', hd, hd', first.trans (alike.trans second.symm)⟩

theorem HasPair.stroke_foreground (h : b.HasPair Attributes.DifferInColor u)
    (span : Span) (color : Color) :
  (b.stroke none (.set span (.foreground color))).HasPair Attributes.DifferInColor u
  := by
  apply h.of_map_uncolored
  intro v
  unfold Buffer.stroke
  dsimp only
  split
  next => rfl
  next =>
    rw [addAttribute, getElem?_update]
    split
    · rw [Option.map_map]
      rfl
    · rfl

/-- Strokes that keep a pair one by one keep it one after the other. -/
theorem HasPair.strokes (h : b.HasPair R u) {ks : List Stroke}
    (each : ∀ k ∈ ks, ∀ b : Buffer, b.HasPair R u → (b.stroke none k).HasPair R u) :
  (b.strokes none ks).HasPair R u
  := by
  unfold Buffer.strokes
  induction ks generalizing b with
  | nil => apply h
  | cons k ks ih =>
    rw [List.forall_mem_cons] at each
    apply ih (each.1 b h) each.2

end Buffer

end LiveMarkdown
