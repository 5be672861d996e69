import LiveMarkdown.Proofs.Buffer.Attributes

/-!
# The effect of strokes

A stroke acts on every code unit of its span by itself, so what some strokes make of a
buffer is said by what they make of the attributes of one code unit.  Strokes made in
sequence have a normal form, with one component for each key, from which it follows that
making them twice is making them once.
-/

namespace LiveMarkdown

/-! ### One stroke -/

namespace Stroke

/-- The code units that a stroke changes. -/
def span : Stroke → Span
  | set span _ => span
  | layOut span _ => span
  | addTrait span _ _ => span

/-- What a stroke makes of the attributes of a code unit in its span. -/
def touch : Stroke → Attributes → Attributes
  | set _ value, a => a.set value
  | layOut _ layout, a => a.layOut layout
  | addTrait _ body font, a => a.addTrait body font

/-- A stroke does not look at the sign of a size that is zero. -/
theorem canonical_touch (k : Stroke) (a : Attributes) :
  (k.touch a.canonical).canonical = (k.touch a).canonical
  := by
  symm
  cases k with
  | set span value => apply Attributes.canonical_set
  | layOut span layout => apply Attributes.canonical_layOut
  | addTrait span body font => apply Attributes.canonical_addTrait

/-- The fonts that a stroke writes have no negative zero for a size. -/
def IsCanonical : Stroke → Prop
  | set _ (.font f) => f.canonical = f
  | addTrait _ body _ => body.canonical = body
  | _ => True

end Stroke

/-- A window shows a code unit. -/
def Shown (window : Option Span) (u : Nat) : Prop :=
  ∀ w ∈ window, u ∈ w

instance (window : Option Span) (u : Nat) : Decidable (Shown window u) :=
  inferInstanceAs (Decidable (∀ w ∈ window, u ∈ w))

@[simp] theorem shown_none (u : Nat) :
  Shown none u
  := by
  intro w hw
  cases hw

@[simp] theorem shown_some (w : Span) (u : Nat) :
  Shown (some w) u ↔ u ∈ w
  := by
  simp [Shown]

/-- The visible part of a span is what the window shows of it. -/
theorem Span.mem_visible? {window : Option Span} {span : Span} {u : Nat} :
  (∃ s, span.visible? window = some s ∧ u ∈ s) ↔ u ∈ span ∧ Shown window u
  := by
  cases window with
  | none =>
    simp only [visible?, nonempty?_eq_some_iff, shown_none, and_true]
    constructor
    · rintro ⟨s, ⟨rfl, -⟩, h⟩
      exact h
    · intro h
      exact ⟨span, ⟨rfl, Nat.lt_of_le_of_lt h.1 h.2⟩, h⟩
  | some w =>
    simp only [visible?, inter?, nonempty?_eq_some_iff, shown_some, mem_iff]
    constructor
    · rintro ⟨s, ⟨rfl, -⟩, h⟩
      dsimp only at h
      omega
    · intro h
      refine ⟨_, ⟨rfl, ?_⟩, ?_⟩
      · omega
      · dsimp only
        omega

namespace Buffer

/-! ### Strokes on the code units of a buffer -/

theorem canonicalAt_addAttribute (b : Buffer) (span : Span) (v : Attribute) (u : Nat) :
  (b.addAttribute span v).canonicalAt u
    = if u ∈ span then (b.canonicalAt u).map fun a => (a.set v).canonical else b.canonicalAt u
  := by
  rw [canonicalAt, addAttribute, getElem?_update]
  split
  · rw [canonicalAt, Option.map_map, Option.map_map]
    congr 1
    funext a
    apply Attributes.canonical_set
  · rfl

theorem canonicalAt_layOut (b : Buffer) (l : Layout) (stop i u : Nat) :
  (b.layOut l stop i).canonicalAt u
    = if i ≤ u ∧ u < stop then (b.canonicalAt u).map fun a => (a.layOut l).canonical
      else b.canonicalAt u
  := by
  rw [canonicalAt, getElem?_layOut]
  split
  · rw [canonicalAt, Option.map_map, Option.map_map]
    congr 1
    funext a
    apply Attributes.canonical_layOut
  · rfl

/-- A stroke touches the code units of its span that the window shows. -/
theorem canonicalAt_stroke (window : Option Span) (b : Buffer) (k : Stroke) (u : Nat) :
  (b.stroke window k).canonicalAt u
    = if u ∈ k.span ∧ Shown window u
      then (b.canonicalAt u).map fun a => (k.touch a).canonical
      else b.canonicalAt u
  := by
  have shown := @Span.mem_visible? window k.span u
  cases hv : k.span.visible? window with
  | none =>
    rw [if_neg (by rw [← shown, hv]; simp)]
    cases k <;> simp only [Stroke.span] at hv <;> simp [stroke, hv]
  | some s =>
    simp only [← shown, hv, Option.some.injEq, exists_eq_left']
    cases k with
    | set span value =>
      simp only [Stroke.span] at hv
      simp only [stroke, hv]
      apply canonicalAt_addAttribute
    | layOut span layout =>
      simp only [Stroke.span] at hv
      simp only [stroke, hv]
      apply canonicalAt_layOut
    | addTrait span body font =>
      simp only [Stroke.span] at hv
      simp only [stroke, hv]
      apply canonicalAt_addTrait

end Buffer

/-- What strokes made one after the other make of the attributes of a code unit. -/
def touches (ks : List Stroke) (u : Nat) (a : Attributes) : Attributes :=
  ks.foldl (fun a k => if u ∈ k.span then k.touch a else a) a

@[simp] theorem touches_nil (u : Nat) (a : Attributes) :
  touches [] u a = a
  := rfl

theorem touches_cons (k : Stroke) (ks : List Stroke) (u : Nat) (a : Attributes) :
  touches (k :: ks) u a = touches ks u (if u ∈ k.span then k.touch a else a)
  := rfl

theorem touches_append (ks ls : List Stroke) (u : Nat) (a : Attributes) :
  touches (ks ++ ls) u a = touches ls u (touches ks u a)
  := List.foldl_append

/-- Strokes elsewhere change nothing. -/
theorem touches_of_not_mem {ks : List Stroke} {u : Nat} (h : ∀ k ∈ ks, u ∉ k.span)
    (a : Attributes) :
  touches ks u a = a
  := by
  induction ks with
  | nil => rfl
  | cons k ks ih =>
    rw [touches_cons, if_neg (h k List.mem_cons_self)]
    apply ih
    intro l hl
    exact h l (List.mem_cons_of_mem k hl)

/-- Strokes do not look at the sign of a size that is zero. -/
theorem canonical_touches (ks : List Stroke) (u : Nat) (a : Attributes) :
  (touches ks u a.canonical).canonical = (touches ks u a).canonical
  := by
  induction ks generalizing a with
  | nil => simp
  | cons k ks ih =>
    rw [touches_cons, touches_cons]
    split
    · rw [← ih, Stroke.canonical_touch, ih]
    · apply ih

/-- Strokes touch the code units that the window shows. -/
theorem Buffer.canonicalAt_strokes (window : Option Span) (b : Buffer) (ks : List Stroke)
    (u : Nat) :
  (b.strokes window ks).canonicalAt u
    = if Shown window u then (b.canonicalAt u).map fun a => (touches ks u a).canonical
      else b.canonicalAt u
  := by
  induction ks generalizing b with
  | nil => simp [strokes, canonicalAt, Function.comp_def]
  | cons k ks ih =>
    rw [strokes, List.foldl_cons, ← strokes, ih, canonicalAt_stroke]
    by_cases shown : Shown window u
    · simp only [shown, and_true, if_true, touches_cons]
      split
      · rw [Option.map_map]
        congr 1
        funext a
        apply canonical_touches
      · rfl
    · simp only [shown, and_false, if_false]

/-! ### The normal form of some strokes -/

/-- The font with two traits added, each if it is asked for. -/
def Font.addingEach (bold italic : Bool) (f : Font) : Font :=
  { f with weight := if bold then .bold else f.weight, italic := italic || f.italic }

theorem Font.addingEach_addingEach (bold italic bold' italic' : Bool) (f : Font) :
  (f.addingEach bold italic).addingEach bold' italic'
    = f.addingEach (bold || bold') (italic || italic')
  := by
  cases bold <;> cases italic <;> cases bold' <;> cases italic' <;> simp [addingEach]

theorem Font.adding_eq (f : Font) (t : FontTrait) :
  f.adding t = f.addingEach (t = .bold) (t = .italic)
  := by
  cases t <;> simp [adding, addingEach]

/-- What some strokes do to a font. -/
inductive FontEffect where
  /-- They leave it as it is. -/
  | keep
  /-- They add traits to it, or to `body` if it is missing. -/
  | add (body : Font) (bold italic : Bool)
  /-- They replace it. -/
  | put (font : Font)

namespace FontEffect

/-- What the strokes make of a font. -/
def apply : FontEffect → Option Font → Option Font
  | keep, x => x
  | add body bold italic, x => some ((x.getD body).addingEach bold italic)
  | put font, _ => some font

/-- First one effect, then another one. -/
def andThen : FontEffect → FontEffect → FontEffect
  | e, keep => e
  | keep, add body bold italic => add body bold italic
  | add body bold italic, add _ bold' italic' => add body (bold || bold') (italic || italic')
  | put font, add _ bold italic => put (font.addingEach bold italic)
  | _, put font => put font

theorem apply_andThen (e f : FontEffect) (x : Option Font) :
  (e.andThen f).apply x = f.apply (e.apply x)
  := by
  cases f with
  | keep => rfl
  | put font => cases e <;> rfl
  | add body bold italic =>
    cases e with
    | keep => rfl
    | put font => rfl
    | add body' bold' italic' =>
      simp only [andThen, apply, Option.getD_some, Font.addingEach_addingEach]

theorem apply_apply (e : FontEffect) (x : Option Font) :
  e.apply (e.apply x) = e.apply x
  := by
  cases e with
  | keep => rfl
  | put font => rfl
  | add body bold italic =>
    simp only [apply, Option.getD_some, Font.addingEach_addingEach, Bool.or_self]

end FontEffect

/-- What some strokes do to a layout. -/
inductive LayoutEffect where
  /-- They leave it as it is. -/
  | keep
  /-- They replace it if it is a different one. -/
  | exchange (layout : Layout)
  /-- They replace it. -/
  | put (layout : Layout)

namespace LayoutEffect

/-- What the strokes make of a layout. -/
def apply : LayoutEffect → Option Layout → Option Layout
  | keep, x => x
  | exchange layout, x => if x == some layout then x else some layout
  | put layout, _ => some layout

/-- First one effect, then another one. -/
def andThen : LayoutEffect → LayoutEffect → LayoutEffect
  | e, keep => e
  | keep, exchange m => exchange m
  | exchange l, exchange m => if l == m then exchange l else put m
  | put l, exchange m => if l == m then put l else put m
  | _, put m => put m

theorem apply_exchange_of_beq {l : Layout} {x : Option Layout} (h : x == some l) :
  (exchange l).apply x = x
  := if_pos h

theorem apply_exchange_of_not_beq {l : Layout} {x : Option Layout} (h : ¬ x == some l) :
  (exchange l).apply x = some l
  := if_neg h

/-- Equality of layouts is symmetric and transitive, so a layout that is equal to two of
them stands for both. -/
theorem apply_andThen_exchange (l m : Layout) (x : Option Layout) :
  ((exchange l).andThen (exchange m)).apply x = (exchange m).apply ((exchange l).apply x)
  := by
  rw [andThen]
  by_cases same : l == m
  · rw [if_pos same]
    by_cases first : x == some l
    · have second : x == some m := BEq.trans first same
      rw [apply_exchange_of_beq first, apply_exchange_of_beq second]
    · have second : some l == some m := same
      rw [apply_exchange_of_not_beq first, apply_exchange_of_beq second]
  · rw [if_neg same]
    by_cases first : x == some l
    · have second : ¬ x == some m := by
        intro h
        have both : some l == some m := BEq.trans (BEq.symm first) h
        exact same both
      rw [apply_exchange_of_beq first, apply_exchange_of_not_beq second, apply]
    · have second : ¬ some l == some m := same
      rw [apply_exchange_of_not_beq first, apply_exchange_of_not_beq second, apply]

theorem apply_andThen (e f : LayoutEffect) (x : Option Layout) :
  (e.andThen f).apply x = f.apply (e.apply x)
  := by
  cases f with
  | keep => cases e <;> rfl
  | put m => cases e <;> rfl
  | exchange m =>
    cases e with
    | keep => rfl
    | exchange l => apply apply_andThen_exchange
    | put l =>
      rw [andThen]
      by_cases same : l == m
      · have second : some l == some m := same
        rw [if_pos same]
        symm
        exact apply_exchange_of_beq second
      · have second : ¬ some l == some m := same
        rw [if_neg same]
        symm
        exact apply_exchange_of_not_beq second

theorem apply_apply (e : LayoutEffect) (x : Option Layout) :
  e.apply (e.apply x) = e.apply x
  := by
  cases e with
  | keep => rfl
  | put l => rfl
  | exchange l =>
    by_cases first : x == some l
    · rw [apply_exchange_of_beq first, apply_exchange_of_beq first]
    · rw [apply_exchange_of_not_beq first]
      by_cases second : some l == some l
      · exact apply_exchange_of_beq second
      · exact apply_exchange_of_not_beq second

end LayoutEffect

/-- What some strokes do to the attributes of a code unit.  A value that is given replaces
the one that is there. -/
structure Effect where
  /-- The effect on the font. -/
  font : FontEffect := .keep
  /-- The color of the characters. -/
  foreground : Option Color := none
  /-- The color behind the characters. -/
  background : Option Color := none
  /-- The effect on the layout. -/
  layout : LayoutEffect := .keep
  /-- The line below the characters. -/
  underline : Option Underline := none
  /-- The destination of the link. -/
  link : Option LinkTarget := none

namespace Effect

/-- What the strokes make of some attributes. -/
def apply (e : Effect) (a : Attributes) : Attributes where
  font := e.font.apply a.font
  foreground := e.foreground.or a.foreground
  background := e.background.or a.background
  layout := e.layout.apply a.layout
  underline := e.underline.or a.underline
  link := e.link.or a.link

/-- First one effect, then another one. -/
def andThen (e f : Effect) : Effect where
  font := e.font.andThen f.font
  foreground := f.foreground.or e.foreground
  background := f.background.or e.background
  layout := e.layout.andThen f.layout
  underline := f.underline.or e.underline
  link := f.link.or e.link

theorem apply_andThen (e f : Effect) (a : Attributes) :
  (e.andThen f).apply a = f.apply (e.apply a)
  := by
  simp only [apply, andThen, FontEffect.apply_andThen, LayoutEffect.apply_andThen,
    Option.or_assoc]

theorem apply_apply (e : Effect) (a : Attributes) :
  e.apply (e.apply a) = e.apply a
  := by
  simp only [apply, FontEffect.apply_apply, LayoutEffect.apply_apply, ← Option.or_assoc,
    Option.or_self]

/-- The effect of a value. -/
def ofAttribute : Attribute → Effect
  | .font v => { font := .put v }
  | .foreground v => { foreground := some v }
  | .background v => { background := some v }
  | .layout v => { layout := .put v }
  | .underline v => { underline := some v }
  | .link v => { link := some v }

/-- The effect of a stroke. -/
def ofStroke : Stroke → Effect
  | .set _ value => ofAttribute value
  | .layOut _ layout => { layout := .exchange layout }
  | .addTrait _ body t => { font := .add body (t = .bold) (t = .italic) }

theorem apply_ofStroke (k : Stroke) (a : Attributes) :
  (ofStroke k).apply a = k.touch a
  := by
  cases k with
  | set span value => cases value <;> rfl
  | layOut span layout =>
    simp only [ofStroke, apply, LayoutEffect.apply, Stroke.touch, Attributes.layOut]
    split <;> rfl
  | addTrait span body t =>
    simp only [ofStroke, apply, FontEffect.apply, Stroke.touch, Attributes.addTrait,
      Font.adding_eq]
    rfl

end Effect

/-- Strokes have an effect in normal form on each code unit. -/
theorem exists_effect (ks : List Stroke) (u : Nat) :
  ∃ e : Effect, ∀ a, touches ks u a = e.apply a
  := by
  induction ks with
  | nil =>
    use {}
    intro a
    rfl
  | cons k ks ih =>
    obtain ⟨e, he⟩ := ih
    by_cases inside : u ∈ k.span
    · use (Effect.ofStroke k).andThen e
      intro a
      rw [touches_cons, if_pos inside, he, Effect.apply_andThen, Effect.apply_ofStroke]
    · use e
      intro a
      rw [touches_cons, if_neg inside, he]

/-- Strokes made twice are strokes made once. -/
theorem touches_touches (ks : List Stroke) (u : Nat) (a : Attributes) :
  touches ks u (touches ks u a) = touches ks u a
  := by
  obtain ⟨e, he⟩ := exists_effect ks u
  rw [he, he, Effect.apply_apply]

end LiveMarkdown
