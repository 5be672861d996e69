import LiveMarkdown.Proofs.Styling.Visits

/-!
# The font of a code unit

A document changes the font of a code unit node by node: a heading and a code span replace
it, strong emphasis and emphasis add a trait to it between their delimiters, and no other
node has to do with it.  The font that a code unit has in the end is the one that it had
before, changed by all nodes in the order in which they are visited.
-/

namespace LiveMarkdown

/-- A span without its first and its last `n` positions. -/
def Span.interior (n : Nat) (s : Span) : Span :=
  ⟨s.start + n, s.stop - n⟩

namespace Canvas

variable {c : Canvas} {e : Extent}

/-- What a node makes of the font of a code unit, if it has one. -/
def restyleFont (c : Canvas) (u : Nat) (font : Option Font) (n : Node) : Option Font :=
  match c.extent? n with
  | none => font
  | some e =>
    let body := c.style.profile.body
    match n.kind with
    | .heading level => if u ∈ e.units then some (c.style.headingFont level) else font
    | .inlineCode => if u ∈ e.units then some c.style.profile.mono else font
    | .strong => if u ∈ e.units.interior 2 then some ((font.getD body).adding .bold) else font
    | .emphasis => if u ∈ e.units.interior 1 then some ((font.getD body).adding .italic) else font
    | _ => font

/-! ### The strokes of each kind of node -/

theorem font_heading (level u : Nat) (a : Attributes) :
  (touches (c.heading level e) u a).font
    = if u ∈ e.units then some (c.style.headingFont level) else a.font
  := by
  have does : Stroke.Does Attributes.font (fun _ => some (c.style.headingFont level)) e.units
      (.set e.units (.font (c.style.headingFont level))) := ⟨rfl, fun _ => rfl⟩
  apply touches_of_does (g := fun _ => some (c.style.headingFont level)) (fun _ => rfl)
  · intro k hk
    rcases mem_heading hk with rfl | rfl | key
    · left
      apply does
    · right
      apply Stroke.keeps_font (by simp)
    · right
      apply Stroke.keeps_font (by simp [key])
  · refine ⟨_, ?_, does⟩
    simp [heading]

theorem font_code (u : Nat) (a : Attributes) :
  (touches (c.code e) u a).font = if u ∈ e.units then some c.style.profile.mono else a.font
  := by
  have does : Stroke.Does Attributes.font (fun _ => some c.style.profile.mono) e.units
      (.set e.units (.font c.style.profile.mono)) := ⟨rfl, fun _ => rfl⟩
  apply touches_of_does (g := fun _ => some c.style.profile.mono) (fun _ => rfl)
  · intro k hk
    rcases mem_code hk with rfl | key | key
    · left
      apply does
    · right
      apply Stroke.keeps_font (by simp [key])
    · right
      apply Stroke.keeps_font (by simp [key])
  · refine ⟨_, ?_, does⟩
    simp [code]

theorem font_emphasis (n : Nat) (t : FontTrait) (u : Nat) (a : Attributes) :
  (touches (c.emphasis n t e) u a).font
    = if u ∈ e.units.interior n then some ((a.font.getD c.style.profile.body).adding t) else a.font
  := by
  have does : Stroke.Does Attributes.font
      (fun font => some ((font.getD c.style.profile.body).adding t)) (e.units.interior n)
      (.addTrait (e.units.interior n) c.style.profile.body t) := ⟨rfl, fun _ => rfl⟩
  have each (k : Stroke) (hk : k ∈ c.emphasis n t e) :
      k = .addTrait (e.units.interior n) c.style.profile.body t ∨ k.Keeps Attributes.font := by
    apply (mem_emphasis hk).imp_right
    intro key
    apply Stroke.keeps_font (by simp [key])
  by_cases wide : 2 * n < e.units.length
  · apply touches_of_does (g := fun font => some ((font.getD c.style.profile.body).adding t))
    · intro font
      cases t <;> rfl
    · intro k hk
      apply (each k hk).imp_left
      rintro rfl
      apply does
    · refine ⟨_, ?_, does⟩
      simp [emphasis, wide, Span.interior]
  · -- nothing is between the delimiters
    have outside : u ∉ e.units.interior n := by
      simp only [Span.mem_iff, Span.interior, Span.length] at *
      omega
    rw [if_neg outside]
    apply touches_of_keeps
    intro k hk
    rcases each k hk with rfl | keeps
    · simp only [emphasis, wide, if_false, List.nil_append, List.mem_map, markup, reduceCtorEq,
        and_false, exists_const] at hk
    · apply keeps

theorem font_paragraph (depth u : Nat) (a : Attributes) :
  (touches (c.paragraph depth e) u a).font = a.font
  := by
  apply touches_of_keeps
  intro k hk
  obtain ⟨-, rfl⟩ := mem_paragraph.mp hk
  apply Stroke.keeps_font (by simp)

theorem font_quote (depth u : Nat) (a : Attributes) :
  (touches (c.quote depth e) u a).font = a.font
  := by
  apply touches_of_keeps
  intro k hk
  apply Stroke.keeps_font
  rcases mem_quote hk with rfl | key
  · simp
  · simp [key]

theorem font_item (depth u : Nat) (a : Attributes) :
  (touches (c.item depth e) u a).font = a.font
  := by
  apply touches_of_keeps
  intro k hk
  apply Stroke.keeps_font
  rcases mem_item hk with rfl | key
  · simp
  · simp [key]

theorem font_link (destination : String) (u : Nat) (a : Attributes) :
  (touches (c.link destination e) u a).font = a.font
  := by
  apply touches_of_keeps
  intro k hk
  apply Stroke.keeps_font
  rcases mem_link hk with key | key | key <;> simp [key]

/-- What the strokes of a node make of the font of a code unit. -/
theorem font_strokesAt (v : Visit) (u : Nat) (a : Attributes) :
  (touches (c.strokesAt v) u a).font = c.restyleFont u a.font v.node
  := by
  rw [strokesAt, restyleFont]
  cases c.extent? v.node with
  | none => rfl
  | some e =>
    dsimp only
    cases v.node.kind with
    | heading level => exact font_heading level u a
    | paragraph => exact font_paragraph _ u a
    | blockQuote => exact font_quote _ u a
    | listItem => exact font_item _ u a
    | strong => exact font_emphasis 2 .bold u a
    | emphasis => exact font_emphasis 1 .italic u a
    | inlineCode => exact font_code u a
    | link destination => exact font_link destination u a
    | _ => rfl

end Canvas

/-! ### Fonts without negative zeros -/

/-- A stroke keeps sizes from being negative zeros. -/
theorem Stroke.IsCanonical.touch {k : Stroke} (h : k.IsCanonical) {a : Attributes}
    (ha : a.canonical = a) :
  (k.touch a).canonical = k.touch a
  := by
  rw [Attributes.canonical_eq_self_iff] at ha ⊢
  cases k with
  | set span value =>
    cases value with
    | font f => apply congrArg some h
    | _ => apply ha
  | layOut span layout => rwa [keeps_font (by simp)]
  | addTrait span body t =>
    have font : (a.font.getD body).canonical = a.font.getD body := by
      cases hf : a.font with
      | none => apply h
      | some f => simpa [hf] using ha
    apply congrArg some
    rw [Font.canonical_adding, font]

theorem touches_canonical {ks : List Stroke} (h : ∀ k ∈ ks, k.IsCanonical) (u : Nat)
    {a : Attributes} (ha : a.canonical = a) :
  (touches ks u a).canonical = touches ks u a
  := by
  induction ks generalizing a with
  | nil => apply ha
  | cons k ks ih =>
    rw [List.forall_mem_cons] at h
    rw [touches_cons]
    apply ih h.2
    split
    · apply h.1.touch ha
    · apply ha

theorem Canvas.strokesOfVisits_isCanonical {c : Canvas} (h : c.style.HasNoNegativeZero)
    (vs : List Visit) :
  ∀ k ∈ c.strokesOfVisits vs, k.IsCanonical
  := by
  intro k hk
  obtain ⟨v, -, hk⟩ := List.mem_flatMap.mp hk
  rw [strokesAt] at hk
  split at hk
  · apply own_isCanonical h _ _ _ k hk
  · cases hk

namespace Buffer

/-! ### The font after a walk -/

/-- The font of a code unit after a document has been walked is the font that it had before,
changed by the nodes of the document one after the other, each before the nodes inside it. -/
theorem font_walk (b : Buffer) (text : IndexedText) (style : Style) (base : Nat)
    (document : Node) (plain : document.HasPlainCode) (sizes : style.HasNoNegativeZero)
    (hb : b.IsCanonical) (u : Nat) :
  (b.walk text style base none document).attributes[u]?.map Attributes.font
    = b.attributes[u]?.map fun a =>
      document.descendants.foldl ((b.canvas text style base).restyleFont u) a.font
  := by
  have after : (b.walk text style base none document).IsCanonical := by
    apply hb.strokes
    apply Canvas.strokes_isCanonical sizes
  rw [← after.canonicalAt, canonicalAt_walk_none b text style base plain, hb.canonicalAt,
    Option.map_map]
  apply Option.map_congr
  intro a ha
  have font := Canvas.touches_strokesOfVisits (c := b.canvas text style base) (u := u)
    (g := fun font v => (b.canvas text style base).restyleFont u font v.node)
    (fun v a => Canvas.font_strokesAt v u a) (document.visits []) a
  have canonical := touches_canonical
    (Canvas.strokesOfVisits_isCanonical (c := b.canvas text style base) sizes (document.visits []))
    u (hb a (Array.mem_of_getElem? ha))
  rw [Function.comp_apply, canonical, font, ← Node.map_node_visits [] document, List.foldl_map]

/-- A heading with emphasis and a code span, over a text without any fonts. -/
theorem font_walk_heading :
  let cs := "# *a* `b`".toList
  let b := ofText cs {}
  let document := (ParsedText.ofText cs).document
  document.HasPlainCode ∧ Style.standard.HasNoNegativeZero ∧ b.IsCanonical
    ∧ ∀ u, (b.walk (IndexedText.ofText cs) Style.standard 0 none document).attributes[u]?.map
        Attributes.font
      = b.attributes[u]?.map fun a =>
        document.descendants.foldl
          ((b.canvas (IndexedText.ofText cs) Style.standard 0).restyleFont u) a.font
  := by
  intro cs b document
  have plain : document.HasPlainCode := by decide +kernel
  have sizes : Style.standard.HasNoNegativeZero := by decide +kernel
  have hb : b.IsCanonical := by
    intro a ha
    rw [(Array.mem_replicate.mp ha).2]
    rfl
  refine ⟨plain, sizes, hb, ?_⟩
  intro u
  apply font_walk b _ _ _ document plain sizes hb u

end Buffer

end LiveMarkdown
