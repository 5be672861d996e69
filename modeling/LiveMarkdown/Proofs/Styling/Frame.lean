import LiveMarkdown.Proofs.Styling.Effect
import LiveMarkdown.Styling.Pass

/-!
# What styling leaves alone

Styling is a sequence of writes, each of one attribute in one span.  So it leaves alone
what no write changes: the text and its revision, the code units that no window shows,
and the absence of negative zeros.
-/

namespace LiveMarkdown

/-- The values that a stroke may write into a buffer. -/
def Stroke.Writes (b : Buffer) (v : Attribute) : Stroke → Prop
  | set _ value => v = value
  | layOut _ layout => v = .layout layout
  | addTrait _ body t => ∃ a ∈ b.attributes, v = .font ((a.font.getD body).adding t)

namespace Buffer

/-! ### Strokes as sequences of writes -/

section

variable {P : Buffer → Prop}

theorem layOut_induction {l : Layout} {stop : Nat} (b : Buffer) (i : Nat) (start : P b)
    (write : ∀ b s, (∀ u ∈ s, i ≤ u ∧ u < stop) → P b → P (b.addAttribute s (.layout l))) :
  P (b.layOut l stop i)
  := by
  fun_induction Buffer.layOut b l stop i with
  | case1 => exact start
  | case3 => exact start
  | case2 b i h current run found next b' ih =>
    obtain ⟨-, -, -, after, before, -⟩ := attribute?_spec h found
    apply ih
    · unfold b'
      split
      · exact start
      · apply write b _ _ start
        intro u hu
        simp only [Span.mem_iff] at hu
        omega
    · intro c s inside
      apply write
      intro u hu
      have := inside u hu
      omega

theorem addTrait_induction {body : Font} {t : FontTrait} {stop : Nat} (b : Buffer) (i : Nat)
    (start : P b)
    (write : ∀ b s, (∀ u ∈ s, i ≤ u ∧ u < stop) → P b → ∀ a ∈ b.attributes,
      P (b.addAttribute s (.font ((a.font.getD body).adding t)))) :
  P (b.addTrait body t stop i)
  := by
  fun_induction Buffer.addTrait b body t stop i with
  | case1 => exact start
  | case3 => exact start
  | case2 b i h current run found next old ih =>
    obtain ⟨a, ha, same, after, before, -⟩ := attribute?_spec h found
    have first : old = a.font.getD body := by
      unfold old
      subst same
      rw [Attributes.get?]
      cases a.font <;> rfl
    apply ih
    · rw [first]
      apply write b _ _ start a (Array.mem_of_getElem? ha)
      intro u hu
      simp only [Span.mem_iff] at hu
      omega
    · intro c s inside
      apply write
      intro u hu
      have := inside u hu
      omega

/-- What holds of a buffer and is kept by the writes of a stroke holds after the stroke. -/
theorem stroke_induction {window : Option Span} {k : Stroke} (b : Buffer) (start : P b)
    (write : ∀ b s v, (∀ u ∈ s, u ∈ k.span ∧ Shown window u) → k.Writes b v → P b →
      P (b.addAttribute s v)) :
  P (b.stroke window k)
  := by
  have shown {s : Span} (hs : k.span.visible? window = some s) (u : Nat) (hu : u ∈ s) :
      u ∈ k.span ∧ Shown window u :=
    Span.mem_visible?.mp ⟨s, hs, hu⟩
  cases hv : k.span.visible? window with
  | none => cases k <;> simp only [Stroke.span] at hv <;> simpa only [stroke, hv] using start
  | some s =>
    cases k with
    | set span value =>
      simp only [Stroke.span] at hv
      simp only [stroke, hv]
      exact write b s value (shown hv) rfl start
    | layOut span layout =>
      simp only [Stroke.span] at hv
      simp only [stroke, hv]
      apply layOut_induction b s.start start
      intro c r inside
      apply write c r
      · intro u hu
        exact shown hv u (inside u hu)
      · rfl
    | addTrait span body t =>
      simp only [Stroke.span] at hv
      simp only [stroke, hv]
      apply addTrait_induction b s.start start
      intro c r inside hc a ha
      apply write c r
      · intro u hu
        exact shown hv u (inside u hu)
      · use a
      · exact hc

/-- What holds of a buffer and is kept by the writes of some strokes holds after them. -/
theorem strokes_induction {window : Option Span} {ks : List Stroke} (b : Buffer) (start : P b)
    (write : ∀ k ∈ ks, ∀ b s v, (∀ u ∈ s, u ∈ k.span ∧ Shown window u) → k.Writes b v → P b →
      P (b.addAttribute s v)) :
  P (b.strokes window ks)
  := by
  induction ks generalizing b with
  | nil => exact start
  | cons k ks ih =>
    rw [strokes, List.foldl_cons, ← strokes]
    apply ih
    · apply stroke_induction b start
      apply write k List.mem_cons_self
    · intro l hl
      exact write l (List.mem_cons_of_mem k hl)

end

/-! ### The text -/

/-- The text of a buffer and the number of its revision. -/
def version (b : Buffer) : List Char × UInt64 :=
  (b.chars, b.revision)

theorem length_eq (b : Buffer) :
  b.length = units b.chars
  := b.size_attributes

theorem chars_eq_of_version {b c : Buffer} (h : b.version = c.version) :
  b.chars = c.chars
  := congrArg Prod.fst h

theorem revision_eq_of_version {b c : Buffer} (h : b.version = c.version) :
  b.revision = c.revision
  := congrArg Prod.snd h

theorem length_eq_of_version {b c : Buffer} (h : b.version = c.version) :
  b.length = c.length
  := by
  rw [length_eq, length_eq, chars_eq_of_version h]

@[simp] theorem version_noteAttributes (b : Buffer) (span : Span) :
  (b.noteAttributes span).version = b.version
  := by
  rw [noteAttributes]
  split <;> rfl

@[simp] theorem version_beginBatch (b : Buffer) :
  b.beginBatch.version = b.version
  := rfl

@[simp] theorem version_endBatch (b : Buffer) :
  b.endBatch.version = b.version
  := by
  simp only [endBatch]
  split
  · split
    · simp only [version_noteAttributes]
      rfl
    · rfl
  · rfl

@[simp] theorem version_update (b : Buffer) (span : Span) (f : Attributes → Attributes) :
  (b.update span f).version = b.version
  := by
  rw [update]
  split
  · rfl
  · simp only [version_noteAttributes]
    rfl

@[simp] theorem version_setAttributes (b : Buffer) (span : Span) (a : Attributes) :
  (b.setAttributes span a).version = b.version
  := version_update b span _

@[simp] theorem version_strokes (window : Option Span) (b : Buffer) (ks : List Stroke) :
  (b.strokes window ks).version = b.version
  := by
  apply strokes_induction (P := fun c => c.version = b.version) b rfl
  intro _ _ c s v _ _ same
  rw [addAttribute, version_update, same]

@[simp] theorem length_strokes (window : Option Span) (b : Buffer) (ks : List Stroke) :
  (b.strokes window ks).length = b.length
  := length_eq_of_version (version_strokes window b ks)

@[simp] theorem version_walk (b : Buffer) (text : IndexedText) (style : Style) (base : Nat)
    (window : Option Span) (document : Node) :
  (b.walk text style base window document).version = b.version
  := version_strokes _ _ _

end Buffer

namespace Style

@[simp] theorem version_reset (style : Style) (b : Buffer) :
  (style.reset b).version = b.version
  := by
  rw [reset]
  split <;> simp

@[simp] theorem version_applyAll (style : Style) (b : Buffer) :
  (style.applyAll b).version = b.version
  := by
  rw [applyAll]
  split <;> simp

@[simp] theorem chars_render (style : Style) (cs : List Char) :
  (style.render cs).chars = cs
  := Buffer.chars_eq_of_version (Buffer.version_walk (Buffer.ofText cs style.attributes) _ _ _ _ _)

/-- A part of a buffer is styled unless it is empty, out of order or out of bounds. -/
theorem exists_applyPart?_iff (style : Style) (b : Buffer) (span : Span) :
  (∃ c, style.applyPart? b span = some c) ↔ span.start < span.stop ∧ span.stop ≤ b.length
  := by
  rw [applyPart?, Span.isEmpty]
  by_cases order : span.start < span.stop
  · rw [if_neg (by simpa using order), Buffer.textIn?]
    by_cases inside : span.stop ≤ b.length
    · rw [if_pos ⟨order.le, inside⟩]
      exact iff_of_true ⟨_, rfl⟩ ⟨order, inside⟩
    · rw [if_neg fun both => inside both.2]
      exact iff_of_false nofun fun both => inside both.2
  · rw [if_pos (by simpa using order)]
    exact iff_of_false nofun fun both => order both.1

theorem applyPart?_eq_some {style : Style} {b c : Buffer} {span : Span}
    (h : style.applyPart? b span = some c) :
  ∃ cs, b.textIn? span = some cs
    ∧ c = ((b.beginBatch.setAttributes span style.attributes).walk (ParsedText.ofText cs).text style
      span.start none (ParsedText.ofText cs).document).endBatch
  := by
  rw [applyPart?] at h
  split at h
  · cases h
  · split at h
    · cases h
    · rename_i cs text
      exact ⟨cs, text, (Option.some.inj h).symm⟩

theorem version_applyPart? {style : Style} {b c : Buffer} {span : Span}
    (h : style.applyPart? b span = some c) :
  c.version = b.version
  := by
  obtain ⟨cs, -, rfl⟩ := applyPart?_eq_some h
  simp

end Style

/-! ### Code units that are not shown -/

namespace Buffer

/-- Strokes change nothing outside their spans and their window. -/
theorem getElem?_strokes_of_not_mem {window : Option Span} {ks : List Stroke} {u : Nat}
    (h : ∀ k ∈ ks, ¬ (u ∈ k.span ∧ Shown window u)) (b : Buffer) :
  (b.strokes window ks).attributes[u]? = b.attributes[u]?
  := by
  apply strokes_induction (P := fun c => c.attributes[u]? = b.attributes[u]?) b rfl
  intro k hk c s v inside _ same
  rw [addAttribute, getElem?_update, if_neg (mt (inside u) (h k hk)), same]

/-- Strokes change nothing outside their window. -/
theorem getElem?_strokes_of_not_shown {window : Option Span} {u : Nat} (h : ¬ Shown window u)
    (b : Buffer) (ks : List Stroke) :
  (b.strokes window ks).attributes[u]? = b.attributes[u]?
  := by
  apply getElem?_strokes_of_not_mem
  intro k _ both
  exact h both.2

/-! ### Negative zeros -/

/-- No font of a buffer has a negative zero for a size. -/
def IsCanonical (b : Buffer) : Prop :=
  ∀ a ∈ b.attributes, a.canonical = a

theorem isCanonical_of_attributes {b c : Buffer} (h : c.attributes = b.attributes)
    (hb : b.IsCanonical) :
  c.IsCanonical
  := by
  rw [IsCanonical]
  rw [h]
  exact hb

theorem IsCanonical.update {b : Buffer} (h : b.IsCanonical) {f : Attributes → Attributes}
    (hf : ∀ a, a.canonical = a → (f a).canonical = f a) (span : Span) :
  (b.update span f).IsCanonical
  := by
  intro a ha
  obtain ⟨u, hu⟩ := Array.mem_iff_getElem?.mp ha
  rw [getElem?_update] at hu
  split at hu
  · obtain ⟨old, hold, rfl⟩ := Option.map_eq_some_iff.mp hu
    apply hf
    exact h old (Array.mem_of_getElem? hold)
  · exact h a (Array.mem_of_getElem? hu)

/-- Buffers of the same length without negative zeros are the same if their code units
have the same attributes up to the sign of a size that is zero. -/
theorem IsCanonical.canonicalAt {b : Buffer} (h : b.IsCanonical) (u : Nat) :
  b.canonicalAt u = b.attributes[u]?
  := by
  rw [Buffer.canonicalAt]
  cases ha : b.attributes[u]? with
  | none => rfl
  | some a => rw [Option.map_some, h a (Array.mem_of_getElem? ha)]

theorem IsCanonical.attributes_eq {b c : Buffer} (hb : b.IsCanonical) (hc : c.IsCanonical)
    (h : ∀ u, b.canonicalAt u = c.canonicalAt u) :
  b.attributes = c.attributes
  := by
  apply Array.ext_getElem?
  intro u
  rw [← hb.canonicalAt, ← hc.canonicalAt, h]

theorem IsCanonical.strokes {window : Option Span} {b : Buffer} (h : b.IsCanonical)
    {ks : List Stroke} (hks : ∀ k ∈ ks, k.IsCanonical) :
  (b.strokes window ks).IsCanonical
  := by
  apply strokes_induction b h
  intro k hk c s v _ hv hc
  apply hc.update
  intro a ha
  rw [Attributes.canonical_eq_self_iff] at ha ⊢
  cases k with
  | set span value =>
    obtain rfl := hv
    cases v with
    | font f => exact congrArg some (hks _ hk)
    | _ => exact ha
  | layOut span layout =>
    obtain rfl := hv
    exact ha
  | addTrait span body t =>
    obtain ⟨old, hold, rfl⟩ := hv
    have font := Attributes.canonical_eq_self_iff.mp (hc old hold)
    have missing : body.canonical = body := hks _ hk
    have base : (old.font.getD body).canonical = old.font.getD body := by
      cases hf : old.font with
      | none => exact missing
      | some f => simpa [hf] using font
    change some ((old.font.getD body).adding t).canonical = _
    rw [Font.canonical_adding, base]
    rfl

end Buffer

end LiveMarkdown
