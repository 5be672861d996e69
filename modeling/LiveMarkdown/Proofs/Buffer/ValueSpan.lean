import LiveMarkdown.Proofs.Buffer.Equality

/-!
# The span of a value

A buffer is asked for the value of a key at a position, and for the longest span around the position
that has this value everywhere.  The span lies inside a limit and inside the buffer, and at both its
ends it can go no further: there the limit or the buffer ends, or the next code unit has another
value.  So there is only one such span.
-/

namespace LiveMarkdown

/-! ### Values of a key -/

/-- Attributes agree on a key if they have equal values of it. -/
theorem Attributes.agree_iff (a c : Attributes) (key : AttributeKey) :
  a.agree c key ↔ a.get? key == c.get? key
  := by
  obtain ⟨font, foreground, background, layout, underline, link⟩ := a
  obtain ⟨font', foreground', background', layout', underline', link'⟩ := c
  cases key with
  | font => cases font <;> cases font' <;> exact Iff.rfl
  | foreground => cases foreground <;> cases foreground' <;> exact Iff.rfl
  | background => cases background <;> cases background' <;> exact Iff.rfl
  | layout => cases layout <;> cases layout' <;> exact Iff.rfl
  | underline => cases underline <;> cases underline' <;> exact Iff.rfl
  | link => cases link <;> cases link' <;> exact Iff.rfl

/-- Attributes without undefined numbers agree with themselves. -/
theorem Attributes.HasNumbers.agree_self {a : Attributes} (h : a.HasNumbers) (key : AttributeKey) :
  a.agree a key
  := by
  obtain ⟨font, -, -, layout, -, -⟩ := (Attributes.beq_iff a a).mp h.beq_self
  cases key with
  | font => exact font
  | layout => exact layout
  | foreground | background | underline | link => exact beq_self_eq_true _

namespace Buffer

/-! ### The scan to the left -/

/-- All entries from the start of a run on agree with its first one, and the entry before them does
not, unless the run starts at the floor. -/
theorem runStart_spec (as : Array Attributes) (a : Attributes) (key : AttributeKey) {floor i : Nat}
    (h : floor ≤ i) :
  floor ≤ runStart as a key floor i ∧ runStart as a key floor i ≤ i
    ∧ (∀ u, runStart as a key floor i ≤ u → u < i → ∃ c ∈ as[u]?, c.agree a key)
    ∧ (floor < runStart as a key floor i →
      ∀ c ∈ as[runStart as a key floor i - 1]?, ¬ c.agree a key)
  := by
  fun_induction runStart as a key floor i with
  | case1 => exact ⟨h, le_rfl, by omega, by omega⟩
  | case2 i agrees ih =>
    obtain ⟨inside, any⟩ := agrees
    obtain ⟨lower, upper, same, before⟩ := ih inside
    refine ⟨lower, by omega, ?_, before⟩
    intro u hu hi
    by_cases last : u = i
    · obtain rfl := last
      cases hc : as[u]? with
      | none =>
        rw [hc] at any
        cases any
      | some c =>
        rw [hc] at any
        exact ⟨c, rfl, any⟩
    · exact same u hu (by omega)
  | case3 i differs =>
    refine ⟨h, le_rfl, by omega, ?_⟩
    intro above c hc agree
    rw [Nat.add_sub_cancel] at hc
    apply differs
    refine ⟨Nat.le_of_lt_succ above, ?_⟩
    rw [Option.mem_def.mp hc]
    exact agree

/-! ### The longest span -/

/-- A span is the longest one around a position inside a limit where a key has some value. -/
structure IsValueSpan (b : Buffer) (key : AttributeKey) (position : Nat) (limit : Span)
    (value : Option Attribute) (s : Span) : Prop where
  /-- The value is that of the position. -/
  here : ∃ a ∈ b.attributes[position]?, a.get? key = value
  /-- The position is in the span. -/
  mem : position ∈ s
  /-- The span lies inside the limit and inside the buffer. -/
  inside : limit.start ≤ s.start ∧ s.stop ≤ limit.stop ∧ s.stop ≤ b.length
  /-- All code units of the span have the value. -/
  same : ∀ u ∈ s, ∃ a ∈ b.attributes[u]?, a.get? key == value
  /-- The limit starts with the span, or the code unit before the span has another value. -/
  before : s.start = limit.start ∨ ∃ a ∈ b.attributes[s.start - 1]?, ¬ a.get? key == value
  /-- The limit or the buffer stops with the span, or the code unit after it has another value. -/
  after : s.stop = limit.stop ∨ s.stop = b.length
    ∨ ∃ a ∈ b.attributes[s.stop]?, ¬ a.get? key == value

namespace IsValueSpan

variable {b : Buffer} {key : AttributeKey} {position : Nat} {limit : Span}
  {value value' : Option Attribute} {s s' : Span}

theorem value_unique (h : b.IsValueSpan key position limit value s)
    (h' : b.IsValueSpan key position limit value' s') :
  value = value'
  := by
  obtain ⟨a, ha, rfl⟩ := h.here
  obtain ⟨a', ha', rfl⟩ := h'.here
  rw [Option.some.inj (ha.symm.trans ha')]

/-- No code unit of a span has another value. -/
theorem not_differs (h : b.IsValueSpan key position limit value s) {u : Nat} (hu : u ∈ s) :
  ¬ ∃ a ∈ b.attributes[u]?, ¬ a.get? key == value
  := by
  rintro ⟨a, ha, differs⟩
  obtain ⟨a', ha', same⟩ := h.same u hu
  obtain rfl := Option.some.inj (Eq.symm ha |>.trans ha')
  exact differs same

/-- A span does not start before another one: the code unit before that one has the same value. -/
theorem start_le (h : b.IsValueSpan key position limit value s)
    (h' : b.IsValueSpan key position limit value s') :
  s'.start ≤ s.start
  := by
  by_contra longer
  obtain ⟨-, stop⟩ := h.mem
  obtain ⟨start', -⟩ := h'.mem
  have floor := h.inside.1
  rcases h'.before with limit | differs
  · omega
  · have mem : s'.start - 1 ∈ s := Span.mem_iff.mpr ⟨by omega, by omega⟩
    exact h.not_differs mem differs

/-- A span does not stop after another one: the code unit after that one has the same value. -/
theorem stop_le (h : b.IsValueSpan key position limit value s)
    (h' : b.IsValueSpan key position limit value s') :
  s.stop ≤ s'.stop
  := by
  by_contra longer
  obtain ⟨start, -⟩ := h.mem
  obtain ⟨-, stop'⟩ := h'.mem
  obtain ⟨-, ceiling, length⟩ := h.inside
  rcases h'.after with limit | last | differs
  · omega
  · omega
  · have mem : s'.stop ∈ s := Span.mem_iff.mpr ⟨by omega, by omega⟩
    exact h.not_differs mem differs

theorem unique (h : b.IsValueSpan key position limit value s)
    (h' : b.IsValueSpan key position limit value' s') :
  value = value' ∧ s = s'
  := by
  obtain rfl := h.value_unique h'
  refine ⟨rfl, congrArg₂ Span.mk ?_ ?_⟩
  · exact Nat.le_antisymm (h'.start_le h) (h.start_le h')
  · exact Nat.le_antisymm (h.stop_le h') (h'.stop_le h)

end IsValueSpan

variable {b : Buffer} {key : AttributeKey} {position : Nat} {limit : Span}

/-- What a buffer answers is the longest span of the value at the position. -/
theorem isValueSpan_of_mem (hp : position ∈ limit) {a : Attributes}
    (ha : b.attributes[position]? = some a) (self : a.agree a key) :
  b.IsValueSpan key position limit (a.get? key)
    ⟨runStart b.attributes a key limit.start position,
      runStop b.attributes a key (min limit.stop b.length) (position + 1)⟩
  := by
  obtain ⟨floor, left, agree, before⟩ := runStart_spec b.attributes a key hp.1
  obtain ⟨right, ceiling, agree'⟩ :=
    runStop_spec b.attributes a key (min limit.stop b.length) (position + 1)
  have length : position < b.length := (Array.getElem?_eq_some_iff.mp ha).1
  have below := hp.2
  have found {u : Nat} (hu : u < b.length) : ∃ c, b.attributes[u]? = some c :=
    ⟨_, Array.getElem?_eq_getElem hu⟩
  simp only [Attributes.agree_iff] at agree agree' before
  refine ⟨⟨a, ha, rfl⟩, ⟨left, right⟩, ⟨floor, by dsimp only; omega, by dsimp only; omega⟩, ?_, ?_, ?_⟩
  · rintro u ⟨start, stop⟩
    rcases Nat.lt_trichotomy u position with earlier | rfl | later
    · exact agree u start earlier
    · exact ⟨a, ha, (Attributes.agree_iff a a key).mp self⟩
    · obtain ⟨c, hc⟩ := found (u := u) (by dsimp only at stop; omega)
      exact ⟨c, hc, agree' u later stop c hc⟩
  · dsimp only
    by_cases first : limit.start < runStart b.attributes a key limit.start position
    · obtain ⟨c, hc⟩ := found (u := runStart b.attributes a key limit.start position - 1) (by omega)
      exact .inr ⟨c, hc, before first c hc⟩
    · exact .inl (by omega)
  · dsimp only
    by_cases short : runStop b.attributes a key (min limit.stop b.length) (position + 1)
        < min limit.stop b.length
    · obtain ⟨c, hc⟩ := found (short.trans_le (Nat.min_le_right _ _))
      have differs := mt (Attributes.agree_iff c a key).mpr (runStop_maximal short hc)
      exact .inr (.inr ⟨c, hc, differs⟩)
    · omega

/-- A buffer answers if the position is in the limit and in the buffer.  If no number is undefined
at the position, the answer is the value there and the longest span around it that has this value
everywhere. -/
theorem attribute?_valueSpan (b : Buffer) (key : AttributeKey) (position : Nat) (limit : Span) :
  (b.attribute? key position limit = none ↔ position ∉ limit ∨ b.length ≤ position)
    ∧ ((∀ a ∈ b.attributes[position]?, a.HasNumbers) → ∀ value s,
      b.attribute? key position limit = some (value, s) ↔ b.IsValueSpan key position limit value s)
  := by
  rw [attribute?]
  by_cases hp : position ∈ limit
  · rw [if_pos hp]
    cases ha : b.attributes[position]? with
    | none =>
      have outside : b.length ≤ position := Array.getElem?_eq_none_iff.mp ha
      refine ⟨iff_of_true rfl (.inr outside), ?_⟩
      intro _ value s
      refine iff_of_false (Option.some_ne_none _).symm ?_
      intro h
      obtain ⟨a, found, -⟩ := h.here
      rw [ha] at found
      cases found
    | some a =>
      have length : position < b.length := (Array.getElem?_eq_some_iff.mp ha).1
      refine ⟨iff_of_false (Option.some_ne_none _) ?_, ?_⟩
      · exact not_or.mpr ⟨not_not_intro hp, Nat.not_le_of_lt length⟩
      intro numbers value s
      have longest := isValueSpan_of_mem hp ha ((numbers a rfl).agree_self key)
      rw [Option.map_some, Option.some.injEq, Prod.mk.injEq]
      constructor
      · rintro ⟨rfl, rfl⟩
        exact longest
      · exact longest.unique
  · rw [if_neg hp]
    refine ⟨iff_of_true rfl (.inl hp), ?_⟩
    intro _ value s
    refine iff_of_false (Option.some_ne_none _).symm ?_
    intro h
    obtain ⟨start, stop⟩ := h.mem
    obtain ⟨floor, ceiling, -⟩ := h.inside
    exact hp ⟨by omega, by omega⟩

/-- A layout with a negative zero, which is equal to the one before it with a positive zero.  It goes
on behind the limit. -/
theorem attribute?_valueSpan_zeros :
  let b := ((ofText "ab😀c".toList {}).addAttribute ⟨1, 2⟩ (.layout ⟨0, 0, 12, 12, 4⟩)).addAttribute
    ⟨2, 4⟩ (.layout ⟨-0, 0, 12, 12, 4⟩)
  (∀ a ∈ b.attributes[2]?, a.HasNumbers)
    ∧ (b.attribute? .layout 2 ⟨0, 3⟩ = none ↔ 2 ∉ Span.mk 0 3 ∨ b.length ≤ 2)
    ∧ (∀ value s,
      b.attribute? .layout 2 ⟨0, 3⟩ = some (value, s) ↔ b.IsValueSpan .layout 2 ⟨0, 3⟩ value s)
    ∧ (b.attribute? .layout 2 ⟨0, 3⟩).map Prod.snd = some ⟨1, 3⟩
  := by
  intro b
  have numbers : ∀ a ∈ b.attributes[2]?, a.HasNumbers := by decide +kernel
  obtain ⟨outside, spans⟩ := attribute?_valueSpan b .layout 2 ⟨0, 3⟩
  exact ⟨numbers, outside, spans numbers, by decide +kernel⟩

end Buffer

end LiveMarkdown
