import LiveMarkdown.Proofs.Markdown.Nodes
import LiveMarkdown.Proofs.Styling.Pairs
import LiveMarkdown.Proofs.Text.Ascii

/-!
# Styling keeps characters whole

Where a stroke starts or stops is found by counting code units from the ends of a node, one
for each character of its marks.  The marks belong to ASCII, so that a character starts
wherever the counting ends, and both code units of a character beyond the basic plane get the
same attributes.

There is one exception.  A heading that has an underline needs no number signs, but when its
text happens to begin with one, as many code units are dimmed as there would be number signs
and a space.  They may end in the middle of a character, whose code units then differ in
their color.
-/

namespace LiveMarkdown

open Markdown
open String (utf8Len utf8EncodeChar)

/-! ### Markers of list items -/

theorem utf8Size_of_ascii {c : Char} (h : c.toNat < 0x80) :
  c.utf8Size = 1
  := by
  rw [Char.utf8Size_eq_one_iff]
  apply Nat.le_of_lt_succ h

/-- A character of ASCII is one byte and one code unit. -/
theorem length_of_ascii {cs : List Char} (h : ∀ c ∈ cs, c.toNat < 0x80) :
  utf8Len cs = cs.length ∧ units cs = cs.length
  := by
  induction cs with
  | nil => exact ⟨rfl, rfl⟩
  | cons c cs ih =>
    rw [List.forall_mem_cons] at h
    obtain ⟨bytes, length⟩ := ih h.2
    have size := utf8Size_of_ascii h.1
    rw [String.utf8Len_cons, units_cons, bytes, length, size, unitLength_of_utf8Size size,
      List.length_cons]
    omega

theorem ascii_of_isDigit {c : Char} (h : c.isDigit) :
  c.toNat < 0x80
  := by
  unfold Char.isDigit at h
  rw [Bool.and_eq_true, decide_eq_true_eq, decide_eq_true_eq] at h
  apply Nat.lt_of_le_of_lt h.2
  decide

/-- The characters of a marker belong to ASCII. -/
theorem markerLength_spec (cs : List Char) :
  ∃ ms rest, cs = ms ++ rest ∧ ms.length = markerLength cs ∧ ∀ c ∈ ms, c.toNat < 0x80
  := by
  unfold markerLength
  split
  next c rest =>
    split
    next box =>
      refine ⟨['-', ' ', '[', c, ']', ' '], rest, rfl, rfl, ?_⟩
      rcases box with rfl | rfl | rfl <;> simp
    next => exact ⟨['-', ' '], _, rfl, rfl, by simp⟩
  next rest _ => exact ⟨['-', ' '], rest, rfl, rfl, by simp⟩
  next rest => exact ⟨['*', ' '], rest, rfl, rfl, by simp⟩
  next rest => exact ⟨['+', ' '], rest, rfl, rfl, by simp⟩
  next =>
    extract_lets digits
    have split := List.prefix_iff_eq_append.mp (List.takeWhile_prefix (l := cs) Char.isDigit)
    have ascii : ∀ c ∈ cs.takeWhile Char.isDigit, c.toNat < 0x80 :=
      fun c hc => ascii_of_isDigit (List.all_eq_true.mp List.all_takeWhile c hc)
    split
    · exact ⟨[], cs, rfl, rfl, by simp⟩
    · split
      next rest hrest =>
        refine ⟨cs.takeWhile Char.isDigit ++ ['.', ' '], rest, ?_, by simp [digits], ?_⟩
        · rw [List.append_assoc]
          apply (hrest ▸ split).symm
        · rw [List.forall_mem_append]
          exact ⟨ascii, by simp⟩
      next rest _ hrest =>
        refine ⟨cs.takeWhile Char.isDigit ++ ['.'], rest, ?_, by simp [digits], ?_⟩
        · rw [List.append_assoc]
          apply (hrest ▸ split).symm
        · rw [List.forall_mem_append]
          exact ⟨ascii, by simp⟩
      next => exact ⟨[], cs, rfl, rfl, by simp⟩

namespace Canvas

variable {c : Canvas} {cs : List Char}

/-! ### Where characters start -/

/-- A character of the text starts at a position of the buffer, or the text ends there. -/
def IsBorder (c : Canvas) (u : Nat) : Prop :=
  ∃ byte, c.unitAt? byte = some u

theorem IsBorder.min {u v : Nat} (hu : c.IsBorder u) (hv : c.IsBorder v) :
  c.IsBorder (min u v)
  := by
  rcases Nat.le_total u v with order | order
  · rw [Nat.min_eq_left order]
    apply hu
  · rw [Nat.min_eq_right order]
    apply hv

theorem IsBorder.max {u v : Nat} (hu : c.IsBorder u) (hv : c.IsBorder v) :
  c.IsBorder (max u v)
  := by
  rcases Nat.le_total u v with order | order
  · rw [Nat.max_eq_right order]
    apply hv
  · rw [Nat.max_eq_left order]
    apply hu

/-- The middle of a character is no border. -/
theorem IsBorder.ne {xs zs : List Char} {d : Char}
    (hc : c.text = IndexedText.ofText (xs ++ d :: zs)) (hd : unitLength d = 2) {u : Nat}
    (h : c.IsBorder u) :
  u ≠ units xs + 1 + c.base
  := by
  obtain ⟨byte, hbyte⟩ := h
  rw [unitAt?, hc] at hbyte
  obtain ⟨v, hv, rfl⟩ := Option.map_eq_some_iff.mp hbyte
  have other := OffsetTable.unitAt?_ne hd hv
  omega

/-- A byte of the source that belongs to ASCII is a byte of the encoded text. -/
theorem getElem?_of_isAscii {i : Nat} (h : (Source.ofString (String.ofList cs)).IsAscii i) :
  ∃ b : UInt8, (cs.flatMap utf8EncodeChar)[i]? = some b ∧ b.toNat < 0x80
  := by
  obtain ⟨d, hd, ascii⟩ := h
  have bytes : (String.ofList cs).toUTF8 = (cs.flatMap utf8EncodeChar).toByteArray :=
    String.toByteArray_ofList
  unfold Source.get? Source.whole Source.ofString at hd
  rw [bytes] at hd
  dsimp only at hd
  split at hd
  next inside =>
    cases hd
    refine ⟨_, ?_, ascii⟩
    rw [List.getElem_toByteArray]
    apply List.getElem?_eq_getElem
  next => cases hd

theorem utf8Len_le_of_get? {i : Nat} (h : (Source.ofString (String.ofList cs)).get? i = none) :
  utf8Len cs ≤ i
  := by
  have size : (String.ofList cs).toUTF8.size = utf8Len cs := String.utf8ByteSize_ofList cs
  unfold Source.get? Source.ofString at h
  rw [← size]
  by_contra inside
  have inside : i < (String.ofList cs).toUTF8.size := Nat.lt_of_not_le inside
  rw [if_pos inside, dif_pos inside] at h
  cases h

theorem le_utf8Len_of_unitAt? (hc : c.text = IndexedText.ofText cs) {i u : Nat}
    (h : c.unitAt? i = some u) :
  i ≤ utf8Len cs
  := by
  unfold unitAt? at h
  obtain ⟨v, hv, -⟩ := Option.map_eq_some_iff.mp h
  apply (OffsetTable.isSome_unitAt? cs i).mp
  rw [hc] at hv
  apply Option.isSome_of_eq_some hv

/-- A byte of ASCII is one code unit. -/
theorem unitAt?_of_isAscii (hc : c.text = IndexedText.ofText cs) {i : Nat}
    (h : (Source.ofString (String.ofList cs)).IsAscii i) :
  ∃ u, c.unitAt? i = some u ∧ c.unitAt? (i + 1) = some (u + 1)
  := by
  obtain ⟨b, hb, ascii⟩ := getElem?_of_isAscii h
  obtain ⟨u, here, next⟩ := OffsetTable.unitAt?_of_ascii hb ascii
  have table : c.text.table = OffsetTable.ofText cs := by
    rw [hc]
    rfl
  unfold unitAt?
  rw [table, here, next]
  refine ⟨u + c.base, rfl, ?_⟩
  rw [Option.map_some, Nat.add_right_comm]

/-- As many bytes of ASCII are as many code units, counted from the first one. -/
theorem unitAt?_add (hc : c.text = IndexedText.ofText cs) {i n u : Nat}
    (h : (Source.ofString (String.ofList cs)).AreAscii ⟨i, i + n⟩) (hu : c.unitAt? i = some u) :
  c.unitAt? (i + n) = some (u + n)
  := by
  induction n with
  | zero => apply hu
  | succ n ih =>
    have before := ih (h.mono (Nat.le_refl i) (Nat.le_succ _))
    have ascii := h (i + n) ⟨Nat.le_add_right i n, Nat.lt_succ_self (i + n)⟩
    obtain ⟨v, here, next⟩ := unitAt?_of_isAscii hc ascii
    rw [before] at here
    cases here
    apply next

/-- As many bytes of ASCII are as many code units, counted from the last one. -/
theorem unitAt?_sub (hc : c.text = IndexedText.ofText cs) {n stop u : Nat} (le : n ≤ stop)
    (h : (Source.ofString (String.ofList cs)).AreAscii ⟨stop - n, stop⟩)
    (hu : c.unitAt? stop = some u) :
  c.unitAt? (stop - n) = some (u - n)
  := by
  induction n with
  | zero => apply hu
  | succ n ih =>
    have after := ih (by omega) (h.mono (by dsimp only; omega) (Nat.le_refl stop))
    have ascii := h (stop - (n + 1)) ⟨Nat.le_refl _, by dsimp only; omega⟩
    obtain ⟨v, here, next⟩ := unitAt?_of_isAscii hc ascii
    have same : stop - (n + 1) + 1 = stop - n := by omega
    rw [same, after] at next
    rw [here]
    have := Option.some.inj next
    congr 1
    omega

/-! ### Strokes between characters -/

/-- A stroke starts and stops between characters. -/
structure IsAligned (c : Canvas) (k : Stroke) : Prop where
  /-- The start. -/
  start : c.IsBorder k.span.start
  /-- The stop. -/
  stop : c.IsBorder k.span.stop

variable {e : Extent} {k : Stroke} {depth n : Nat}

/-- A stroke between characters does not cut one. -/
theorem IsAligned.not_cuts {xs zs : List Char} {d : Char} (h : c.IsAligned k)
    (hc : c.text = IndexedText.ofText (xs ++ d :: zs)) (hd : unitLength d = 2) :
  ¬ k.Cuts (units xs + 1 + c.base)
  := by
  rintro (start | stop)
  · apply h.start.ne hc hd start
  · apply h.stop.ne hc hd stop

theorem Located.isBorder_start (he : c.Located e) :
  c.IsBorder e.units.start
  := ⟨_, he.start⟩

theorem Located.isBorder_stop (he : c.Located e) :
  c.IsBorder e.units.stop
  := ⟨_, he.stop⟩

theorem Located.isAligned (he : c.Located e) (h : k.span = e.units) :
  c.IsAligned k
  := by
  refine ⟨?_, ?_⟩ <;> rw [h]
  · apply he.isBorder_start
  · apply he.isBorder_stop

/-- The number signs of a heading and the character after them are as many code units. -/
theorem isBorder_of_isNumbered (hc : c.text = IndexedText.ofText cs) (he : c.Located e)
    {level : Nat} (h : (Source.ofString (String.ofList cs)).IsNumbered level e.bytes.start)
    (fits : level + 1 ≤ e.units.length) :
  c.IsBorder (e.units.start + (level + 1))
  := by
  have signs := unitAt?_add hc h.signs he.start
  cases next : (Source.ofString (String.ofList cs)).get? (e.bytes.start + level) with
  | some d =>
    have ascii := Source.isAscii_of_get? next (h.next d next)
    obtain ⟨u, here, after⟩ := unitAt?_of_isAscii hc ascii
    rw [signs] at here
    cases here
    exact ⟨_, after⟩
  | none =>
    -- the text would end with the number signs
    have beyond := utf8Len_le_of_get? next
    have inside := le_utf8Len_of_unitAt? hc he.stop
    have order := unitAt?_mono hc (by omega) he.stop signs
    unfold Span.length at fits
    omega

theorem heading_aligned (hc : c.text = IndexedText.ofText cs) (he : c.Located e) {level : Nat}
    (marked : (Source.ofString (String.ofList cs)).IsMarked e.bytes (.heading level))
    (hk : k ∈ c.heading level e) :
  c.IsAligned k ∨ ((c.chars e).head? = some '#' ∧ level + 1 ≤ e.units.length)
    ∧ (Source.ofString (String.ofList cs)).IsUnderlined level e.bytes.stop
    ∧ k = c.markup ⟨e.units.start, e.units.start + (level + 1)⟩
  := by
  rcases List.mem_append.mp hk with hk | hk
  · simp only [List.mem_cons, List.not_mem_nil, or_false] at hk
    left
    rcases hk with rfl | rfl | rfl <;> apply he.isAligned rfl
  · split at hk
    next signs =>
      obtain rfl := List.mem_singleton.mp hk
      rcases marked with numbered | underlined
      · left
        exact ⟨he.isBorder_start, isBorder_of_isNumbered hc he numbered signs.2⟩
      · right
        exact ⟨signs, underlined, rfl⟩
    next => cases hk

theorem paragraph_aligned (he : c.Located e) (hk : k ∈ c.paragraph depth e) :
  c.IsAligned k
  := by
  unfold paragraph at hk
  split at hk
  next => cases hk
  next =>
    obtain rfl := List.mem_singleton.mp hk
    apply he.isAligned rfl

theorem quote_aligned (he : c.Located e) (hk : k ∈ c.quote depth e) :
  c.IsAligned k
  := by
  rcases List.mem_append.mp hk with hk | hk
  · simp only [List.mem_cons, List.not_mem_nil, or_false] at hk
    rcases hk with rfl | rfl <;> apply he.isAligned rfl
  · obtain ⟨marker, -, hk⟩ := List.mem_filterMap.mp hk
    obtain ⟨start, hstart, hk⟩ := Option.bind_eq_some_iff.mp hk
    obtain ⟨stop, hstop, rfl⟩ := Option.map_eq_some_iff.mp hk
    exact ⟨⟨_, hstart⟩, ⟨_, hstop⟩⟩

/-- Characters of ASCII in the text of a node, after others, are as many code units. -/
theorem isBorder_of_chars (hc : c.text = IndexedText.ofText cs) {lead marker rest : List Char}
    (h : c.chars e = lead ++ (marker ++ rest)) (found : marker ≠ [])
    (ascii : ∀ d ∈ lead ++ marker, d.toNat < 0x80) {start : Nat}
    (hstart : c.unitAt? (e.bytes.start + lead.length) = some start) :
  c.IsBorder (start + marker.length)
  := by
  have cut : c.text.slice? e.bytes = some (lead ++ (marker ++ rest)) := by
    unfold chars at h
    cases hs : c.text.slice? e.bytes with
    | some ys =>
      rw [hs] at h
      exact congrArg some h
    | none =>
      rw [hs, Option.getD_none] at h
      simp [found] at h
  rw [hc] at cut
  obtain ⟨xs, zs, same, first, -⟩ := IndexedText.slice?_spec cut
  rw [List.forall_mem_append] at ascii
  obtain ⟨leadBytes, leadUnits⟩ := length_of_ascii ascii.1
  obtain ⟨markerBytes, markerUnits⟩ := length_of_ascii ascii.2
  have all : cs = (xs ++ lead ++ marker) ++ (rest ++ zs) := by
    simp only [same, List.append_assoc]
  have here := OffsetTable.unitAt?_utf8Len (xs ++ lead) (marker ++ (rest ++ zs))
  have next := OffsetTable.unitAt?_utf8Len (xs ++ lead ++ marker) (rest ++ zs)
  rw [← all] at next
  rw [← List.append_assoc, ← all, String.utf8Len_append, first, leadBytes] at here
  unfold unitAt? at hstart
  rw [hc] at hstart
  obtain ⟨u, hu, rfl⟩ := Option.map_eq_some_iff.mp hstart
  obtain rfl := Option.some.inj (hu.symm.trans here)
  refine ⟨utf8Len (xs ++ lead ++ marker), ?_⟩
  unfold unitAt?
  rw [hc]
  refine (congrArg _ next).trans ?_
  rw [Option.map_some, units_append, markerUnits, Nat.add_right_comm]

theorem item_aligned (hc : c.text = IndexedText.ofText cs) (he : c.Located e)
    (hk : k ∈ c.item depth e) :
  c.IsAligned k
  := by
  rcases List.mem_append.mp hk with hk | hk
  · obtain rfl := List.mem_singleton.mp hk
    apply he.isAligned rfl
  · split at hk
    next => cases hk
    next found =>
      split at hk
      next => cases hk
      next start hstart =>
        obtain rfl := List.mem_singleton.mp hk
        refine ⟨⟨_, hstart⟩, ?_⟩
        apply IsBorder.min _ he.isBorder_stop
        obtain ⟨marker, rest, split, length, ascii⟩ := markerLength_spec
          ((c.chars e).drop ((c.chars e).takeWhile fun d => d == ' ' || d == '\t').length)
        have indent := List.prefix_iff_eq_append.mp
          (List.takeWhile_prefix (l := c.chars e) fun d => d == ' ' || d == '\t')
        rw [split] at indent
        rw [← length]
        apply isBorder_of_chars hc indent.symm _ _ hstart
        · intro empty
          rw [empty] at length
          apply found length.symm
        · rw [List.forall_mem_append]
          refine ⟨?_, ascii⟩
          intro d hd
          have blank := List.all_eq_true.mp List.all_takeWhile d hd
          simp only [Bool.or_eq_true, beq_iff_eq] at blank
          rcases blank with rfl | rfl <;> decide

/-- The marks of a span are as many code units. -/
theorem Located.isBorder_of_isEnclosed (hc : c.text = IndexedText.ofText cs) (he : c.Located e)
    (h : (Source.ofString (String.ofList cs)).IsEnclosed n e.bytes) :
  c.IsBorder (e.units.start + n) ∧ c.IsBorder (e.units.stop - n)
  := ⟨⟨_, unitAt?_add hc h.first he.start⟩, ⟨_, unitAt?_sub hc h.le h.last he.stop⟩⟩

theorem ends_aligned (he : c.Located e) (first : c.IsBorder (e.units.start + n))
    (last : c.IsBorder (e.units.stop - n)) (hk : k ∈ (ends n e.units).map c.markup) :
  c.IsAligned k
  := by
  obtain ⟨span, hspan, rfl⟩ := List.mem_map.mp hk
  simp only [ends, List.mem_cons, List.not_mem_nil, or_false] at hspan
  rcases hspan with rfl | rfl
  · exact ⟨he.isBorder_start, first.min he.isBorder_stop⟩
  · exact ⟨last.max he.isBorder_start, he.isBorder_stop⟩

theorem emphasis_aligned (hc : c.text = IndexedText.ofText cs) (he : c.Located e)
    (marked : (Source.ofString (String.ofList cs)).IsEnclosed n e.bytes) {t : FontTrait}
    (hk : k ∈ c.emphasis n t e) :
  c.IsAligned k
  := by
  obtain ⟨first, last⟩ := he.isBorder_of_isEnclosed hc marked
  rcases List.mem_append.mp hk with hk | hk
  · split at hk
    next =>
      obtain rfl := List.mem_singleton.mp hk
      exact ⟨first, last⟩
    next => cases hk
  · apply ends_aligned he first last hk

theorem code_aligned (hc : c.text = IndexedText.ofText cs) (he : c.Located e)
    (marked : (Source.ofString (String.ofList cs)).IsEnclosed 1 e.bytes) (hk : k ∈ c.code e) :
  c.IsAligned k
  := by
  obtain ⟨first, last⟩ := he.isBorder_of_isEnclosed hc marked
  rcases List.mem_append.mp hk with hk | hk
  · rcases List.mem_cons.mp hk with rfl | hk
    · apply he.isAligned rfl
    · split at hk
      next =>
        obtain rfl := List.mem_singleton.mp hk
        exact ⟨first, last⟩
      next => cases hk
  · apply ends_aligned he first last hk

theorem link_aligned (hc : c.text = IndexedText.ofText cs) (he : c.Located e)
    (marked : (Source.ofString (String.ofList cs)).IsAscii e.bytes.start) {destination : String}
    (hk : k ∈ c.link destination e) :
  c.IsAligned k
  := by
  have bracket : c.IsBorder (e.units.start + 1) := by
    obtain ⟨u, here, next⟩ := unitAt?_of_isAscii hc marked
    rw [he.start] at here
    cases here
    exact ⟨_, next⟩
  unfold link at hk
  split at hk
  next => cases hk
  next close hclose =>
    split at hk
    next => cases hk
    next stop hstop =>
      have stops : c.IsBorder stop := ⟨_, hstop⟩
      rcases List.mem_append.mp hk with hk | hk
      · split at hk
        next =>
          rcases List.mem_append.mp hk with hk | hk
          · simp only [List.mem_cons, List.not_mem_nil, or_false] at hk
            rcases hk with rfl | rfl <;> exact ⟨bracket, stops⟩
          · split at hk
            next =>
              obtain rfl := List.mem_singleton.mp hk
              exact ⟨bracket, stops⟩
            next => cases hk
        next => cases hk
      · simp only [List.mem_cons, List.not_mem_nil, or_false] at hk
        rcases hk with rfl | rfl
        · exact ⟨he.isBorder_start, bracket⟩
        · exact ⟨stops, he.isBorder_stop⟩

/-- The strokes of a node that has its marks start and stop between characters, unless the node
is a heading with an underline. -/
theorem own_aligned (hc : c.text = IndexedText.ofText cs) (he : c.Located e) {kind : NodeKind}
    (marked : (Source.ofString (String.ofList cs)).IsMarked e.bytes kind)
    (hk : k ∈ c.own depth kind e) :
  c.IsAligned k ∨ ∃ level, kind = .heading level
    ∧ ((c.chars e).head? = some '#' ∧ level + 1 ≤ e.units.length)
    ∧ (Source.ofString (String.ofList cs)).IsUnderlined level e.bytes.stop
    ∧ k = c.markup ⟨e.units.start, e.units.start + (level + 1)⟩
  := by
  cases kind with
  | heading level =>
    apply (heading_aligned hc he marked hk).imp_right
    intro dimmed
    exact ⟨level, rfl, dimmed⟩
  | paragraph => exact Or.inl (paragraph_aligned he hk)
  | blockQuote => exact Or.inl (quote_aligned he hk)
  | listItem => exact Or.inl (item_aligned hc he hk)
  | strong => exact Or.inl (emphasis_aligned hc he marked hk)
  | emphasis => exact Or.inl (emphasis_aligned hc he marked hk)
  | inlineCode => exact Or.inl (code_aligned hc he marked hk)
  | link destination => exact Or.inl (link_aligned hc he marked hk)
  | _ => cases hk

end Canvas

/-! ### Texts -/

namespace Style

/-- The position after the code units that are dimmed as the number signs of a node, if the
node is a heading that has an underline instead of them. -/
def dimmedEnd? (style : Style) (cs : List Char) (n : Node) : Option Nat :=
  let c := style.canvas cs
  match n.kind, c.extent? n with
  | .heading level, some e =>
    if ((c.chars e).head? = some '#' ∧ level + 1 ≤ e.units.length)
        ∧ (Source.ofString (String.ofList cs)).IsUnderlined level e.bytes.stop then
      some (e.units.start + (level + 1))
    else none
  | _, _ => none

/-- The positions in a text after what is dimmed as the number signs of headings that have an
underline instead of them. -/
def dimmedEnds (style : Style) (cs : List Char) : List Nat :=
  (ParsedText.ofText cs).document.descendants.filterMap (style.dimmedEnd? cs)

variable {style : Style} {cs : List Char} {k : Stroke}

/-- Strokes start and stop between characters, unless they dim number signs that are none. -/
theorem strokesOf_aligned (hk : k ∈ style.strokesOf cs) :
  (style.canvas cs).IsAligned k
    ∨ ∃ start, (style.canvas cs).IsBorder start
        ∧ ∃ stop ∈ style.dimmedEnds cs, k = (style.canvas cs).markup ⟨start, stop⟩
  := by
  obtain ⟨n, hn, e, depth, he, hk⟩ := Canvas.exists_of_mem_strokes _ _ hk
  obtain ⟨span, located⟩ := Canvas.located_of_extent? rfl he
  have marked := Node.hasMarks_ofMarkdown (String.ofList cs) n hn e.bytes span
  have own := Canvas.own_aligned rfl located marked hk
  rcases own with aligned | ⟨level, kind, dimmed, underlined, rfl⟩
  · left
    apply aligned
  · right
    refine ⟨e.units.start, located.isBorder_start, e.units.start + (level + 1), ?_, rfl⟩
    apply List.mem_filterMap.mpr
    refine ⟨n, hn, ?_⟩
    unfold dimmedEnd?
    dsimp only
    rw [kind, he]
    apply if_pos
    exact ⟨dimmed, underlined⟩

/-- What each stroke keeps of a pair in a text holds of the styled text. -/
theorem hasPair_render_of_strokes {R : Attributes → Attributes → Prop} (refl : ∀ a, R a a) {u : Nat}
    (inside : u + 1 < units cs)
    (each : ∀ k ∈ style.strokesOf cs, ∀ b : Buffer, b.HasPair R u → (b.stroke none k).HasPair R u) :
  (style.render cs).HasPair R u
  := by
  have plain : (Buffer.ofText cs style.attributes).HasPair R u := by
    refine ⟨style.attributes, style.attributes, ?_, ?_, refl _⟩
    · rw [Buffer.ofText, Array.getElem?_replicate, if_pos (by omega)]
    · rw [Buffer.ofText, Array.getElem?_replicate, if_pos inside]
  have chars : (Buffer.ofText cs style.attributes).chars = cs := rfl
  have walked := plain.strokes each
  rw [← walk_eq_strokes style chars] at walked
  apply walked

/-- The two code units of a character beyond the basic plane have the same attributes, unless
what is dimmed as the number signs of a heading that has an underline ends between them.  They
differ in their color at most then. -/
theorem hasPair_render (style : Style) {xs zs : List Char} {c : Char} (hc : unitLength c = 2) :
  (style.render (xs ++ c :: zs)).HasPair Attributes.DifferInColor (units xs)
    ∧ (units xs + 1 ∉ style.dimmedEnds (xs ++ c :: zs) →
        (style.render (xs ++ c :: zs)).HasPair (· = ·) (units xs))
  := by
  have inside : units xs + 1 < units (xs ++ c :: zs) := by
    rw [units_append, units_cons]
    omega
  constructor
  · apply hasPair_render_of_strokes (R := Attributes.DifferInColor) (fun _ => rfl) inside
    intro k hk b h
    rcases strokesOf_aligned hk with aligned | ⟨start, -, stop, -, rfl⟩
    · apply h.stroke IsShared.differInColor (aligned.not_cuts rfl hc)
    · apply h.stroke_foreground
  · intro uncut
    apply hasPair_render_of_strokes (R := Eq) (fun _ => rfl) inside
    intro k hk b h
    apply h.stroke IsShared.eq
    rcases strokesOf_aligned hk with aligned | ⟨start, border, stop, dimmed, rfl⟩
    · apply aligned.not_cuts rfl hc
    · rintro (same | rfl)
      · apply border.ne rfl hc same
      · apply uncut dimmed

/-- The number sign and the space before a character beyond the basic plane are dimmed, and the
character is not. -/
theorem hasPair_render_heading :
  let xs := "# ".toList
  let c := '😀'
  unitLength c = 2 ∧ units xs + 1 ∉ Style.standard.dimmedEnds (xs ++ [c])
    ∧ (Style.standard.render (xs ++ [c])).HasPair (· = ·) (units xs)
  := by
  intro xs c
  have two : unitLength c = 2 := by decide
  have uncut : units xs + 1 ∉ Style.standard.dimmedEnds (xs ++ [c]) := by decide +kernel
  exact ⟨two, uncut, (hasPair_render Style.standard two).2 uncut⟩

/-- A heading that has an underline and begins with a number sign gets its second code unit
dimmed, which is the first one of a character. -/
theorem not_hasPair_render_underlined :
  let cs := "#😀\n=".toList
  cs = "#".toList ++ '😀' :: "\n=".toList ∧ unitLength '😀' = 2
    ∧ ¬ (Style.standard.render cs).HasPair (· = ·) (units "#".toList)
  := by
  intro cs
  refine ⟨by decide, by decide, ?_⟩
  rintro ⟨a, a', ha, ha', rfl⟩
  have differ : (Style.standard.render cs).attributes[1]?.map Attributes.foreground
      ≠ (Style.standard.render cs).attributes[2]?.map Attributes.foreground := by decide +kernel
  apply differ
  apply congrArg _ (ha.trans ha'.symm)

end Style

end LiveMarkdown
