import LiveMarkdown.Proofs.Buffer.Paragraph
import LiveMarkdown.Proofs.Styling.Passes

/-!
# Parts of a buffer

The pass over a part of a buffer takes the text of the part for a document of its own.  What it
makes of the part is what a styled buffer with this text looks like, moved to where the part is.

* The strokes of a text that stands somewhere in a buffer are those of the text alone, moved.
* Moved strokes make the same of a part of a buffer as the strokes make of a buffer that looks
  like the part.
* No stroke of a text lies outside the text.
-/

namespace LiveMarkdown

/-! ### Moved strokes -/

/-- The stroke moved right by `n` positions. -/
def Stroke.shift (n : Nat) : Stroke → Stroke
  | set span value => .set (span.shift n) value
  | layOut span layout => .layOut (span.shift n) layout
  | addTrait span body font => .addTrait (span.shift n) body font

@[simp] theorem Stroke.span_shift (n : Nat) (k : Stroke) :
  (k.shift n).span = k.span.shift n
  := by
  cases k <;> rfl

@[simp] theorem Span.length_shift (n : Nat) (s : Span) :
  (s.shift n).length = s.length
  := Nat.add_sub_add_right _ _ _

theorem Span.mem_shift {n u : Nat} {s : Span} :
  u + n ∈ s.shift n ↔ u ∈ s
  := by
  rw [mem_iff, mem_iff, shift]
  dsimp only
  omega

theorem Span.nonempty?_shift (n : Nat) (s : Span) :
  (s.shift n).nonempty? = s.nonempty?.map (Span.shift n)
  := by
  rw [nonempty?, nonempty?, apply_ite (Option.map (Span.shift n))]
  exact if_congr (Nat.add_lt_add_iff_right (k := n)) rfl rfl

/-- The extent of a node whose text is `n` positions further on. -/
def Extent.shift (n : Nat) (e : Extent) : Extent :=
  ⟨e.bytes, e.units.shift n⟩

namespace Style

/-- What a text is styled with that stands somewhere in a buffer of some length. -/
def canvasAt (style : Style) (cs : List Char) (base length : Nat) : Canvas :=
  ⟨IndexedText.ofText cs, style, base, length, none⟩

end Style

namespace Canvas

section

variable {style : Style} {cs : List Char} {base length : Nat}

theorem extent?_canvasAt (room : base + units cs ≤ length) (n : Node) :
  (style.canvasAt cs base length).extent? n
    = ((style.canvas cs).extent? n).map (Extent.shift base)
  := by
  have room' : units cs ≤ length - base := by omega
  rw [extent?, extent?, Option.map_bind]
  congr 1
  funext bytes
  rw [Function.comp, Option.map_bind]
  congr 1
  funext cut
  have shown : (style.canvasAt cs base length).base ≤ (style.canvasAt cs base length).length :=
    Nat.le_of_add_right_le room
  have found := OffsetTable.unitSpan?_of_units_le room' bytes
  have start : (style.canvas cs).base ≤ (style.canvas cs).length := Nat.zero_le _
  rw [if_pos shown, Function.comp, if_pos start, Option.map_map]
  exact congrArg (Option.map _) found

theorem unitAt?_canvasAt (byte : Nat) :
  (style.canvasAt cs base length).unitAt? byte = ((style.canvas cs).unitAt? byte).map (· + base)
  := by
  rw [unitAt?, unitAt?, Option.map_map]
  rfl

variable (e : Extent)

theorem chars_canvasAt :
  (style.canvasAt cs base length).chars (e.shift base) = (style.canvas cs).chars e
  := rfl

theorem heading_canvasAt (level : Nat) :
  (style.canvasAt cs base length).heading level (e.shift base)
    = ((style.canvas cs).heading level e).map (Stroke.shift base)
  := by
  rw [heading, heading, chars_canvasAt, Extent.shift, Span.length_shift, List.map_append,
    apply_ite (List.map (Stroke.shift base))]
  simp only [List.map_cons, List.map_nil, markup, Stroke.shift, Span.shift, Nat.add_right_comm]
  rfl

theorem paragraph_canvasAt (depth : Nat) :
  (style.canvasAt cs base length).paragraph depth (e.shift base)
    = ((style.canvas cs).paragraph depth e).map (Stroke.shift base)
  := by
  rw [paragraph, paragraph, apply_ite (List.map (Stroke.shift base))]
  rfl

theorem quote_canvasAt (depth : Nat) :
  (style.canvasAt cs base length).quote depth (e.shift base)
    = ((style.canvas cs).quote depth e).map (Stroke.shift base)
  := by
  rw [quote, quote, chars_canvasAt, List.map_append, List.map_filterMap]
  congr 2
  funext marker
  rw [Extent.shift, unitAt?_canvasAt, unitAt?_canvasAt, Option.bind_map, Option.map_bind]
  congr 1
  funext start
  rw [Function.comp, Function.comp, Option.map_map, Option.map_map]
  rfl

theorem item_canvasAt (depth : Nat) :
  (style.canvasAt cs base length).item depth (e.shift base)
    = ((style.canvas cs).item depth e).map (Stroke.shift base)
  := by
  rw [item, item, chars_canvasAt, Extent.shift, List.map_append,
    apply_ite (List.map (Stroke.shift base)), unitAt?_canvasAt]
  congr 2
  cases (style.canvas cs).unitAt? _ with
  | none => rfl
  | some start =>
    simp only [Option.map_some, List.map_cons, List.map_nil, markup, Stroke.shift, Span.shift]
    rw [Nat.add_right_comm, Nat.add_min_add_right]
    rfl

theorem ends_shift (n : Nat) (span : Span) :
  ends n (span.shift base) = (ends n span).map (Span.shift base)
  := by
  simp only [ends, Span.shift, List.map_cons, List.map_nil, List.cons.injEq, Span.mk.injEq,
    true_and, and_true]
  omega

theorem emphasis_canvasAt (n : Nat) (font : FontTrait) :
  (style.canvasAt cs base length).emphasis n font (e.shift base)
    = ((style.canvas cs).emphasis n font e).map (Stroke.shift base)
  := by
  rw [emphasis, emphasis, Extent.shift, Span.length_shift, List.map_append,
    apply_ite (List.map (Stroke.shift base)), ends_shift, List.map_map, List.map_map]
  congr 1
  by_cases long : 2 * n < e.units.length
  · have stop : e.units.stop + base - n = e.units.stop - n + base := by
      rw [Span.length] at long
      omega
    rw [if_pos long, if_pos long, Span.shift]
    simp only [List.map_cons, List.map_nil, Stroke.shift, Span.shift, stop, Nat.add_right_comm]
    rfl
  · rw [if_neg long, if_neg long]
    rfl

theorem code_canvasAt :
  (style.canvasAt cs base length).code (e.shift base)
    = ((style.canvas cs).code e).map (Stroke.shift base)
  := by
  rw [code, code, Extent.shift, Span.length_shift, List.map_append, List.map_cons,
    apply_ite (List.map (Stroke.shift base)), ends_shift, List.map_map, List.map_map]
  congr 2
  by_cases long : 2 < e.units.length
  · have stop : e.units.stop + base - 1 = e.units.stop - 1 + base := by
      rw [Span.length] at long
      omega
    rw [if_pos long, if_pos long, Span.shift]
    simp only [List.map_cons, List.map_nil, Stroke.shift, Span.shift, stop, Nat.add_right_comm]
    rfl
  · rw [if_neg long, if_neg long]
    rfl

theorem link_canvasAt (destination : String) :
  (style.canvasAt cs base length).link destination (e.shift base)
    = ((style.canvas cs).link destination e).map (Stroke.shift base)
  := by
  rw [link, link, chars_canvasAt, Extent.shift]
  cases bracket? 0 ((style.canvas cs).chars e) with
  | none => rfl
  | some close =>
    simp only [unitAt?_canvasAt]
    cases (style.canvas cs).unitAt? (e.bytes.start + close) with
    | none => rfl
    | some stop =>
      rw [List.map_append, apply_ite (List.map (Stroke.shift base)), List.map_append]
      cases LinkTarget.ofText? destination <;>
        simp only [Option.map_some, List.map_cons, List.map_nil, markup, Stroke.shift, Span.shift,
          Nat.add_right_comm] <;>
        rfl

/-- The strokes of a node whose text stands somewhere in a buffer. -/
theorem own_canvasAt (depth : Nat) (kind : NodeKind) :
  (style.canvasAt cs base length).own depth kind (e.shift base)
    = ((style.canvas cs).own depth kind e).map (Stroke.shift base)
  := by
  cases kind with
  | heading level => exact heading_canvasAt e level
  | paragraph => exact paragraph_canvasAt e depth
  | blockQuote => exact quote_canvasAt e depth
  | listItem => exact item_canvasAt e depth
  | strong => exact emphasis_canvasAt e 2 .bold
  | emphasis => exact emphasis_canvasAt e 1 .italic
  | inlineCode => exact code_canvasAt e
  | link destination => exact link_canvasAt e destination
  | _ => rfl

end

variable {style : Style} {cs : List Char} {base length : Nat}

mutual

/-- The strokes of a document whose text stands somewhere in a buffer. -/
theorem strokes_canvasAt (room : base + units cs ≤ length) (depth : Nat) (n : Node) :
  (style.canvasAt cs base length).strokes depth n
    = ((style.canvas cs).strokes depth n).map (Stroke.shift base)
  := by
  match n with
  | ⟨kind, span, children⟩ =>
    have rest : (style.canvasAt cs base length).below depth kind children
        = ((style.canvas cs).below depth kind children).map (Stroke.shift base) := by
      unfold below
      split
      · rfl
      · exact strokesOfList_canvasAt room (inner kind depth) children
    have found : (style.canvasAt cs base length).extent? ⟨kind, span, []⟩ = _ :=
      extent?_canvasAt room _
    cases he : (style.canvas cs).extent? ⟨kind, span, []⟩ with
    | none =>
      rw [he] at found
      rw [strokes_of_not_found found, strokes_of_not_found he, rest]
    | some e =>
      rw [he] at found
      rw [strokes_of_shown found Bool.false_ne_true, strokes_of_shown he Bool.false_ne_true,
        List.map_append, own_canvasAt, rest]

/-- The strokes of some nodes of a document whose text stands somewhere in a buffer. -/
theorem strokesOfList_canvasAt (room : base + units cs ≤ length) (depth : Nat) (ns : List Node) :
  (style.canvasAt cs base length).strokesOfList depth ns
    = ((style.canvas cs).strokesOfList depth ns).map (Stroke.shift base)
  := by
  match ns with
  | [] => rfl
  | n :: ns =>
    unfold strokesOfList
    rw [List.map_append, strokes_canvasAt room depth n, strokesOfList_canvasAt room depth ns]

end

/-- No stroke of a text lies outside the text. -/
theorem strokes_within_text {c : Canvas} (hc : c.text = IndexedText.ofText cs) (depth : Nat)
    (n : Node) :
  ∀ k ∈ c.strokes depth n, ∀ u ∈ k.span, c.base ≤ u ∧ u < c.base + units cs
  := by
  apply strokes_forall
  intro n e he depth kind k hk u hu
  obtain ⟨-, located⟩ := located_of_extent? hc he
  have inside := own_inside hc located hk hu
  have position {byte v : Nat} (hv : c.unitAt? byte = some v) :
      c.base ≤ v ∧ v ≤ c.base + units cs := by
    obtain ⟨w, hw, rfl⟩ := Option.map_eq_some_iff.mp hv
    rw [hc] at hw
    have := OffsetTable.le_of_unitAt?_eq_some hw
    omega
  have start := position located.start
  have stop := position located.stop
  rw [Span.mem_iff] at inside
  omega

end Canvas

/-! ### A part that looks like a buffer -/

namespace Buffer

/-- From a position on, a buffer looks like another one. -/
structure Shows (b : Buffer) (base : Nat) (c : Buffer) : Prop where
  /-- There is room for the other one. -/
  room : c.length + base ≤ b.length
  /-- The attributes are the same. -/
  same : ∀ u < c.length, b.attributes[u + base]? = c.attributes[u]?

theorem length_ofText (cs : List Char) (a : Attributes) :
  (ofText cs a).length = units cs
  := length_eq _

variable {b c : Buffer} {base : Nat}

theorem Shows.update (shows : b.Shows base c) (span : Span) (f : Attributes → Attributes) :
  (b.update (span.shift base) f).Shows base (c.update span f)
  := by
  constructor
  · rw [length_update, length_update]
    exact shows.room
  · intro u hu
    rw [length_update] at hu
    rw [getElem?_update, getElem?_update, shows.same u hu]
    simp only [Span.mem_shift]

/-- A run ends where it does in the part. -/
theorem Shows.runStop (shows : b.Shows base c) (a : Attributes) (key : AttributeKey)
    {ceiling : Nat} (inside : ceiling ≤ c.length) (i : Nat) :
  Buffer.runStop b.attributes a key (ceiling + base) (i + base)
    = Buffer.runStop c.attributes a key ceiling i + base
  := by
  fun_induction Buffer.runStop c.attributes a key ceiling i with
  | case1 i more ih =>
    rw [Buffer.runStop, shows.same i (more.1.trans_le inside), if_pos ⟨by omega, more.2⟩,
      Nat.add_right_comm, ih]
  | case2 i last =>
    rw [Buffer.runStop, if_neg]
    rintro ⟨before, agree⟩
    have before : i < ceiling := by omega
    rw [shows.same i (before.trans_le inside)] at agree
    exact last ⟨before, agree⟩

/-- The value of a key is the same, and the run that starts there ends where it does. -/
theorem Shows.attribute? (shows : b.Shows base c) {key : AttributeKey} {i stop : Nat}
    (order : i < stop) (inside : stop ≤ c.length) {current : Option Attribute} {run : Span}
    (found : c.attribute? key i ⟨i, stop⟩ = some (current, run)) :
  ∃ run', b.attribute? key (i + base) ⟨i + base, stop + base⟩ = some (current, run')
    ∧ run'.stop = run.stop + base
  := by
  have room := shows.room
  rw [Buffer.attribute?, if_pos (Span.mem_iff.mpr ⟨le_rfl, order⟩)] at found
  obtain ⟨a, ha, same⟩ := Option.map_eq_some_iff.mp found
  obtain ⟨rfl, rfl⟩ := Prod.mk.inj same
  have first := (shows.same i (order.trans_le inside)).trans ha
  have here : i + base ∈ (⟨i + base, stop + base⟩ : Span) := Span.mem_iff.mpr ⟨le_rfl, by simpa⟩
  have end_ := shows.runStop a key inside (i + 1)
  rw [Nat.add_right_comm] at end_
  rw [Buffer.attribute?, if_pos here, first, Option.map_some]
  refine ⟨_, rfl, ?_⟩
  dsimp only
  rw [Nat.min_eq_left (by omega), Nat.min_eq_left inside, end_]

/-- Laying out makes the same of the part as of what it looks like. -/
theorem Shows.layOut (shows : b.Shows base c) (l : Layout) {stop : Nat} (inside : stop ≤ c.length)
    (i : Nat) :
  (b.layOut l (stop + base) (i + base)).Shows base (c.layOut l stop i)
  := by
  fun_induction Buffer.layOut c l stop i generalizing b with
  | case1 c i order missing =>
    have beyond := attribute?_eq_none order missing
    omega
  | case2 c i order current run found next c' =>
    rename_i ih
    obtain ⟨run', found', end_⟩ := shows.attribute? order inside found
    have next' : max run'.stop (i + base + 1) = next + base := by omega
    have written : (if current == some (.layout l) then b
        else b.addAttribute ⟨i + base, next + base⟩ (.layout l)).Shows base c' := by
      unfold c'
      split
      · exact shows
      · exact shows.update ⟨i, next⟩ _
    have length : c'.length = c.length := by
      unfold c'
      split
      · rfl
      · exact length_update c _ _
    rw [Buffer.layOut, if_pos (Nat.add_lt_add_right order base), found']
    dsimp only
    rw [next']
    exact ih written (by omega)
  | case3 c i last =>
    rw [Buffer.layOut, if_neg (by omega)]
    exact shows

/-- Adding a trait makes the same of the part as of what it looks like. -/
theorem Shows.addTrait (shows : b.Shows base c) (body : Font) (font : FontTrait) {stop : Nat}
    (inside : stop ≤ c.length) (i : Nat) :
  (b.addTrait body font (stop + base) (i + base)).Shows base (c.addTrait body font stop i)
  := by
  fun_induction Buffer.addTrait c body font stop i generalizing b with
  | case1 c i order missing =>
    have beyond := attribute?_eq_none order missing
    omega
  | case2 c i order current run found next old =>
    rename_i ih
    obtain ⟨run', found', end_⟩ := shows.attribute? order inside found
    have next' : max run'.stop (i + base + 1) = next + base := by omega
    rw [Buffer.addTrait, if_pos (Nat.add_lt_add_right order base), found']
    dsimp only
    rw [next']
    apply ih (shows.update ⟨i, next⟩ _)
    rw [addAttribute, length_update]
    exact inside
  | case3 c i last =>
    rw [Buffer.addTrait, if_neg (by omega)]
    exact shows

theorem Shows.stroke (shows : b.Shows base c) {k : Stroke} (inside : ∀ u ∈ k.span, u < c.length) :
  (b.stroke none (k.shift base)).Shows base (c.stroke none k)
  := by
  have shown : (k.span.shift base).visible? none = (k.span.visible? none).map (Span.shift base) :=
    Span.nonempty?_shift base k.span
  cases hv : k.span.visible? none with
  | none =>
    rw [hv] at shown
    cases k <;> simp only [Stroke.span] at hv shown <;>
      simpa only [Buffer.stroke, Stroke.shift, hv, shown, Option.map_none] using shows
  | some s =>
    rw [hv] at shown
    obtain ⟨rfl, order⟩ := Span.nonempty?_eq_some_iff.mp hv
    have stop : k.span.stop ≤ c.length := by
      have last := inside (k.span.stop - 1) (Span.mem_iff.mpr (by omega))
      omega
    cases k with
    | set span value =>
      simp only [Stroke.span] at hv shown
      simp only [Buffer.stroke, Stroke.shift, hv, shown, Option.map_some]
      exact shows.update span _
    | layOut span layout =>
      simp only [Stroke.span] at hv shown
      simp only [Buffer.stroke, Stroke.shift, hv, shown, Option.map_some]
      exact shows.layOut layout stop span.start
    | addTrait span body font =>
      simp only [Stroke.span] at hv shown
      simp only [Buffer.stroke, Stroke.shift, hv, shown, Option.map_some]
      exact shows.addTrait body font stop span.start

/-- Moved strokes make the same of the part as the strokes make of what it looks like. -/
theorem Shows.strokes (shows : b.Shows base c) {ks : List Stroke}
    (inside : ∀ k ∈ ks, ∀ u ∈ k.span, u < c.length) :
  (b.strokes none (ks.map (Stroke.shift base))).Shows base (c.strokes none ks)
  := by
  induction ks generalizing b c with
  | nil => exact shows
  | cons k ks ih =>
    rw [List.map_cons, Buffer.strokes, Buffer.strokes, List.foldl_cons, List.foldl_cons,
      ← Buffer.strokes, ← Buffer.strokes]
    apply ih (shows.stroke (inside k List.mem_cons_self))
    intro l hl u hu
    have length : (c.stroke none k).length = c.length := length_strokes none c [k]
    rw [length]
    exact inside l (List.mem_cons_of_mem k hl) u hu

end Buffer

/-! ### The pass over a part -/

namespace Style

variable {style : Style}

theorem attributes_render (style : Style) (cs : List Char) :
  (style.render cs).attributes
    = ((Buffer.ofText cs style.attributes).strokes none (style.strokesOf cs)).attributes
  := by
  have chars : (Buffer.ofText cs style.attributes).chars = cs := rfl
  rw [← walk_eq_strokes style chars]
  rfl

/-- A part that is shown as plain text looks like a buffer with its text that is not marked
up. -/
theorem shows_ofText (style : Style) {b : Buffer} {span : Span} {cs : List Char}
    (size : units cs = span.length) (order : span.start ≤ span.stop)
    (inside : span.stop ≤ b.length) :
  (b.beginBatch.setAttributes span style.attributes).Shows span.start
    (Buffer.ofText cs style.attributes)
  := by
  rw [Span.length] at size
  constructor
  · rw [Buffer.setAttributes, Buffer.length_update, Buffer.length_ofText, size]
    change _ ≤ b.length
    omega
  · intro u hu
    rw [Buffer.length_ofText] at hu
    have here : u + span.start ∈ span := Span.mem_iff.mpr (by omega)
    have unit : u + span.start < b.beginBatch.attributes.size := by
      change _ < b.length
      omega
    rw [Buffer.setAttributes, Buffer.getElem?_update, if_pos here, Array.getElem?_eq_getElem unit,
      Buffer.ofText, Array.getElem?_replicate, if_pos hu]
    rfl

/-- The pass over a part of a buffer between two characters styles a text that has as many code
units as the part. -/
theorem applyPart?_eq_some_of_isBoundary {b c : Buffer} {span : Span}
    (start : isBoundary b.chars span.start) (stop : isBoundary b.chars span.stop)
    (styled : style.applyPart? b span = some c) :
  ∃ cs, b.textIn? span = some cs ∧ units cs = span.length
    ∧ c = ((b.beginBatch.setAttributes span style.attributes).walk (ParsedText.ofText cs).text style
      span.start none (ParsedText.ofText cs).document).endBatch
  := by
  obtain ⟨order, -⟩ := (exists_applyPart?_iff style b span).mp ⟨c, styled⟩
  obtain ⟨cs, text, size⟩ := Buffer.exists_textIn? order.le start stop
  obtain ⟨ds, text', same⟩ := applyPart?_eq_some styled
  obtain rfl : cs = ds := Option.some.inj (text.symm.trans text')
  exact ⟨cs, text, size, same⟩

/-- The pass over a part of a buffer between two characters writes what a styled buffer with the
text of the part looks like, and nothing else. -/
theorem getElem?_applyPart? {b c : Buffer} {span : Span} (start : isBoundary b.chars span.start)
    (stop : isBoundary b.chars span.stop) (styled : style.applyPart? b span = some c) :
  ∃ cs, b.textIn? span = some cs ∧ units cs = span.length ∧ ∀ u, c.attributes[u]?
    = if u ∈ span then (style.render cs).attributes[u - span.start]? else b.attributes[u]?
  := by
  obtain ⟨order, inside⟩ := (exists_applyPart?_iff style b span).mp ⟨c, styled⟩
  obtain ⟨cs, text, size, rfl⟩ := applyPart?_eq_some_of_isBoundary start stop styled
  refine ⟨cs, text, size, ?_⟩
  intro u
  let plain := b.beginBatch.setAttributes span style.attributes
  have length : plain.length = b.length := Buffer.length_update b.beginBatch _ _
  -- the strokes are those of the text alone, moved to where the part starts
  have walk : plain.walk (ParsedText.ofText cs).text style span.start none
        (ParsedText.ofText cs).document
      = plain.strokes none ((style.strokesOf cs).map (Stroke.shift span.start)) := by
    rw [Span.length] at size
    have room : span.start + units cs ≤ plain.length := by omega
    rw [strokesOf, ← Canvas.strokes_canvasAt room]
    rfl
  have within (k : Stroke) (hk : k ∈ style.strokesOf cs) (v : Nat) (hv : v ∈ k.span) :
      v < units cs := by
    have inside := Canvas.strokes_within_text (c := style.canvas cs) rfl 0 _ k hk v hv
    exact inside.2.trans_eq (Nat.zero_add _)
  rw [Buffer.attributes_endBatch, walk]
  rw [Span.length] at size
  by_cases here : u ∈ span
  · have shows := (shows_ofText style size order.le inside).strokes (by
      rw [Buffer.length_ofText]
      exact within)
    have unit : u - span.start < units cs := by
      have := Span.mem_iff.mp here
      omega
    rw [← Buffer.length_ofText cs style.attributes, ← Buffer.length_strokes none] at unit
    have part := shows.same _ unit
    rw [Nat.sub_add_cancel here.1] at part
    rw [if_pos here, attributes_render]
    exact part
  · have rest : plain.attributes[u]? = b.attributes[u]? :=
      (Buffer.getElem?_update b.beginBatch span _ u).trans (if_neg here)
    rw [if_neg here, Buffer.getElem?_strokes_of_not_mem, rest]
    rintro k hk ⟨hu, -⟩
    obtain ⟨l, hl, rfl⟩ := List.mem_map.mp hk
    rw [Stroke.span_shift] at hu
    have start : span.start ≤ u := Nat.le_of_add_left_le (Span.mem_iff.mp hu).1
    rw [← Nat.sub_add_cancel start, Span.mem_shift] at hu
    have stop := within l hl _ hu
    exact here (Span.mem_iff.mpr (by omega))

/-- A part of a buffer between two characters that is not empty can be styled, and then it looks
like a styled buffer with its text, while the rest stays as it was.  What is empty, out of order
or out of bounds is passed over. -/
theorem applyPart?_spec (style : Style) (b : Buffer) (span : Span) :
  (span.start < span.stop → span.stop ≤ b.length → isBoundary b.chars span.start →
    isBoundary b.chars span.stop → ∃ cs c, b.textIn? span = some cs ∧ units cs = span.length
      ∧ style.applyPart? b span = some c
      ∧ ∀ u, c.attributes[u]?
        = if u ∈ span then (style.render cs).attributes[u - span.start]? else b.attributes[u]?)
  ∧ (span.stop ≤ span.start ∨ b.length < span.stop → style.applyPart? b span = none)
  := by
  constructor
  · intro order inside start stop
    obtain ⟨c, styled⟩ := (exists_applyPart?_iff style b span).mpr ⟨order, inside⟩
    obtain ⟨cs, text, size, attributes⟩ := getElem?_applyPart? start stop styled
    exact ⟨cs, c, text, size, styled, attributes⟩
  · intro outside
    apply Option.eq_none_iff_forall_ne_some.mpr
    intro c styled
    have inside := (exists_applyPart?_iff style b span).mp ⟨c, styled⟩
    omega

/-- Emphasis between a character of two code units and another line. -/
theorem applyPart?_spec_emphasis :
  let b := Buffer.ofText "😀\n**b**\nc".toList {}
  let span : Span := ⟨3, 9⟩
  isBoundary b.chars span.start ∧ isBoundary b.chars span.stop
    ∧ ∃ c, standard.applyPart? b span = some c
      ∧ ∀ u, c.attributes[u]? = if u ∈ span
        then (standard.render "**b**\n".toList).attributes[u - 3]? else b.attributes[u]?
  := by
  intro b span
  have start : isBoundary b.chars span.start := by decide +kernel
  have stop : isBoundary b.chars span.stop := by decide +kernel
  have inside : span.stop ≤ b.length := by decide +kernel
  obtain ⟨cs, c, text, -, styled, attributes⟩ :=
    (applyPart?_spec standard b span).1 (by decide) inside start stop
  have emphasis : b.textIn? span = some "**b**\n".toList := by decide +kernel
  obtain rfl := Option.some.inj (text.symm.trans emphasis)
  exact ⟨start, stop, c, styled, attributes⟩

end Style

end LiveMarkdown
