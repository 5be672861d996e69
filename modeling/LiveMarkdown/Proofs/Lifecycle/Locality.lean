import LiveMarkdown.Proofs.Buffer.Surroundings
import LiveMarkdown.Proofs.Lifecycle.History
import LiveMarkdown.Proofs.Styling.Splice

/-!
# What an edit touches

A session that is told of an edit styles the paragraphs around it, and the next one if the new
text has a separator.  They then look as if they had been rendered on their own, and the rest
of the buffer stays as it is.  This holds whatever the session is doing, and for edits that were
never made as well.
-/

namespace LiveMarkdown

/-- A span is what is touched when some text was put between two parts of a text: the paragraphs
around the new text and, if the new text has a separator and these are not the last ones, the
next paragraph. -/
def IsTouched (span : Span) (before text after : List Char) : Prop :=
  ∃ stop rest, IsAround ⟨span.start, stop⟩ before text after rest
    ∧ if containsParagraphBreak text ∧ rest ≠ [] then
        ∃ next rest', rest = next ++ rest' ∧ IsParagraph next rest' ∧ span.stop = stop + units next
      else span.stop = stop

/-- What is touched lies in the text, between two characters, and contains the new text. -/
theorem IsTouched.bounds {span : Span} {before text after : List Char}
    (touched : IsTouched span before text after) :
  isBoundary (before ++ (text ++ after)) span.start
    ∧ isBoundary (before ++ (text ++ after)) span.stop
    ∧ span.start ≤ units before ∧ units before + units text ≤ span.stop
    ∧ span.stop ≤ units (before ++ (text ++ after))
  := by
  obtain ⟨stop, rest, around, last⟩ := touched
  have start := around.start_le
  have contains := around.le_stop
  obtain ⟨cs, parts, size⟩ := around.exists_append_rest
  -- what comes before the end of what is touched
  obtain ⟨ds, rest', parts', size', more⟩ : ∃ ds rest', before ++ (text ++ after) = ds ++ rest'
      ∧ units ds = span.stop ∧ stop ≤ span.stop := by
    split at last
    · obtain ⟨next, rest', rfl, -, last⟩ := last
      refine ⟨cs ++ next, rest', ?_, ?_, by omega⟩
      · rw [parts, List.append_assoc]
      · rw [units_append, size, last]
    · exact ⟨cs, rest, parts, size.trans last.symm, last.ge⟩
  refine ⟨around.isBoundary_start, isBoundary_iff.mpr ⟨ds, rest', parts', size'⟩, start,
    contains.trans more, ?_⟩
  rw [parts', units_append, size']
  exact Nat.le_add_right _ _

namespace Session

/-! ### The paragraphs around an edit -/

section

variable {b : Buffer} {edit : Edit} {xs ys zs : List Char}

/-- An edit touches the paragraphs around the part that its places cut out, and perhaps the next
one. -/
theorem isTouched_affected
    (first : Place.ofUnits (min edit.span.start b.length) b.chars = ⟨xs.reverse, ys ++ zs⟩)
    (last : Place.ofUnits (min (max edit.span.stop (min edit.span.start b.length)) b.length) b.chars
      = ⟨(xs ++ ys).reverse, zs⟩) :
  IsTouched (affected b edit) xs ys zs
  := by
  let start := min edit.span.start b.length
  let stop := min (max edit.span.stop start) b.length
  have order : start ≤ stop := by omega
  have inside : stop ≤ b.length := Nat.min_le_right _ _
  have text : b.textIn? ⟨start, stop⟩ = some ys := Buffer.textIn?_of_places order inside first last
  obtain ⟨rest, isAround⟩ : ∃ rest, IsAround (b.paragraphSpan ⟨start, stop⟩) xs ys zs rest := by
    apply Buffer.isAround_paragraphSpan
    · rw [Nat.min_eq_left (order.trans inside)]
      exact first
    · rw [Nat.min_eq_left inside]
      exact last
  have spans : affected b edit = ⟨min (b.paragraphSpan ⟨start, stop⟩).start b.length,
      min (if containsParagraphBreak ys ∧ (b.paragraphSpan ⟨start, stop⟩).stop < b.length then
          (b.paragraphSpan ⟨(b.paragraphSpan ⟨start, stop⟩).stop,
            (b.paragraphSpan ⟨start, stop⟩).stop⟩).stop
        else (b.paragraphSpan ⟨start, stop⟩).stop) b.length⟩ := by
    rw [affected, text]
    rfl
  generalize b.paragraphSpan ⟨start, stop⟩ = around at isAround spans
  have chars : b.chars = xs ++ (ys ++ zs) := by
    have whole := Place.text_ofUnits (min edit.span.start b.length) b.chars
    rw [first, Place.text, List.reverse_reverse] at whole
    exact whole.symm
  obtain ⟨cs, parts, size⟩ := isAround.exists_append_rest
  rw [← chars] at parts
  have length : b.length = around.stop + units rest := by
    rw [Buffer.length_eq, parts, units_append, size]
  have before : around.start ≤ b.length := by
    have := isAround.start_le
    rw [Buffer.length_eq, chars, units_append]
    omega
  have more : around.stop < b.length ↔ rest ≠ [] := by
    rw [ne_eq, ← units_eq_zero_iff]
    omega
  rw [spans, Nat.min_eq_left before]
  refine ⟨around.stop, rest, isAround, ?_⟩
  simp only [more]
  by_cases another : containsParagraphBreak ys ∧ rest ≠ []
  · obtain ⟨next, rest', rfl, paragraph, stop⟩ := Buffer.paragraphSpan_stop_spec parts
    rw [size] at stop
    rw [units_append] at length
    rw [if_pos another, if_pos another, stop, Nat.min_eq_left (by omega)]
    exact ⟨next, rest', rfl, paragraph, rfl⟩
  · rw [if_neg another, if_neg another]
    exact Nat.min_eq_left (by omega)

/-- An edit that was made touches the paragraphs around the new text, and perhaps the next
one. -/
theorem isTouched_of_replace? {c : Buffer} {span : Span} {text : List Char}
    (replaced : c.replace? span text = some (edit, b)) :
  ∃ before after, b.chars = before ++ (text ++ after)
    ∧ edit.span = ⟨units before, units before + units text⟩
    ∧ IsTouched (affected b edit) before text after
  := by
  obtain ⟨before, old, after, -, chars, start, -, inserted, -⟩ := Buffer.replace?_spec replaced
  rw [← start] at inserted
  have size : b.length = units before + (units text + units after) := by
    rw [Buffer.length_eq, chars, units_append, units_append]
  refine ⟨before, after, chars, inserted, isTouched_affected ?_ ?_⟩
  · rw [inserted, Nat.min_eq_left (by dsimp only; omega), chars, Place.ofUnits_units]
  · have place : min (max edit.span.stop (min edit.span.start b.length)) b.length
        = units (before ++ text) := by
      rw [inserted, units_append]
      dsimp only
      omega
    rw [place, chars, ← List.append_assoc, Place.ofUnits_units]

/-- What an edit touches lies in the buffer, between two characters. -/
theorem affected_bounds (b : Buffer) (edit : Edit) :
  isBoundary b.chars (affected b edit).start ∧ isBoundary b.chars (affected b edit).stop
    ∧ (affected b edit).start ≤ (affected b edit).stop ∧ (affected b edit).stop ≤ b.length
  := by
  have order : min edit.span.start b.length
      ≤ min (max edit.span.stop (min edit.span.start b.length)) b.length := by
    omega
  obtain ⟨xs, ys, zs, parts, first, last⟩ := Place.exists_parts order b.chars
  obtain ⟨start, stop, before, after, inside⟩ := (isTouched_affected first last).bounds
  rw [← parts] at start stop inside
  rw [Buffer.length_eq]
  exact ⟨start, stop, by omega, inside⟩

end

/-! ### What a session makes of it -/

section

variable {σ : Type} [Scheduler σ] {s : Session σ}

/-- The buffer after an edit is the one in which the paragraphs around it are styled, if there
are any. -/
theorem buffer_edited {edit : Edit} (kind : edit.kind = .characters)
    (state : s.coordinator.state = s.coordinator.restingState) :
  (s.edited edit).buffer
    = (s.coordinator.style.applyPart? s.buffer (affected s.buffer edit)).getD s.buffer
  := by
  by_cases nowhere : (affected s.buffer edit).isEmpty
  · rw [Style.applyPart?, if_pos nowhere]
    cases loading : s.coordinator.loading with
    | none => exact (edited_of_nowhere kind state loading nowhere).buffer
    | some l =>
      obtain ⟨stats, log, edited⟩ :=
        edited_of_nowhere_loading kind state (by rw [loading]; rfl) nowhere
      rw [edited]
      rfl
  · obtain ⟨stats, log, edited⟩ := edited_of_paragraph kind state nowhere
    rw [edited]
    rfl

/-- Whatever a session is doing, and whatever its buffer is by now, an edit of the text changes
attributes only in one span between two characters, which looks as if it had been rendered on its
own.  If the edit was made in the buffer, the span contains the new text, starts where the
paragraph starts that holds the start of it, and stops where the one stops that holds its last
character or, if the new text has a separator, the one after it. -/
theorem Reached.edited_spec {h : History} (reached : Reached s h) (b : Buffer) {edit : Edit}
    (kind : edit.kind = .characters) :
  let span := affected b edit
  let after := ({ s with buffer := b }.edited edit).buffer
  (isBoundary b.chars span.start ∧ isBoundary b.chars span.stop ∧ span.start ≤ span.stop
    ∧ span.stop ≤ b.length)
  ∧ (∀ u, u ∉ span → after.attributes[u]? = b.attributes[u]?)
  ∧ (span.start < span.stop → ∃ cs, b.textIn? span = some cs ∧ units cs = span.length
    ∧ ∀ u ∈ span, after.attributes[u]?
      = (s.coordinator.style.render cs).attributes[u - span.start]?)
  ∧ ∀ c replaced text, Buffer.replace? c replaced text = some (edit, b) →
    span.start ≤ edit.span.start ∧ edit.span.stop ≤ span.stop
    ∧ ∃ before rest, b.chars = before ++ (text ++ rest) ∧ units before = edit.span.start
      ∧ IsTouched span before text rest
  := by
  intro span after
  obtain ⟨start, stop, order, inside⟩ := affected_bounds b edit
  have styled : after = (s.coordinator.style.applyPart? b span).getD b :=
    buffer_edited (s := { s with buffer := b }) kind reached.tracks.state
  have found := Style.exists_applyPart?_iff s.coordinator.style b span
  refine ⟨⟨start, stop, order, inside⟩, ?_, ?_, ?_⟩
  · intro u outside
    cases part : s.coordinator.style.applyPart? b span with
    | none =>
      rw [styled, part]
      rfl
    | some c =>
      obtain ⟨cs, -, -, attributes⟩ := Style.getElem?_applyPart? start stop part
      rw [styled, part, Option.getD_some, attributes, if_neg outside]
  · intro somewhere
    obtain ⟨c, part⟩ := found.mpr ⟨somewhere, inside⟩
    obtain ⟨cs, text, size, attributes⟩ := Style.getElem?_applyPart? start stop part
    refine ⟨cs, text, size, ?_⟩
    intro u here
    rw [styled, part, Option.getD_some, attributes, if_pos here]
  · intro c replaced text made
    obtain ⟨before, rest, parts, inserted, touched⟩ := isTouched_of_replace? made
    obtain ⟨-, -, first, last, -⟩ := touched.bounds
    rw [inserted]
    exact ⟨first, last, before, rest, parts, rfl, touched⟩

/-- A star and a line feed are typed at the end of a line.  The line and the empty one after it
are styled, and nothing else is. -/
theorem Reached.edited_spec_typed :
  let s := (ofText .standard {} "a\nb\nc".toList ({} : Clock)).load
  ∃ b edit, s.buffer.replace? ⟨1, 1⟩ "*\n".toList = some (edit, b)
    ∧ edit.span = ⟨1, 3⟩ ∧ affected b edit = ⟨0, 4⟩
    ∧ (∀ u, u ∉ affected b edit →
      ({ s with buffer := b }.edited edit).buffer.attributes[u]? = b.attributes[u]?)
    ∧ ∃ before rest, b.chars = before ++ ("*\n".toList ++ rest)
      ∧ IsTouched (affected b edit) before "*\n".toList rest
  := by
  intro s
  have reached : s.Reached (.ofBuffer (Buffer.ofText "a\nb\nc".toList {})) :=
    .told .load (reached_ofText .standard {} "a\nb\nc".toList ({} : Clock))
  have typed : (s.buffer.replace? ⟨1, 1⟩ "*\n".toList).map
      (fun made => (made.1.kind, made.1.span, affected made.2 made.1))
      = some (.characters, ⟨1, 3⟩, ⟨0, 4⟩) := by
    decide +kernel
  obtain ⟨⟨edit, b⟩, made, same⟩ := Option.map_eq_some_iff.mp typed
  obtain ⟨kind, same⟩ := Prod.mk.inj same
  obtain ⟨inserted, touched⟩ := Prod.mk.inj same
  obtain ⟨-, outside, -, around⟩ := reached.edited_spec b kind
  obtain ⟨-, -, before, rest, parts, -, isTouched⟩ := around _ _ _ made
  exact ⟨b, edit, made, inserted, touched, outside, before, rest, parts, isTouched⟩

end

end Session

end LiveMarkdown
