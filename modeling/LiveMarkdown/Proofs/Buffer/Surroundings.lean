import LiveMarkdown.Proofs.Buffer.Paragraph
import Mathlib.Data.List.TakeWhile

/-!
# The paragraphs around a part of a text

The paragraphs around a part of a text start at the start of the text, or after the last
separator before the part.  They stop after the first separator from the last character of the
part on, or at the end of the text.  For an empty part, this is the separator of the paragraph
that the part stands in.
-/

namespace LiveMarkdown

/-- What ends a paragraph before the rest of a text: a separator, where a carriage return and
the line feed after it are one, or nothing at the end of the text. -/
inductive EndsParagraph : List Char → List Char → Prop
  /-- The text ends. -/
  | finish : EndsParagraph [] []
  /-- A carriage return with its line feed. -/
  | pair (rest : List Char) : EndsParagraph ['\r', '\n'] rest
  /-- Any other separator. -/
  | single {c : Char} {rest : List Char} (separator : isParagraphSeparator c)
      (whole : ¬ (c = '\r' ∧ rest.head? = some '\n')) : EndsParagraph [c] rest

/-- A paragraph before the rest of a text: a line without a separator, and what ends it. -/
def IsParagraph (paragraph rest : List Char) : Prop :=
  ∃ line separator, paragraph = line ++ separator ∧ (∀ c ∈ line, ¬ isParagraphSeparator c)
    ∧ EndsParagraph separator rest

theorem EndsParagraph.isParagraph {separator rest : List Char}
    (ends : EndsParagraph separator rest) :
  IsParagraph separator rest
  := ⟨[], separator, rfl, nofun, ends⟩

theorem IsParagraph.cons {c : Char} {paragraph rest : List Char} (h : ¬ isParagraphSeparator c)
    (first : IsParagraph paragraph rest) :
  IsParagraph (c :: paragraph) rest
  := by
  obtain ⟨line, separator, rfl, none, ends⟩ := first
  refine ⟨c :: line, separator, rfl, ?_, ends⟩
  intro d hd
  rcases List.mem_cons.mp hd with rfl | hd
  · exact h
  · exact none d hd

/-- Only at the end of a text there is no paragraph. -/
theorem IsParagraph.rest_eq_nil {rest : List Char} (empty : IsParagraph [] rest) :
  rest = []
  := by
  obtain ⟨line, separator, parts, -, ends⟩ := empty
  obtain ⟨rfl, rfl⟩ := List.append_eq_nil_iff.mp parts.symm
  cases ends
  rfl

/-- The scan for the end of a paragraph reads the first paragraph of a text. -/
theorem paragraphStop_spec (n : Nat) (cs : List Char) :
  ∃ paragraph rest, cs = paragraph ++ rest ∧ IsParagraph paragraph rest
    ∧ paragraphStop n cs = n + units paragraph
  := by
  fun_induction paragraphStop n cs with
  | case1 n => exact ⟨[], [], rfl, EndsParagraph.finish.isParagraph, rfl⟩
  | case2 n c cs separator pair =>
    obtain ⟨rfl, feed⟩ := pair
    obtain ⟨rest, rfl⟩ := List.head?_eq_some_iff.mp feed
    exact ⟨['\r', '\n'], rest, rfl, (EndsParagraph.pair rest).isParagraph, rfl⟩
  | case3 n c cs separator whole =>
    refine ⟨[c], cs, rfl, (EndsParagraph.single separator whole).isParagraph, ?_⟩
    rw [units_cons, unitLength_of_isParagraphSeparator separator]
    rfl
  | case4 n c cs other ih =>
    obtain ⟨paragraph, rest, rfl, first, stop⟩ := ih
    refine ⟨c :: paragraph, rest, rfl, first.cons other, ?_⟩
    rw [stop, units_cons, Nat.add_assoc]

/-- The scan for the start of a paragraph goes back to the last separator. -/
theorem paragraphStart_spec (before after : List Char) :
  ∃ first line, before = first ++ line ∧ units first = Place.paragraphStart ⟨before.reverse, after⟩
    ∧ first.getLast?.all isParagraphSeparator ∧ ∀ c ∈ line, ¬ isParagraphSeparator c
  := by
  let other (c : Char) : Bool := !isParagraphSeparator c
  refine ⟨(before.reverse.dropWhile other).reverse, (before.reverse.takeWhile other).reverse,
    ?_, ?_, ?_, ?_⟩
  · rw [← List.reverse_append, List.takeWhile_append_dropWhile, List.reverse_reverse]
  · exact units_reverse _
  · have first := List.head?_dropWhile_not other before.reverse
    rw [List.getLast?_reverse]
    cases h : (before.reverse.dropWhile other).head? with
    | none => rfl
    | some c =>
      rw [h] at first
      simpa [other] using first
  · intro c hc
    have := List.mem_takeWhile_imp (List.mem_reverse.mp hc)
    simpa [other] using this

/-! ### Places and parts -/

namespace Place

/-- What a place has passed does not matter for where it goes. -/
theorem advance_eq (n : Nat) (before cs : List Char) :
  advance n before cs = ⟨(ofUnits n cs).before ++ before, (ofUnits n cs).after⟩
  := by
  induction cs generalizing n before with
  | nil => rfl
  | cons c cs ih =>
    rw [ofUnits, advance, advance]
    split
    · rw [ih, ih (n - unitLength c) [c]]
      simp
    · rfl

/-- Two places cut a text into three parts. -/
theorem exists_parts {n m : Nat} (order : n ≤ m) (cs : List Char) :
  ∃ xs ys zs, cs = xs ++ (ys ++ zs) ∧ ofUnits n cs = ⟨xs.reverse, ys ++ zs⟩
    ∧ ofUnits m cs = ⟨(xs ++ ys).reverse, zs⟩
  := by
  have first := text_ofUnits n cs
  have last := text_ofUnits m cs
  have le : units (ofUnits n cs).before.reverse ≤ units (ofUnits m cs).before.reverse := by
    have before := offset_ofUnits_le n cs
    rw [offset, ← units_reverse] at before
    have after := le_offset_ofUnits (Nat.le_trans before order) (ofUnits n cs).after
    rw [← text, first] at after
    simpa only [offset, units_reverse] using after
  obtain ⟨ys, longer, rest⟩ := exists_append_of_units_le (first.trans last.symm) le
  refine ⟨(ofUnits n cs).before.reverse, ys, (ofUnits m cs).after, ?_, ?_, ?_⟩
  · rw [← rest]
    exact first.symm
  · rw [← rest, List.reverse_reverse]
  · rw [← longer, List.reverse_reverse]

end Place

/-! ### The paragraphs around a part -/

/-- The span of the paragraphs around a part of a text, up to the rest of the text. -/
structure IsAround (span : Span) (before text after rest : List Char) : Prop where
  /-- It starts at the start of the text or after the last separator before the part. -/
  start : ∃ first line, before = first ++ line ∧ units first = span.start
    ∧ first.getLast?.all isParagraphSeparator ∧ ∀ c ∈ line, ¬ isParagraphSeparator c
  /-- It stops after the paragraph with the last character of the part, or for an empty part
  after the one that starts or goes on there. -/
  stop : ∃ last, text.getLast?.toList ++ after = last ++ rest ∧ IsParagraph last rest
  /-- The rest is what comes after it. -/
  length : span.stop + units rest = units (before ++ (text ++ after))

theorem dropLast_append_toList (cs : List Char) :
  cs.dropLast ++ cs.getLast?.toList = cs
  := by
  rcases cs.eq_nil_or_concat with rfl | ⟨ds, c, rfl⟩
  · rfl
  · simp

namespace IsAround

variable {span : Span} {before text after rest : List Char}

theorem start_le (around : IsAround span before text after rest) :
  span.start ≤ units before
  := by
  obtain ⟨first, line, rfl, start, -⟩ := around.start
  rw [units_append]
  omega

/-- The paragraphs around a part contain its last character. -/
theorem le_stop (around : IsAround span before text after rest) :
  units before + units text ≤ span.stop
  := by
  obtain ⟨last, parts, paragraph⟩ := around.stop
  have length := around.length
  have total := congrArg units parts
  have size := congrArg units (dropLast_append_toList text)
  have inside : units text.getLast?.toList ≤ units last := by
    cases h : text.getLast? with
    | none => exact Nat.zero_le _
    | some c =>
      rw [h] at parts
      cases last with
      | nil =>
        obtain rfl := paragraph.rest_eq_nil
        cases parts
      | cons d ds =>
        obtain rfl := (List.cons.inj parts).1
        rw [Option.toList_some, units_cons, units_cons, units_nil]
        omega
  simp only [units_append] at length total size
  omega

theorem isBoundary_start (around : IsAround span before text after rest) :
  isBoundary (before ++ (text ++ after)) span.start
  := by
  obtain ⟨first, line, rfl, start, -⟩ := around.start
  exact isBoundary_iff.mpr ⟨first, line ++ (text ++ after), by rw [List.append_assoc], start⟩

/-- What is before the rest of the text. -/
theorem exists_append_rest (around : IsAround span before text after rest) :
  ∃ cs, before ++ (text ++ after) = cs ++ rest ∧ units cs = span.stop
  := by
  obtain ⟨last, parts, -⟩ := around.stop
  have same : before ++ (text ++ after) = before ++ (text.dropLast ++ last) ++ rest := by
    rw [List.append_assoc, List.append_assoc, ← parts, ← List.append_assoc text.dropLast,
      dropLast_append_toList]
  have length := around.length
  rw [same, units_append] at length
  exact ⟨_, same, by omega⟩

end IsAround

namespace Buffer

variable {b : Buffer} {xs ys zs : List Char}

/-- The text between two places. -/
theorem textIn?_of_places {span : Span} (order : span.start ≤ span.stop)
    (inside : span.stop ≤ b.length)
    (first : Place.ofUnits span.start b.chars = ⟨xs.reverse, ys ++ zs⟩)
    (last : Place.ofUnits span.stop b.chars = ⟨(xs ++ ys).reverse, zs⟩) :
  b.textIn? span = some ys
  := by
  have parts : b.chars = xs ++ (ys ++ zs) := by
    have text := Place.text_ofUnits span.start b.chars
    rw [first, Place.text, List.reverse_reverse] at text
    exact text.symm
  have before : units xs ≤ span.stop := by
    have le := Place.offset_ofUnits_le span.start b.chars
    rw [first, Place.offset, units_reverse] at le
    omega
  obtain ⟨n, hn⟩ := Nat.exists_eq_add_of_le before
  rw [parts, hn, Place.ofUnits, Place.advance_append, List.append_nil, Place.advance_eq,
    Place.mk.injEq, List.reverse_append, List.append_left_inj] at last
  rw [textIn?, if_pos ⟨order, inside⟩]
  simp only [first, Place.offset, units_reverse, hn, Nat.add_sub_cancel_left, last.1,
    List.reverse_reverse]

/-- The paragraphs around a span are those around the part that its places cut out. -/
theorem isAround_paragraphSpan {span : Span}
    (first : Place.ofUnits (min span.start b.length) b.chars = ⟨xs.reverse, ys ++ zs⟩)
    (last : Place.ofUnits (min span.stop b.length) b.chars = ⟨(xs ++ ys).reverse, zs⟩) :
  ∃ rest, IsAround (b.paragraphSpan span) xs ys zs rest
  := by
  let final : Place := ⟨(xs ++ ys.dropLast).reverse, ys.getLast?.toList ++ zs⟩
  have place : final.offset = units xs + units ys.dropLast := by
    rw [Place.offset, units_reverse, units_append]
  have scanned : b.paragraphSpan span
      = ⟨Place.paragraphStart ⟨xs.reverse, ys ++ zs⟩, paragraphStop final.offset final.after⟩ := by
    simp only [paragraphSpan, first, last, Place.offset, units_reverse, units_append]
    rcases ys.eq_nil_or_concat with rfl | ⟨ds, c, rfl⟩
    · simp [final]
    · have one := unitLength_pos c
      rw [if_pos (by simp only [List.concat_eq_append, units_append, units_cons, units_nil]; omega)]
      simp [final, Place.back]
  obtain ⟨paragraph, rest, parts, isParagraph, stop⟩ := paragraphStop_spec final.offset final.after
  use rest
  rw [scanned]
  refine ⟨paragraphStart_spec xs (ys ++ zs), ⟨paragraph, parts, isParagraph⟩, ?_⟩
  have total : units (ys.getLast?.toList ++ zs) = units (paragraph ++ rest) := congrArg units parts
  have size := congrArg units (dropLast_append_toList ys)
  rw [stop, place]
  simp only [units_append] at total size ⊢
  omega

/-- The paragraph that starts or goes on at a position. -/
theorem paragraphSpan_stop_spec {cs rest : List Char} (parts : b.chars = cs ++ rest) :
  ∃ next rest', rest = next ++ rest' ∧ IsParagraph next rest'
    ∧ (b.paragraphSpan ⟨units cs, units cs⟩).stop = units cs + units next
  := by
  have size : units cs ≤ b.length := by
    rw [Buffer.length, b.size_attributes, parts, units_append]
    exact Nat.le_add_right _ _
  have place : Place.ofUnits (min (units cs) b.length) b.chars = ⟨cs.reverse, [] ++ rest⟩ := by
    rw [Nat.min_eq_left size, parts, Place.ofUnits_units]
    rfl
  have around : ∃ rest', IsAround (b.paragraphSpan ⟨units cs, units cs⟩) cs [] rest rest' := by
    apply isAround_paragraphSpan place
    rw [List.append_nil]
    exact place
  obtain ⟨rest', -, ⟨next, parts', paragraph⟩, length⟩ := around
  refine ⟨next, rest', parts', paragraph, ?_⟩
  have total := congrArg units parts'
  simp only [Option.toList_none, List.getLast?_nil, List.nil_append, units_append] at total length
  omega

end Buffer

end LiveMarkdown
