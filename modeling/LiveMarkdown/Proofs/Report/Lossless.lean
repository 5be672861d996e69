import LiveMarkdown.Proofs.Buffer.Runs
import LiveMarkdown.Proofs.Buffer.Surroundings
import LiveMarkdown.Proofs.Report.Json
import LiveMarkdown.Proofs.Report.Lines

/-!
# Reports lose no text

A report gives each run the text of its span.  Between two runs there may be a character with a code
unit in each of them: it is cut before the character, so the text of the first run is without it and
the second run gets all of it.

* The texts of the runs are those of their spans, and together they are the text of the buffer.
* The report in JSON has an item for each run, and the plain report a line.
-/

namespace LiveMarkdown

/-! ### The texts of the runs -/

/-- The place of a later position, seen from an earlier one. -/
theorem Place.ofUnits_sub {n m : Nat} {cs xs ys zs : List Char} (order : n ≤ m)
    (first : ofUnits n cs = ⟨xs.reverse, ys ++ zs⟩)
    (last : ofUnits m cs = ⟨(xs ++ ys).reverse, zs⟩) :
  ofUnits (m - units xs) (ys ++ zs) = ⟨ys.reverse, zs⟩
  := by
  have parts : cs = xs ++ (ys ++ zs) := by
    have whole := text_ofUnits n cs
    rw [first, text, List.reverse_reverse] at whole
    exact whole.symm
  have before : units xs ≤ m := by
    have le := offset_ofUnits_le n cs
    rw [first, offset, units_reverse] at le
    omega
  obtain ⟨k, rfl⟩ := Nat.exists_eq_add_of_le before
  rw [parts, ofUnits, advance_append, List.append_nil, advance_eq, mk.injEq, List.reverse_append,
    List.append_left_inj] at last
  rw [Nat.add_sub_cancel_left]
  exact congrArg₂ mk last.1 last.2

/-! ### Parts of a value -/

namespace JsonValue

/-- The value of a field of an object. -/
def field? (name : String) : JsonValue → Option JsonValue
  | .object fields => fields.lookup name
  | _ => none

/-- The natural number that is written. -/
def nat? : JsonValue → Option Nat
  | .number written => written.toNat?
  | _ => none

/-- The text that is given. -/
def text? : JsonValue → Option String
  | .text value => some value
  | _ => none

/-- The items of a list. -/
def items? : JsonValue → Option (List JsonValue)
  | .list items => some items
  | _ => none

end JsonValue

namespace Report

/-- Runs that follow one another from some position on get the texts of their spans, which together
are the text from there on. -/
theorem cutRuns_spec {b : Buffer} {runs : List Run} {i : Nat} {before rest : List Char}
    (tile : Tile b.length i (runs.map Run.span))
    (place : Place.ofUnits i b.chars = ⟨before.reverse, rest⟩) :
  (cutRuns (units before) rest runs).map Prod.fst = runs
    ∧ (∀ entry ∈ cutRuns (units before) rest runs, b.textIn? entry.1.span = some entry.2)
    ∧ (cutRuns (units before) rest runs).flatMap Prod.snd = rest
  := by
  induction runs generalizing i before rest with
  | nil =>
    obtain rfl : i = b.length := tile
    have last := Place.ofUnits_units b.chars []
    rw [List.append_nil, ← b.size_attributes] at last
    obtain ⟨-, rfl⟩ := Place.mk.inj (place.symm.trans last)
    exact ⟨rfl, List.forall_mem_nil _, rfl⟩
  | cons run runs ih =>
    obtain ⟨rfl, order, next⟩ := tile
    obtain ⟨xs, ys, zs, -, first, last⟩ := Place.exists_parts order.le b.chars
    obtain ⟨same, rfl⟩ := Place.mk.inj (place.symm.trans first)
    obtain rfl := List.reverse_injective same
    have cut := Place.ofUnits_sub order.le first last
    have text : b.textIn? run.span = some ys :=
      Buffer.textIn?_of_places order.le next.le first last
    obtain ⟨runs', texts, whole⟩ := ih next last
    rw [units_append] at runs' texts whole
    simp only [cutRuns, cut, Place.offset, units_reverse, List.reverse_reverse]
    refine ⟨?_, ?_, ?_⟩
    · rw [List.map_cons, runs']
    · rw [List.forall_mem_cons]
      exact ⟨text, texts⟩
    · rw [List.flatMap_cons, whole]

/-! ### The report in JSON -/

/-- The value that the report in JSON is the text of. -/
def value (r : Report) : JsonValue :=
  .object [("stats", statsValue r.stats),
    ("spans", .list (r.runs.map fun entry => runValue entry.1 entry.2))]

theorem isSound_nat (n : Nat) :
  (JsonValue.nat n).IsSound
  := ⟨nat_ne_nil n, isNumeral_nat n⟩

theorem isSound_realValue (x : Float32) :
  (realValue x).IsSound
  := by
  unfold realValue
  split
  · rename_i text finite
    exact isNumeral_scientificText? finite
  · trivial

theorem isSound_attributesValue (a : Attributes) :
  (attributesValue a).IsSound
  := by
  unfold attributesValue
  rw [JsonValue.IsSound, JsonValue.areSoundFields_iff]
  intro field mem
  simp only [List.mem_append, Option.mem_toList, Option.map_eq_some_iff] at mem
  obtain ((((⟨f, -, rfl⟩ | ⟨c, -, rfl⟩) | ⟨c, -, rfl⟩) | ⟨l, -, rfl⟩) | ⟨_, -, rfl⟩) | ⟨_, -, rfl⟩ := mem
  · simp only [fontValue, JsonValue.IsSound, JsonValue.AreSoundFields, isSound_realValue, and_self]
  · trivial
  · trivial
  · simp only [layoutValue, JsonValue.IsSound, JsonValue.AreSoundFields, isSound_realValue, and_self]
  · trivial
  · trivial

theorem isSound_runValue (run : Run) (text : List Char) :
  (runValue run text).IsSound
  := by
  simp only [runValue, JsonValue.IsSound, JsonValue.AreSoundFields, isSound_nat,
    isSound_attributesValue, and_self]

theorem isSound_value (r : Report) :
  r.value.IsSound
  := by
  have items : JsonValue.AreSound (r.runs.map fun entry => runValue entry.1 entry.2) := by
    rw [JsonValue.areSound_iff]
    intro v mem
    obtain ⟨entry, -, rfl⟩ := List.mem_map.mp mem
    exact isSound_runValue entry.1 entry.2
  simp only [value, statsValue, JsonValue.IsSound, JsonValue.AreSoundFields, isSound_nat, items,
    and_self]

/-- The report in JSON says its value. -/
theorem isSaidBy_value (r : Report) :
  r.value.IsSaidBy r.json
  := ⟨r.isSound_value, rfl⟩

/-- The span and the text that an item of a report in JSON is about. -/
def readItem? (v : JsonValue) : Option (Span × List Char) := do
  let start ← (← v.field? "start").nat?
  let stop ← (← v.field? "end").nat?
  let text ← (← v.field? "text").text?
  return (⟨start, stop⟩, text.toList)

/-- The spans that a report in JSON is about, with their texts. -/
def readSpans? (v : JsonValue) : Option (List (Span × List Char)) := do
  let items ← (← v.field? "spans").items?
  items.mapM readItem?

theorem readItem?_runValue (run : Run) (text : List Char) :
  readItem? (runValue run text) = some (run.span, text)
  := by
  have start : (JsonValue.nat run.span.start).nat? = some run.span.start := Nat.toNat?_repr _
  have stop : (JsonValue.nat run.span.stop).nat? = some run.span.stop := Nat.toNat?_repr _
  simp [readItem?, runValue, JsonValue.field?, JsonValue.text?, List.lookup, start, stop]

theorem mapM_readItem? (runs : List (Run × List Char)) :
  (runs.map fun entry => runValue entry.1 entry.2).mapM readItem?
    = some (runs.map fun entry => (entry.1.span, entry.2))
  := by
  induction runs with
  | nil => rfl
  | cons entry runs ih =>
    rw [List.map_cons, List.mapM_cons, readItem?_runValue, ih]
    rfl

/-- The spans and the texts of a report can be read from its value. -/
theorem readSpans?_value (r : Report) :
  readSpans? r.value = some (r.runs.map fun entry => (entry.1.span, entry.2))
  := by
  rw [← mapM_readItem?]
  rfl

/-- A report loses nothing of the text of a buffer. -/
structure IsLossless (b : Buffer) (r : Report) : Prop where
  /-- It has the runs of the buffer. -/
  runs : r.runs.map Prod.fst = b.runs
  /-- Each has the text of its span. -/
  texts : ∀ entry ∈ r.runs, b.textIn? entry.1.span = some entry.2
  /-- Its form in JSON says a value. -/
  said : ∃ v : JsonValue, v.IsSaidBy r.json
  /-- In whatever value it says, the spans are those of the runs, which follow one another from the
  start of the buffer to its end, and the texts one after the other are the text of the buffer. -/
  spans : ∀ v : JsonValue, v.IsSaidBy r.json → ∃ parts, readSpans? v = some parts
    ∧ parts.map Prod.fst = b.runs.map Run.span ∧ Tile b.length 0 (parts.map Prod.fst)
    ∧ parts.flatMap Prod.snd = b.chars
  /-- Its plain form has the line of each run and the last line, and the line feeds in it are the
  ends of these lines. -/
  lines : r.plain.toList.splitOn '\n'
    = (r.runs.map fun entry => (line entry.1 entry.2).toList.dropLast)
      ++ [r.lastLine.toList.dropLast, []]

/-- The report on a buffer loses nothing of its text. -/
theorem isLossless_ofBuffer (b : Buffer) (stats : Stats) :
  IsLossless b (ofBuffer b stats)
  := by
  have place : Place.ofUnits 0 b.chars = ⟨[].reverse, b.chars⟩ := Place.advance_zero [] b.chars
  obtain ⟨runs, texts, whole⟩ := cutRuns_spec b.tile_runs place
  refine ⟨runs, texts, ⟨_, isSaidBy_value _⟩, ?_, splitOn_plain _⟩
  intro v said
  obtain rfl := said.unique (isSaidBy_value _)
  have spans : ((ofBuffer b stats).runs.map fun entry => (entry.1.span, entry.2)).map Prod.fst
      = b.runs.map Run.span := by
    rw [← runs, List.map_map, List.map_map]
    rfl
  refine ⟨_, readSpans?_value _, spans, ?_, ?_⟩
  · rw [spans]
    exact b.tile_runs
  · rw [List.flatMap_map]
    exact whole

/-- A character with a code unit in each of two runs belongs to the second one. -/
example :
  let b := (Buffer.ofText ['😀', 'a'] {}).addAttribute ⟨1, 3⟩ (.underline .single)
  (ofBuffer b {}).runs.map (fun entry => (entry.1.span, entry.2))
    = [(⟨0, 1⟩, []), (⟨1, 3⟩, ['😀', 'a'])]
  := by
  decide +kernel

end Report

end LiveMarkdown
