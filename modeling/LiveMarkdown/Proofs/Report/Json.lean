import LiveMarkdown.Proofs.Report.Numbers
import LiveMarkdown.Report.Json
import LiveMarkdown.Text.Digits

/-!
# Reading JSON

A text of JSON is the text of one value only, provided that a number is written in the characters of
numbers.  So the fields of a value can be told from its text.

* An escaped character can be told from what follows, and does not start with a quotation mark.
* A number ends where another character stands.
* The first character of a value tells of what sort it is.
-/

namespace LiveMarkdown

namespace JsonValue

/-! ### Texts -/

/-- The first character of an escaped text, and the rest. -/
def unescape? : List Char → Option (Char × List Char)
  | [] => none
  | '\\' :: 'b' :: cs => some ('\x08', cs)
  | '\\' :: 'f' :: cs => some ('\x0c', cs)
  | '\\' :: 'n' :: cs => some ('\n', cs)
  | '\\' :: 'r' :: cs => some ('\r', cs)
  | '\\' :: 't' :: cs => some ('\t', cs)
  | '\\' :: 'u' :: cs => (readDigits? 16 (cs.take 4)).map fun n => (Char.ofNat n, cs.drop 4)
  | '\\' :: c :: cs => some (c, cs)
  | c :: cs => some (c, cs)

theorem unescape?_of_ne {c : Char} (other : c ≠ '\\') (rest : List Char) :
  unescape? (c :: rest) = some (c, rest)
  := by
  unfold unescape?
  split
  case h_9 same =>
    obtain ⟨rfl, rfl⟩ := List.cons.inj same
    rfl
  case h_1 same => cases same
  all_goals
    rename_i same
    exact absurd (List.cons.inj same).1 other

theorem readDigits?_of_control :
  ∀ n < 0x20, readDigits? 16 ['0', '0', Nat.digitChar (n / 16), Nat.digitChar (n % 16)] = some n
  := by
  decide

/-- An escaped character can be read. -/
theorem unescape?_escape (c : Char) (rest : List Char) :
  unescape? (escape c ++ rest) = some (c, rest)
  := by
  unfold escape
  split
  case h_8 _ slash _ _ _ _ _ =>
    dsimp only
    split
    · rename_i control
      change (readDigits? 16 ['0', '0', Nat.digitChar (c.toNat / 16), Nat.digitChar (c.toNat % 16)]).map
        (fun n => (Char.ofNat n, rest)) = _
      rw [readDigits?_of_control c.toNat control, Option.map_some, Char.ofNat_toNat]
    · exact unescape?_of_ne slash rest
  all_goals rfl

/-- An escaped character is no quotation mark. -/
theorem escape_ne_quote (c : Char) (rest rest' : List Char) :
  escape c ++ rest ≠ '"' :: rest'
  := by
  intro same
  unfold escape at same
  split at same
  case h_8 quote _ _ _ _ _ _ =>
    dsimp only at same
    split at same
    · cases same
    · exact quote (List.cons.inj same).1
  all_goals cases same

/-- A quoted text can be told from what follows. -/
theorem quoted_inj {s t x y : List Char}
    (same : s.flatMap escape ++ '"' :: x = t.flatMap escape ++ '"' :: y) :
  s = t ∧ x = y
  := by
  induction s generalizing t with
  | nil =>
    cases t with
    | nil => exact ⟨rfl, (List.cons.inj same).2⟩
    | cons d t =>
      rw [List.flatMap_cons, List.append_assoc] at same
      exact absurd same.symm (escape_ne_quote d _ _)
  | cons c s ih =>
    rw [List.flatMap_cons, List.append_assoc] at same
    cases t with
    | nil => exact absurd same (escape_ne_quote c _ _)
    | cons d t =>
      rw [List.flatMap_cons, List.append_assoc] at same
      have read := congrArg unescape? same
      rw [unescape?_escape, unescape?_escape, Option.some.injEq, Prod.mk.injEq] at read
      obtain ⟨rfl, rest⟩ := read
      obtain ⟨rfl, rest'⟩ := ih rest
      exact ⟨rfl, rest'⟩

theorem quoteText_inj {s t : String} {x y : List Char}
    (same : (quoteText s).toList ++ x = (quoteText t).toList ++ y) :
  s = t ∧ x = y
  := by
  simp only [quoteText, String.toList_ofList, List.cons_append, List.append_assoc, List.nil_append,
    List.cons.injEq, true_and] at same
  obtain ⟨text, rest⟩ := quoted_inj same
  exact ⟨String.toList_injective text, rest⟩

/-! ### Numbers -/

/-- A text does not go on with a character of a number. -/
def EndsNumber (cs : List Char) : Prop :=
  ∀ c ∈ cs.head?, ¬ isNumberChar c

/-- A number can be told from what follows. -/
theorem number_inj {s t x y : List Char} (hs : IsNumeral s) (ht : IsNumeral t)
    (hx : EndsNumber x) (hy : EndsNumber y)
    (same : s ++ x = t ++ y) :
  s = t ∧ x = y
  := by
  have stops {z : List Char} (hz : EndsNumber z) : z.takeWhile isNumberChar = [] := by
    cases z with
    | nil => rfl
    | cons c z => exact List.takeWhile_cons_of_neg (hz c rfl)
  have first := congrArg (List.takeWhile isNumberChar) same
  rw [List.takeWhile_append_of_pos hs, List.takeWhile_append_of_pos ht, stops hx, stops hy,
    List.append_nil, List.append_nil] at first
  subst first
  exact ⟨rfl, List.append_cancel_left same⟩

/-! ### Values -/

mutual

/-- The numbers in a value are written in the characters of numbers. -/
def IsSound : JsonValue → Prop
  | .number written => written.toList ≠ [] ∧ IsNumeral written.toList
  | .list items => AreSound items
  | .object fields => AreSoundFields fields
  | .null | .bool _ | .text _ => True

/-- The numbers in some values are written in the characters of numbers. -/
def AreSound : List JsonValue → Prop
  | [] => True
  | v :: vs => IsSound v ∧ AreSound vs

/-- The numbers in some fields are written in the characters of numbers. -/
def AreSoundFields : List (String × JsonValue) → Prop
  | [] => True
  | (_, v) :: fields => IsSound v ∧ AreSoundFields fields

end

theorem areSound_iff {vs : List JsonValue} :
  AreSound vs ↔ ∀ v ∈ vs, v.IsSound
  := by
  induction vs with
  | nil => simp [AreSound]
  | cons v vs ih => rw [AreSound, ih, List.forall_mem_cons]

theorem areSoundFields_iff {fields : List (String × JsonValue)} :
  AreSoundFields fields ↔ ∀ field ∈ fields, field.2.IsSound
  := by
  induction fields with
  | nil => simp [AreSoundFields]
  | cons field fields ih => rw [AreSoundFields, ih, List.forall_mem_cons]

/-- The sort of a value. -/
inductive Kind where
  /-- Nothing. -/
  | null
  /-- A truth value. -/
  | bool (value : Bool)
  /-- A number. -/
  | number
  /-- A text. -/
  | text
  /-- A list. -/
  | list
  /-- An object. -/
  | object
deriving DecidableEq

/-- The sort of a value. -/
def kind : JsonValue → Kind
  | .null => .null
  | .bool value => .bool value
  | .number _ => .number
  | .text _ => .text
  | .list _ => .list
  | .object _ => .object

/-- The sort of the values that start with a character. -/
def kindOf (c : Char) : Kind :=
  match c with
  | 'n' => .null
  | 't' => .bool true
  | 'f' => .bool false
  | '"' => .text
  | '[' => .list
  | '\x7b' => .object
  | _ => .number

theorem kindOf_of_isNumberChar {c : Char} (number : isNumberChar c) :
  kindOf c = .number
  := by
  unfold kindOf
  split
  case h_7 => rfl
  all_goals cases number

/-! ### Lists and objects -/

section

variable {α : Type} {body : α → List Char} {ok : α → Prop} {as bs : List α} {opening closing : Char}
  {depth : Nat} {x y : List Char}

/-- The text of entries after the first one, each of which has a line of its own. -/
def entriesText (depth : Nat) (body : α → List Char) (as : List α) : List Char :=
  as.flatMap fun a => ',' :: ((newline depth).toList ++ body a)

/-- The text of a list or an object with some entries. -/
def blockText (opening closing : Char) (depth : Nat) (body : α → List Char) : List α → List Char
  | [] => [opening, closing]
  | a :: as => opening :: ((newline (depth + 1)).toList ++ (body a
      ++ (entriesText (depth + 1) body as ++ ((newline depth).toList ++ [closing]))))

/-- An entry can be told from its text, whatever follows that is not part of a number. -/
def IsToldBy (body : α → List Char) (ok : α → Prop) (a : α) : Prop :=
  ∀ b, ok b → ∀ x y, EndsNumber x → EndsNumber y → body a ++ x = body b ++ y → a = b ∧ x = y

theorem toList_newline (depth : Nat) :
  (newline depth).toList = '\n' :: List.replicate (2 * depth) ' '
  := String.toList_ofList

theorem exists_blockText (as : List α) :
  ∃ rest, blockText opening closing depth body as = opening :: rest
  := by
  cases as with
  | nil => exact ⟨_, rfl⟩
  | cons a as => exact ⟨_, rfl⟩

/-- After an entry there is a comma, or the line that ends the block. -/
theorem endsNumber_entriesText (as : List α) (n : Nat) (rest : List Char) :
  EndsNumber (entriesText depth body as ++ ((newline n).toList ++ rest))
  := by
  cases as with
  | nil =>
    rw [toList_newline]
    rintro c ⟨⟩
    decide
  | cons a as =>
    rintro c ⟨⟩
    decide

/-- Some entries have another text than none. -/
theorem entriesText_nil_ne (a : α) (as : List α) (n : Nat) :
  entriesText depth body [] ++ ((newline n).toList ++ x) ≠ entriesText depth body (a :: as) ++ y
  := by
  rw [toList_newline]
  intro same
  cases (List.cons.inj same).1

/-- A block with entries has another text than one without. -/
theorem blockText_nil_ne (ends : closing ≠ '\n') (a : α) (as : List α) :
  blockText opening closing depth body [] ++ x ≠ blockText opening closing depth body (a :: as) ++ y
  := by
  rw [blockText, blockText, toList_newline]
  intro same
  exact ends (List.cons.inj (List.cons.inj same).2).1

/-- Entries can be told from their text. -/
theorem entriesText_inj (each : ∀ a ∈ as, IsToldBy body ok a) (sound : ∀ b ∈ bs, ok b) {n : Nat}
    (same : entriesText depth body as ++ ((newline n).toList ++ x)
      = entriesText depth body bs ++ ((newline n).toList ++ y)) :
  as = bs ∧ x = y
  := by
  induction as generalizing bs with
  | nil =>
    cases bs with
    | nil => exact ⟨rfl, List.append_cancel_left same⟩
    | cons b bs => exact absurd same (entriesText_nil_ne b bs n)
  | cons a as ih =>
    cases bs with
    | nil => exact absurd same.symm (entriesText_nil_ne a as n)
    | cons b bs =>
      rw [List.forall_mem_cons] at each sound
      simp only [entriesText, List.flatMap_cons, List.cons_append, List.append_assoc,
        List.cons.injEq, true_and, List.append_cancel_left_eq] at same
      obtain ⟨rfl, others⟩ := each.1 b sound.1 _ _ (endsNumber_entriesText as n x)
        (endsNumber_entriesText bs n y) same
      obtain ⟨rfl, after⟩ := ih each.2 sound.2 others
      exact ⟨rfl, after⟩

/-- The entries of a block can be told from its text. -/
theorem blockText_inj (ends : closing ≠ '\n') (each : ∀ a ∈ as, IsToldBy body ok a)
    (sound : ∀ b ∈ bs, ok b)
    (same : blockText opening closing depth body as ++ x
      = blockText opening closing depth body bs ++ y) :
  as = bs ∧ x = y
  := by
  cases as with
  | nil =>
    cases bs with
    | nil => exact ⟨rfl, List.append_cancel_left same⟩
    | cons b bs => exact absurd same (blockText_nil_ne ends b bs)
  | cons a as =>
    cases bs with
    | nil => exact absurd same.symm (blockText_nil_ne ends a as)
    | cons b bs =>
      rw [List.forall_mem_cons] at each sound
      simp only [blockText, List.cons_append, List.append_assoc, List.cons.injEq, true_and,
        List.append_cancel_left_eq] at same
      obtain ⟨rfl, others⟩ := each.1 b sound.1 _ _ (endsNumber_entriesText as depth _)
        (endsNumber_entriesText bs depth _) same
      obtain ⟨rfl, after⟩ := entriesText_inj each.2 sound.2 others
      exact ⟨rfl, (List.cons.inj after).2⟩

end

/-! ### The text of a value -/

/-- The text of a field. -/
def fieldText (depth : Nat) (field : String × JsonValue) : List Char :=
  (quoteText field.1).toList ++ (": ".toList ++ (field.2.render depth).toList)

theorem toList_renderItems (depth : Nat) (items : List JsonValue) :
  (renderItems depth items).toList = entriesText depth (fun v => (v.render depth).toList) items
  := by
  induction items with
  | nil =>
    rw [renderItems]
    rfl
  | cons item rest ih =>
    simp only [renderItems, String.toList_append, List.append_assoc, ih, entriesText,
      List.flatMap_cons, List.cons_append]
    rfl

theorem toList_renderFields (depth : Nat) (fields : List (String × JsonValue)) :
  (renderFields depth fields).toList = entriesText depth (fieldText depth) fields
  := by
  induction fields with
  | nil =>
    rw [renderFields]
    rfl
  | cons field rest ih =>
    obtain ⟨name, value⟩ := field
    simp only [renderFields, String.toList_append, List.append_assoc, ih, entriesText,
      List.flatMap_cons, List.cons_append, fieldText]
    rfl

theorem toList_render_list (depth : Nat) (items : List JsonValue) :
  ((list items).render depth).toList
    = blockText '[' ']' depth (fun v => (v.render (depth + 1)).toList) items
  := by
  cases items with
  | nil =>
    rw [render]
    rfl
  | cons item rest =>
    simp only [render, String.toList_append, List.append_assoc, toList_renderItems, blockText]
    rfl

theorem toList_render_object (depth : Nat) (fields : List (String × JsonValue)) :
  ((object fields).render depth).toList
    = blockText '\x7b' '\x7d' depth (fieldText (depth + 1)) fields
  := by
  cases fields with
  | nil =>
    rw [render]
    rfl
  | cons field rest =>
    obtain ⟨name, value⟩ := field
    simp only [render, String.toList_append, List.append_assoc, toList_renderFields, blockText,
      fieldText]
    rfl

/-- The first character of a value tells of what sort it is. -/
theorem exists_head (depth : Nat) {v : JsonValue} (sound : v.IsSound) :
  ∃ c cs, (v.render depth).toList = c :: cs ∧ kindOf c = v.kind
  := by
  cases v with
  | null => exact ⟨'n', "ull".toList, by rw [render]; rfl, rfl⟩
  | bool value =>
    cases value with
    | false => exact ⟨'f', "alse".toList, by rw [render]; rfl, rfl⟩
    | true => exact ⟨'t', "rue".toList, by rw [render]; rfl, rfl⟩
  | number written =>
    obtain ⟨some, each⟩ := sound
    obtain ⟨c, cs, first⟩ := List.exists_cons_of_ne_nil some
    refine ⟨c, cs, by rw [render, first], kindOf_of_isNumberChar (each c ?_)⟩
    rw [first]
    exact List.mem_cons_self
  | text value => exact ⟨'"', _, by rw [render]; exact String.toList_ofList, rfl⟩
  | list items =>
    obtain ⟨rest, block⟩ := exists_blockText items
    exact ⟨'[', rest, (toList_render_list depth items).trans block, rfl⟩
  | object fields =>
    obtain ⟨rest, block⟩ := exists_blockText fields
    exact ⟨'\x7b', rest, (toList_render_object depth fields).trans block, rfl⟩

/-- Values with the same text are of the same sort. -/
theorem kind_eq {depth : Nat} {v w : JsonValue} (hv : v.IsSound) (hw : w.IsSound) {x y : List Char}
    (same : (v.render depth).toList ++ x = (w.render depth).toList ++ y) :
  v.kind = w.kind
  := by
  obtain ⟨c, cs, first, kind⟩ := exists_head depth hv
  obtain ⟨d, ds, first', kind'⟩ := exists_head depth hw
  rw [first, first', List.cons_append, List.cons_append, List.cons.injEq] at same
  rw [← kind, ← kind', same.1]

/-! ### Each sort of value -/

/-- A value can be told from its text. -/
def IsReadable (v : JsonValue) : Prop :=
  v.IsSound → ∀ depth, IsToldBy (fun w => (w.render depth).toList) IsSound v

/-- A field can be told from its text if its value can. -/
theorem isToldBy_field {field : String × JsonValue} (sound : field.2.IsSound)
    (readable : field.2.IsReadable) (depth : Nat) :
  IsToldBy (fieldText depth) (fun field => field.2.IsSound) field
  := by
  intro field' sound' x y hx hy same
  simp only [fieldText, List.append_assoc] at same
  obtain ⟨name, values⟩ := quoteText_inj same
  obtain ⟨value, rest⟩ := readable sound depth field'.2 sound' x y hx hy
    (List.append_cancel_left values)
  exact ⟨Prod.ext name value, rest⟩

theorem isReadable_null :
  null.IsReadable
  := by
  intro hv depth w hw x y hx hy same
  have kinds := kind_eq hv hw same
  cases w with
  | null => exact ⟨rfl, List.append_cancel_left same⟩
  | _ => cases kinds

theorem isReadable_bool (value : Bool) :
  (bool value).IsReadable
  := by
  intro hv depth w hw x y hx hy same
  have kinds := kind_eq hv hw same
  cases w with
  | bool value' =>
    obtain rfl := Kind.bool.inj kinds
    exact ⟨rfl, List.append_cancel_left same⟩
  | _ => cases kinds

theorem isReadable_number (written : String) :
  (number written).IsReadable
  := by
  intro hv depth w hw x y hx hy same
  have kinds := kind_eq hv hw same
  cases w with
  | number written' =>
    simp only [render] at same
    obtain ⟨text, rest⟩ := number_inj hv.2 hw.2 hx hy same
    exact ⟨congrArg number (String.toList_injective text), rest⟩
  | _ => cases kinds

theorem isReadable_text (value : String) :
  (text value).IsReadable
  := by
  intro hv depth w hw x y hx hy same
  have kinds := kind_eq hv hw same
  cases w with
  | text value' =>
    simp only [render] at same
    obtain ⟨rfl, rest⟩ := quoteText_inj same
    exact ⟨rfl, rest⟩
  | _ => cases kinds

theorem isReadable_list {items : List JsonValue} (each : ∀ v ∈ items, v.IsReadable) :
  (list items).IsReadable
  := by
  intro hv depth w hw x y hx hy same
  have kinds := kind_eq hv hw same
  cases w with
  | list items' =>
    simp only [toList_render_list] at same
    rw [IsSound, areSound_iff] at hv hw
    obtain ⟨rfl, rest⟩ :=
      blockText_inj (by decide) (fun v mem => each v mem (hv v mem) (depth + 1)) hw same
    exact ⟨rfl, rest⟩
  | _ => cases kinds

theorem isReadable_object {fields : List (String × JsonValue)}
    (each : ∀ field ∈ fields, field.2.IsReadable) :
  (object fields).IsReadable
  := by
  intro hv depth w hw x y hx hy same
  have kinds := kind_eq hv hw same
  cases w with
  | object fields' =>
    simp only [toList_render_object] at same
    rw [IsSound, areSoundFields_iff] at hv hw
    obtain ⟨rfl, rest⟩ := blockText_inj (by decide)
      (fun field mem => isToldBy_field (hv field mem) (each field mem) (depth + 1)) hw same
    exact ⟨rfl, rest⟩
  | _ => cases kinds

/-- Every value can be told from its text. -/
theorem isReadable : (v : JsonValue) → v.IsReadable
  | .null => isReadable_null
  | .bool value => isReadable_bool value
  | .number written => isReadable_number written
  | .text value => isReadable_text value
  | .list items => isReadable_list fun v _ => isReadable v
  | .object fields => isReadable_object fun field _ => isReadable field.2
termination_by v => sizeOf v
decreasing_by
  · rename_i mem
    have size := List.sizeOf_lt_of_mem mem
    simp only [list.sizeOf_spec]
    omega
  · rename_i mem
    have size := List.sizeOf_lt_of_mem mem
    obtain ⟨name, value⟩ := field
    simp only [object.sizeOf_spec, Prod.mk.sizeOf_spec] at size ⊢
    omega

/-- A text says a value of JSON: it is its text. -/
def IsSaidBy (text : String) (v : JsonValue) : Prop :=
  v.IsSound ∧ v.render 0 = text

/-- A text says one value only. -/
theorem IsSaidBy.unique {text : String} {v w : JsonValue} (hv : v.IsSaidBy text)
    (hw : w.IsSaidBy text) :
  v = w
  := by
  have same : (v.render 0).toList ++ [] = (w.render 0).toList ++ [] := by
    rw [hv.2, hw.2]
  exact (isReadable v hv.1 0 w hw.1 [] [] nofun nofun same).1

end JsonValue

end LiveMarkdown
