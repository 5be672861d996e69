import LiveMarkdown.Style.Color
import Mathlib

/-!
# The text of a color

A color is written with two hexadecimal digits for each channel.  White space around the text and
number signs before it do not count.  Every text of this form is read, and the channels are the
values of the pairs.  But more is read: a channel is any number in base sixteen of two characters, so
a plus sign may stand for the first digit.  These are the only other texts that are read.
-/

namespace LiveMarkdown

/-! ### Hexadecimal digits -/

/-- The value of a hexadecimal digit, of either case. -/
def hexValue? (c : Char) : Option Nat :=
  "0123456789abcdef".toList.idxOf? c.toLower

theorem digitValue?_ofNat :
  ∀ n : Fin 128, digitValue? 16 (Char.ofNat n) = hexValue? (Char.ofNat n)
  := by
  decide +kernel

/-- A hexadecimal digit is an ASCII character with a value below sixteen. -/
theorem lt_of_hexValue? {c : Char} {n : Nat} (h : hexValue? c = some n) :
  n < 16 ∧ c.toNat < 128
  := by
  constructor
  · exact (List.findIdx?_eq_some_iff_findIdx_eq.mp h).1
  · have mem : c.toLower ∈ "0123456789abcdef".toList := by
      by_contra none
      rw [hexValue?, List.idxOf?_eq_none_iff.mpr none] at h
      cases h
    have ascii : ∀ d ∈ "0123456789abcdef".toList, d.toNat < 128 := by simp
    by_contra beyond
    have same : c.toLower = c := by
      apply dif_neg
      rintro ⟨-, upper⟩
      exact beyond (Nat.lt_of_le_of_lt upper (by decide))
    exact beyond (ascii c (same ▸ mem))

/-- The digits of base sixteen are the hexadecimal digits. -/
theorem digitValue?_sixteen (c : Char) :
  digitValue? 16 c = hexValue? c
  := by
  by_cases ascii : c.toNat < 128
  · have value := digitValue?_ofNat ⟨c.toNat, ascii⟩
    rwa [Char.ofNat_toNat] at value
  · have no (d : Char) (small : d.toNat < 128) : ¬ c ≤ d := by
      intro le
      exact ascii (Nat.lt_of_le_of_lt le small)
    have digit : c.isDigit = false :=
      Bool.and_eq_false_iff.mpr (.inr (decide_eq_false (no '9' (by decide))))
    have left : digitValue? 16 c = none := by
      simp [digitValue?, digit, no 'f' (by decide), no 'F' (by decide)]
    rw [left]
    symm
    rw [Option.eq_none_iff_forall_ne_some]
    intro n value
    exact ascii (lt_of_hexValue? value).2

/-! ### Text around a color -/

/-- A text is `body` with number signs before it and white space around all this. -/
def IsStripped (cs body : List Char) : Prop :=
  ∃ before signs after, cs = before ++ (signs ++ body) ++ after
    ∧ (∀ c ∈ before, isBlank c) ∧ (∀ c ∈ signs, c = '#') ∧ (∀ c ∈ after, isBlank c)
    ∧ (∀ c ∈ (signs ++ body).head?, ¬ isBlank c) ∧ (∀ c ∈ (signs ++ body).getLast?, ¬ isBlank c)
    ∧ body.head? ≠ some '#'

theorem dropWhile_append {α : Type} {p : α → Bool} {xs ys : List α} (first : ∀ x ∈ xs, p x)
    (next : ∀ y ∈ ys.head?, ¬ p y) :
  (xs ++ ys).dropWhile p = ys
  := by
  rw [List.dropWhile_append_of_pos first]
  cases ys with
  | nil => rfl
  | cons y ys => exact List.dropWhile_cons_of_neg (next y rfl)

theorem not_of_head?_dropWhile {α : Type} {p : α → Bool} {cs : List α} {c : α}
    (first : (cs.dropWhile p).head? = some c) :
  ¬ p c
  := by
  have none := List.head?_dropWhile_not p cs
  rw [first] at none
  exact Bool.not_eq_true _ ▸ none

/-- White space around a text that neither starts nor ends with any is dropped. -/
theorem dropWhile_blank {before core after : List Char} (blank : ∀ c ∈ before, isBlank c)
    (blank' : ∀ c ∈ after, isBlank c) (start : ∀ c ∈ core.head?, ¬ isBlank c)
    (stop : ∀ c ∈ core.getLast?, ¬ isBlank c) :
  (((before ++ core ++ after).dropWhile isBlank).reverse.dropWhile isBlank).reverse = core
  := by
  have last : ∀ c ∈ core.reverse.head?, ¬ isBlank c := by rwa [List.head?_reverse]
  have back : (core ++ after).reverse.dropWhile isBlank = core.reverse := by
    rw [List.reverse_append]
    apply dropWhile_append _ last
    intro c hc
    exact blank' c (List.mem_reverse.mp hc)
  rw [List.append_assoc, List.dropWhile_append_of_pos blank]
  cases core with
  | nil =>
    -- nothing but white space
    have none : after.dropWhile isBlank = [] := by
      simpa using blank'
    rw [List.nil_append, none]
    rfl
  | cons c core =>
    rw [List.cons_append, List.dropWhile_cons_of_neg (start c rfl), ← List.cons_append, back,
      List.reverse_reverse]

/-- A text is stripped of what is around it. -/
theorem isStripped_iff {cs body : List Char} :
  IsStripped cs body ↔ body = Color.stripped cs
  := by
  constructor
  · rintro ⟨before, signs, after, rfl, blank, sharp, blank', start, stop, plain⟩
    rw [Color.stripped, dropWhile_blank blank blank' start stop]
    symm
    apply dropWhile_append
    · intro c hc
      exact beq_iff_eq.mpr (sharp c hc)
    · rintro c hc sign
      obtain rfl := beq_iff_eq.mp sign
      exact plain hc
  · rintro rfl
    have middle : cs.dropWhile isBlank
        = (cs.dropWhile isBlank).rdropWhile isBlank ++ (cs.dropWhile isBlank).rtakeWhile isBlank :=
      List.rdropWhile_append_rtakeWhile.symm
    have signed : (cs.dropWhile isBlank).rdropWhile isBlank
        = ((cs.dropWhile isBlank).rdropWhile isBlank).takeWhile (· == '#') ++ Color.stripped cs :=
      List.takeWhile_append_dropWhile.symm
    have parts := List.takeWhile_append_dropWhile (p := isBlank) (l := cs)
    rw [middle, signed, ← List.append_assoc] at parts
    refine ⟨_, _, _, parts.symm, ?_, ?_, ?_, ?_, ?_, ?_⟩
    · intro c hc
      exact List.mem_takeWhile_imp hc
    · intro c hc
      have sign := List.mem_takeWhile_imp (p := (· == '#')) hc
      exact beq_iff_eq.mp sign
    · intro c hc
      exact List.mem_rtakeWhile_imp hc
    · rw [← signed]
      intro c hc
      obtain ⟨more, first⟩ := List.head?_eq_some_iff.mp hc
      obtain ⟨after, whole⟩ := List.rdropWhile_prefix isBlank (cs.dropWhile isBlank)
      have head : (cs.dropWhile isBlank).head? = some c := by
        rw [← whole, first]
        rfl
      exact not_of_head?_dropWhile head
    · rw [← signed, List.rdropWhile, List.getLast?_reverse]
      exact fun _ => not_of_head?_dropWhile
    · intro sign
      exact not_of_head?_dropWhile sign rfl

/-- A character that is neither white space nor a number sign is not dropped. -/
theorem IsStripped.mem_iff {cs body : List Char} {c : Char} (h : IsStripped cs body)
    (dark : ¬ isBlank c) (plain : c ≠ '#') :
  c ∈ cs ↔ c ∈ body
  := by
  obtain ⟨before, signs, after, rfl, blank, sharp, blank', -⟩ := h
  have left : c ∉ before := fun hc => dark (blank c hc)
  have middle : c ∉ signs := fun hc => plain (sharp c hc)
  have right : c ∉ after := fun hc => dark (blank' c hc)
  simp [left, middle, right]

/-! ### Channels -/

/-- Two hexadecimal digits write `n`. -/
def IsHexPair (x y : Char) (n : UInt8) : Prop :=
  ∃ i ∈ hexValue? x, ∃ j ∈ hexValue? y, n.toNat = 16 * i + j

/-- Two hexadecimal digits write `n`, or a plus sign and one digit do. -/
def IsChannel (x y : Char) (n : UInt8) : Prop :=
  IsHexPair x y n ∨ x = '+' ∧ hexValue? y = some n.toNat

theorem readDigits?_pair {x y : Char} {n : Nat} :
  readDigits? 16 [x, y] = some n ↔ ∃ i ∈ hexValue? x, ∃ j ∈ hexValue? y, n = 16 * i + j
  := by
  simp [readDigits?, digitValue?_sixteen, Option.bind_eq_some_iff, eq_comm (a := n)]

theorem readDigits?_single {y : Char} :
  readDigits? 16 [y] = hexValue? y
  := by
  simp [readDigits?, digitValue?_sixteen]

/-- The number of an octet is read off it. -/
theorem map_toUInt8_eq_some_iff {number : Option Nat} (small : ∀ n ∈ number, n < 256) {n : UInt8} :
  number.map Nat.toUInt8 = some n ↔ number = some n.toNat
  := by
  rw [Option.map_eq_some_iff]
  constructor
  · rintro ⟨m, rfl, rfl⟩
    rw [UInt8.toNat_ofNat_of_lt' (small m rfl)]
  · intro h
    exact ⟨n.toNat, h, UInt8.ofNat_toNat⟩

/-- A channel is read from two digits, or from a plus sign and a digit. -/
theorem channel?_eq_some_iff {x y : Char} {n : UInt8} :
  Color.channel? x y = some n ↔ IsChannel x y n
  := by
  by_cases plus : x = '+'
  · have small : ∀ m ∈ hexValue? y, m < 256 := by
      intro m value
      exact Nat.lt_trans (lt_of_hexValue? value).1 (by decide)
    have none : ¬ IsHexPair x y n := by
      rintro ⟨i, value, -⟩
      rw [plus] at value
      cases value
    rw [Color.channel?, if_pos plus, readDigits?_single, map_toUInt8_eq_some_iff small, IsChannel,
      or_iff_right none, and_iff_right plus]
  · have small : ∀ m ∈ readDigits? 16 [x, y], m < 256 := by
      intro m read
      obtain ⟨i, hi, j, hj, rfl⟩ := readDigits?_pair.mp read
      have := (lt_of_hexValue? hi).1
      have := (lt_of_hexValue? hj).1
      omega
    rw [Color.channel?, if_neg plus, map_toUInt8_eq_some_iff small, readDigits?_pair, IsChannel]
    simp [IsHexPair, plus]

/-- No sign is a digit. -/
theorem isHexPair_iff {x y : Char} {n : UInt8} :
  IsHexPair x y n ↔ IsChannel x y n ∧ x ≠ '+'
  := by
  constructor
  · intro pair
    refine ⟨.inl pair, ?_⟩
    rintro rfl
    obtain ⟨i, value, -⟩ := pair
    cases value
  · rintro ⟨pair | ⟨plus, -⟩, other⟩
    · exact pair
    · exact absurd plus other

theorem IsChannel.ne_plus {x y : Char} {n : UInt8} (h : IsChannel x y n) :
  y ≠ '+'
  := by
  rintro rfl
  obtain ⟨i, -, j, value, -⟩ | ⟨-, value⟩ := h
  · cases value
  · cases value

theorem IsChannel.ascii {x y : Char} {n : UInt8} (h : IsChannel x y n) :
  x.toNat < 128 ∧ y.toNat < 128
  := by
  obtain ⟨i, hi, j, hj, -⟩ | ⟨rfl, hj⟩ := h
  · exact ⟨(lt_of_hexValue? hi).2, (lt_of_hexValue? hj).2⟩
  · exact ⟨by decide, (lt_of_hexValue? hj).2⟩

/-! ### Colors -/

/-- Two steps succeed if the first one does and the second one does with its result. -/
theorem bind_eq_ok_iff {ε α β : Type} {x : Except ε α} {next : α → Except ε β} {b : β} :
  x >>= next = .ok b ↔ ∃ a, x = .ok a ∧ next a = .ok b
  := by
  cases x with
  | error e => exact ⟨nofun, nofun⟩
  | ok a => exact ⟨fun h => ⟨a, rfl, h⟩, fun ⟨_, h, h'⟩ => Except.ok.inj h ▸ h'⟩

/-- A list of characters spells a list of numbers, with two characters for each number as `channel`
has it. -/
inductive Spells (channel : Char → Char → UInt8 → Prop) : List Char → List UInt8 → Prop where
  /-- No characters spell no numbers. -/
  | nil : Spells channel [] []
  /-- The first two characters spell the first number. -/
  | cons {x y : Char} {n : UInt8} {cs : List Char} {ns : List UInt8} :
      channel x y n → Spells channel cs ns → Spells channel (x :: y :: cs) (n :: ns)

namespace Spells

variable {channel : Char → Char → UInt8 → Prop} {cs : List Char} {n : UInt8} {ns : List UInt8}

/-- What is spelled is in ASCII. -/
theorem ascii (h : Spells IsChannel cs ns) :
  ∀ c ∈ cs, c.toNat < 128
  := by
  induction h with
  | nil => nofun
  | cons first _ ih =>
    obtain ⟨left, right⟩ := first.ascii
    exact List.forall_mem_cons.mpr ⟨left, List.forall_mem_cons.mpr ⟨right, ih⟩⟩

/-- The texts without a plus sign are those in which all characters are digits. -/
theorem hexPairs_iff :
  Spells IsHexPair cs ns ↔ Spells IsChannel cs ns ∧ '+' ∉ cs
  := by
  constructor
  · intro h
    induction h with
    | nil => exact ⟨.nil, List.not_mem_nil⟩
    | cons first _ ih =>
      obtain ⟨spelled, none⟩ := ih
      obtain ⟨read, left⟩ := isHexPair_iff.mp first
      refine ⟨.cons read spelled, ?_⟩
      simp [left.symm, read.ne_plus.symm, none]
  · rintro ⟨h, none⟩
    induction h with
    | nil => exact .nil
    | cons first _ ih =>
      obtain ⟨left, -, none⟩ : '+' ≠ _ ∧ '+' ≠ _ ∧ '+' ∉ _ := by simpa using none
      exact .cons (isHexPair_iff.mpr ⟨first, left.symm⟩) (ih none)

end Spells

/-- A list of characters spells the channels of a color, where the opacity is left out only if it is
full. -/
def Color.IsSpelled (channel : Char → Char → UInt8 → Prop) (cs : List Char) (c : Color) : Prop :=
  Spells channel cs [c.red, c.green, c.blue, c.alpha]
    ∨ c.alpha = 255 ∧ Spells channel cs [c.red, c.green, c.blue]

namespace Color

/-- A text that spells a color is in ASCII. -/
theorem IsSpelled.ascii {cs : List Char} {c : Color} (h : c.IsSpelled IsChannel cs) :
  cs.all (·.val < 0x80)
  := by
  have small : ∀ d ∈ cs, d.toNat < 128 := by
    obtain h | ⟨-, h⟩ := h
    · exact h.ascii
    · exact h.ascii
  apply List.all_eq_true.mpr
  intro d hd
  exact decide_eq_true (UInt32.lt_iff_toNat_lt.mpr (small d hd))

theorem IsSpelled.hexPairs_iff {cs : List Char} {c : Color} :
  c.IsSpelled IsHexPair cs ↔ c.IsSpelled IsChannel cs ∧ '+' ∉ cs
  := by
  rw [IsSpelled, IsSpelled, Spells.hexPairs_iff, Spells.hexPairs_iff, ← and_assoc, or_and_right]

/-- A text is read if it is spelled once what is around it is gone. -/
theorem ofText_iff_isSpelled {text : String} {color : Color} :
  ofText text = .ok color ↔ color.IsSpelled IsChannel (stripped text.toList)
  := by
  unfold ofText
  extract_lets cs body channel
  change _ ↔ color.IsSpelled IsChannel cs
  have channel_eq_ok_iff {x y : Char} {n : UInt8} : channel x y = .ok n ↔ IsChannel x y n := by
    rw [← channel?_eq_some_iff]
    cases read : channel? x y with
    | none => simp [channel, read]
    | some m => simp [channel, read]
  clear_value channel body cs
  by_cases ascii : cs.all (·.val < 0x80)
  · rw [if_pos ascii]
    split
    · -- three channels
      simp only [bind_eq_ok_iff, channel_eq_ok_iff]
      constructor
      · rintro ⟨red, first, green, second, blue, third, ⟨⟩⟩
        exact .inr ⟨rfl, .cons first (.cons second (.cons third .nil))⟩
      · rintro (h | ⟨full, h⟩)
        · match h with
          | .cons _ (.cons _ (.cons _ rest)) => exact nomatch rest
        · match h with
          | .cons first (.cons second (.cons third .nil)) =>
            exact ⟨_, first, _, second, _, third, by rw [← full]⟩
    · -- four channels
      simp only [bind_eq_ok_iff, channel_eq_ok_iff]
      constructor
      · rintro ⟨red, first, green, second, blue, third, alpha, fourth, ⟨⟩⟩
        exact .inl (.cons first (.cons second (.cons third (.cons fourth .nil))))
      · rintro (h | ⟨_, h⟩)
        · match h with
          | .cons first (.cons second (.cons third (.cons fourth .nil))) =>
            exact ⟨_, first, _, second, _, third, _, fourth, rfl⟩
        · match h with
          | .cons _ (.cons _ (.cons _ rest)) => exact nomatch rest
    · -- another number of characters
      rename_i six eight
      constructor
      · nofun
      · rintro (h | ⟨_, h⟩)
        · match h with
          | .cons _ (.cons _ (.cons _ (.cons _ .nil))) => exact (eight _ _ _ _ _ _ _ _ rfl).elim
        · match h with
          | .cons _ (.cons _ (.cons _ .nil)) => exact (six _ _ _ _ _ _ rfl).elim
  · rw [if_neg ascii]
    exact ⟨nofun, fun h => absurd h.ascii ascii⟩

/-- The texts that are read are those in which a channel is two hexadecimal digits, or a plus sign and
one digit, once the white space around the text and the number signs before it are gone.  The texts
with hexadecimal digits only are those among them without a plus sign.  All others fail. -/
theorem ofText_eq_ok_iff (text : String) :
  (∀ color, ofText text = .ok color
    ↔ ∃ body, IsStripped text.toList body ∧ color.IsSpelled IsChannel body)
  ∧ (∀ color, ofText text = .ok color ∧ '+' ∉ text.toList
    ↔ ∃ body, IsStripped text.toList body ∧ color.IsSpelled IsHexPair body)
  ∧ ((∃ e, ofText text = .error e)
    ↔ ¬ ∃ (color : Color) (body : List Char),
      IsStripped text.toList body ∧ color.IsSpelled IsChannel body)
  := by
  have read (color : Color) : ofText text = .ok color
      ↔ ∃ body, IsStripped text.toList body ∧ color.IsSpelled IsChannel body := by
    rw [ofText_iff_isSpelled]
    simp [isStripped_iff]
  refine ⟨read, ?_, ?_⟩
  · intro color
    have signs : '+' ∈ text.toList ↔ '+' ∈ stripped text.toList :=
      (isStripped_iff.mpr rfl).mem_iff (by decide) (by decide)
    rw [ofText_iff_isSpelled, signs, ← IsSpelled.hexPairs_iff]
    simp [isStripped_iff]
  · simp only [← read]
    cases ofText text with
    | error e => exact ⟨nofun, fun _ => ⟨e, rfl⟩⟩
    | ok color => exact ⟨nofun, fun h => absurd ⟨color, rfl⟩ h⟩

/-- A text is read in which a plus sign stands for the first digit of each channel. -/
theorem exists_ofText_of_signs :
  ofText "+1+2+3" = .ok ⟨1, 2, 3, 255⟩
  ∧ ¬ ∃ (color : Color) (body : List Char),
    IsStripped "+1+2+3".toList body ∧ color.IsSpelled IsHexPair body
  := by
  constructor
  · rfl
  · rintro ⟨color, body, around, spelled⟩
    have signs : '+' ∉ body := (IsSpelled.hexPairs_iff.mp spelled).2
    rw [← around.mem_iff (by decide) (by decide)] at signs
    exact signs (by decide)

end Color

end LiveMarkdown
