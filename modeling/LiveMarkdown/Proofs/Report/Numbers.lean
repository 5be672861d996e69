import LiveMarkdown.Number.Binary32
import Mathlib

/-!
# The characters of numbers

Numbers are written in digits, signs, points and the letter of exponents, whichever layout they have.
-/

namespace LiveMarkdown

/-- The characters in which numbers are written. -/
def isNumberChar (c : Char) : Bool :=
  c.isDigit || c == '-' || c == '+' || c == '.' || c == 'e'

/-- A text is written in the characters of numbers. -/
def IsNumeral (cs : List Char) : Prop :=
  ∀ c ∈ cs, isNumberChar c

instance (cs : List Char) : Decidable (IsNumeral cs) :=
  List.decidableBAll (fun c => isNumberChar c = true) cs

theorem isNumeral_append {xs ys : List Char} :
  IsNumeral (xs ++ ys) ↔ IsNumeral xs ∧ IsNumeral ys
  := List.forall_mem_append

theorem isNumeral_cons {c : Char} {cs : List Char} :
  IsNumeral (c :: cs) ↔ isNumberChar c ∧ IsNumeral cs
  := List.forall_mem_cons

theorem isNumeral_replicate {c : Char} (number : isNumberChar c) (n : Nat) :
  IsNumeral (List.replicate n c)
  := by
  intro d mem
  rw [List.eq_of_mem_replicate mem]
  exact number

theorem IsNumeral.take {cs : List Char} (numeral : IsNumeral cs) (n : Nat) :
  IsNumeral (cs.take n)
  := fun c mem => numeral c (List.mem_of_mem_take mem)

theorem IsNumeral.drop {cs : List Char} (numeral : IsNumeral cs) (n : Nat) :
  IsNumeral (cs.drop n)
  := fun c mem => numeral c (List.mem_of_mem_drop mem)

/-! ### Whole numbers -/

theorem isNumeral_toDigits (n : Nat) :
  IsNumeral (Nat.toDigits 10 n)
  := by
  intro c mem
  have digit := Nat.isDigit_of_mem_toDigits (by decide) (by decide) mem
  simp only [isNumberChar, digit, Bool.true_or]

theorem isNumeral_nat (n : Nat) :
  IsNumeral (toString n).toList
  := by
  rw [Nat.toString_eq_ofList_toDigits, String.toList_ofList]
  exact isNumeral_toDigits n

theorem nat_ne_nil (n : Nat) :
  (toString n).toList ≠ []
  := by
  rw [Nat.toString_eq_ofList_toDigits, String.toList_ofList]
  exact Nat.toDigits_ne_nil

theorem isNumeral_int (n : Int) :
  IsNumeral (toString n).toList
  := by
  cases n with
  | ofNat n => exact isNumeral_nat n
  | negSucc n =>
    change IsNumeral ("-" ++ toString (n + 1)).toList
    rw [String.toList_append, isNumeral_append]
    exact ⟨by decide, isNumeral_nat (n + 1)⟩

/-! ### Decimals -/

namespace Decimal

variable (d : Decimal)

theorem isNumeral_digitList :
  IsNumeral d.digitList
  := isNumeral_toDigits d.digits

theorem digitList_ne_nil :
  d.digitList ≠ []
  := Nat.toDigits_ne_nil

theorem isNumeral_plain :
  IsNumeral d.plain
  := by
  have digits := d.isNumeral_digitList
  have zeros (n : Nat) : IsNumeral (List.replicate n '0') := isNumeral_replicate (by decide) n
  unfold plain
  dsimp only
  split
  · exact isNumeral_append.mpr ⟨digits, zeros _⟩
  · split
    · rw [isNumeral_append, isNumeral_cons]
      exact ⟨digits.take _, by decide, digits.drop _⟩
    · rw [List.cons_append, List.cons_append, isNumeral_cons, isNumeral_cons, isNumeral_append]
      exact ⟨by decide, by decide, zeros _, digits⟩

theorem plain_ne_nil :
  d.plain ≠ []
  := by
  unfold plain
  dsimp only
  split
  · exact List.append_ne_nil_of_left_ne_nil d.digitList_ne_nil _
  · split
    · exact List.append_ne_nil_of_right_ne_nil _ (List.cons_ne_nil _ _)
    · exact List.cons_ne_nil _ _

theorem isNumeral_scientific :
  IsNumeral d.scientific
  := by
  have digits := d.isNumeral_digitList
  unfold scientific
  dsimp only
  split
  · exact isNumeral_append.mpr ⟨d.isNumeral_plain, by decide⟩
  · split
    · exact d.isNumeral_plain
    · rw [isNumeral_append, isNumeral_append, isNumeral_cons]
      refine ⟨⟨?_, by decide, ?_⟩, isNumeral_int _⟩
      · split
        · exact digits
        · exact isNumeral_append.mpr ⟨digits.take 1, isNumeral_cons.mpr ⟨by decide, digits.drop 1⟩⟩
      · split
        · exact List.forall_mem_nil _
        · decide

theorem scientific_ne_nil :
  d.scientific ≠ []
  := by
  unfold scientific
  dsimp only
  split
  · exact List.append_ne_nil_of_left_ne_nil d.plain_ne_nil _
  · split
    · exact d.plain_ne_nil
    · apply List.append_ne_nil_of_left_ne_nil
      exact List.append_ne_nil_of_right_ne_nil _ (List.cons_ne_nil _ _)

end Decimal

theorem isNumeral_signed (negative : Bool) {cs : List Char} (numeral : IsNumeral cs) :
  IsNumeral (signed negative cs).toList
  := by
  rw [signed, String.toList_ofList]
  split
  · exact isNumeral_cons.mpr ⟨by decide, numeral⟩
  · exact numeral

theorem signed_ne_nil (negative : Bool) {cs : List Char} (some : cs ≠ []) :
  (signed negative cs).toList ≠ []
  := by
  rw [signed, String.toList_ofList]
  split
  · exact List.cons_ne_nil _ _
  · exact some

/-- The text of a number in scientific notation is written in the characters of numbers. -/
theorem isNumeral_scientificText? {x : Float32} {text : String} (finite : scientificText? x = some text) :
  text.toList ≠ [] ∧ IsNumeral text.toList
  := by
  unfold scientificText? at finite
  split at finite
  · obtain rfl := Option.some.inj finite
    split
    · exact ⟨signed_ne_nil _ (List.cons_ne_nil _ _), isNumeral_signed _ (by decide)⟩
    · exact ⟨signed_ne_nil _ (Decimal.scientific_ne_nil _),
        isNumeral_signed _ (Decimal.isNumeral_scientific _)⟩
  · cases finite

end LiveMarkdown
