import LiveMarkdown.Styling.Walk
import Mathlib.Tactic.Common

/-!
# Strokes that stop at the first fault

Strokes are made by reading and writing the attributes of single code units, after characters
have been cut out of a text and numbers taken from each other.  Here each of these steps stops
with a fault if it is not possible.  No stroke stops, and it does the same.
-/

namespace LiveMarkdown

/-- Why a step is not possible. -/
inductive Fault where
  /-- A part is cut out of a sequence that does not have it. -/
  | slice
  /-- An entry is read that is not there. -/
  | index
  /-- A number is taken from a smaller one. -/
  | difference
deriving DecidableEq, Repr, Inhabited

namespace Checked

/-! ### Steps -/

/-- Takes a number from another one. -/
def difference (m n : Nat) : Except Fault Nat :=
  if n ≤ m then .ok (m - n) else .error .difference

/-- Reads an entry. -/
def entry {α : Type} (as : Array α) (i : Nat) : Except Fault α :=
  match as[i]? with
  | some a => .ok a
  | none => .error .index

/-- Cuts characters out of a text. -/
def slice (t : IndexedText) (bytes : Span) : Except Fault (List Char) :=
  match t.slice? bytes with
  | some cs => .ok cs
  | none => .error .slice

/-- What goes on after a step that was possible. -/
@[simp] theorem ok_bind {α β : Type} (x : α) (next : α → Except Fault β) :
  (Except.ok x >>= next) = next x
  := rfl

@[simp] theorem pure_eq {α : Type} (x : α) :
  (pure x : Except Fault α) = .ok x
  := rfl

theorem difference_of_le {m n : Nat} (h : n ≤ m) :
  difference m n = .ok (m - n)
  := if_pos h

theorem entry_of_lt {α : Type} {as : Array α} {i : Nat} (h : i < as.size) :
  entry as i = .ok as[i]
  := by
  rw [entry, Array.getElem?_eq_getElem h]

/-! ### Attributes -/

/-- `Buffer.runStart`, checked. -/
def runStart (as : Array Attributes) (a : Attributes) (key : AttributeKey) (floor : Nat) :
    Nat → Except Fault Nat
  | 0 => return 0
  | i + 1 =>
    if floor < i + 1 then do
      let previous ← difference (i + 1) 1
      let other ← entry as previous
      if other.agree a key then runStart as a key floor i else return i + 1
    else return i + 1

/-- `Buffer.runStop`, checked. -/
def runStop (as : Array Attributes) (a : Attributes) (key : AttributeKey) (ceiling i : Nat) :
    Except Fault Nat :=
  if i < ceiling then do
    let other ← entry as i
    if other.agree a key then runStop as a key ceiling (i + 1) else return i
  else return i
termination_by ceiling - i
decreasing_by omega

/-- `Buffer.attribute?`, checked. -/
def attribute? (b : Buffer) (key : AttributeKey) (position : Nat) (limit : Span) :
    Except Fault (Option (Option Attribute × Span)) :=
  if position ∈ limit then
    match b.attributes[position]? with
    | none => return none
    | some a => do
      let start ← runStart b.attributes a key limit.start position
      let stop ← runStop b.attributes a key (min limit.stop b.length) (position + 1)
      return some (a.get? key, ⟨start, stop⟩)
  else return none

/-- `Buffer.addAttribute`, checked. -/
def addAttribute (b : Buffer) (span : Span) (a : Attribute) : Except Fault Buffer :=
  match b.clamp? span with
  | none => return b
  | some inside =>
    if inside.start ≤ inside.stop ∧ inside.stop ≤ b.attributes.size then
      return b.addAttribute span a
    else .error .slice

theorem runStart_eq {as : Array Attributes} (a : Attributes) (key : AttributeKey) (floor : Nat)
    {i : Nat} (inside : i ≤ as.size) :
  runStart as a key floor i = .ok (Buffer.runStart as a key floor i)
  := by
  induction i with
  | zero => rfl
  | succ i ih =>
    rw [runStart, Buffer.runStart, difference_of_le (Nat.le_add_left 1 i), ok_bind,
      Nat.add_sub_cancel, entry_of_lt inside, Array.getElem?_eq_getElem inside]
    by_cases above : floor ≤ i
    · have before : floor < i + 1 := Nat.lt_succ_of_le above
      cases agree : as[i].agree a key with
      | true => simpa [above, before, agree] using ih (Nat.le_of_succ_le inside)
      | false => simp [agree]
    · have after : ¬ floor < i + 1 := by omega
      simp [above, after]

theorem runStop_eq {as : Array Attributes} (a : Attributes) (key : AttributeKey) {ceiling : Nat}
    (inside : ceiling ≤ as.size) (i : Nat) :
  runStop as a key ceiling i = .ok (Buffer.runStop as a key ceiling i)
  := by
  fun_induction Buffer.runStop as a key ceiling i with
  | case1 i h ih =>
    obtain ⟨before, agree⟩ := h
    have here : i < as.size := Nat.lt_of_lt_of_le before inside
    rw [Array.getElem?_eq_getElem here] at agree
    rw [runStop, if_pos before, entry_of_lt here]
    exact (if_pos agree).trans ih
  | case2 i h =>
    rw [runStop]
    split
    · rename_i before
      have here : i < as.size := Nat.lt_of_lt_of_le before inside
      rw [entry_of_lt here]
      apply if_neg
      intro agree
      apply h
      rw [Array.getElem?_eq_getElem here]
      exact ⟨before, agree⟩
    · rfl

theorem attribute?_eq (b : Buffer) (key : AttributeKey) (position : Nat) (limit : Span) :
  attribute? b key position limit = .ok (b.attribute? key position limit)
  := by
  rw [attribute?, Buffer.attribute?]
  split
  · cases found : b.attributes[position]? with
    | none => rfl
    | some a =>
      have inside : position < b.attributes.size := (Array.getElem?_eq_some_iff.mp found).1
      have ceiling : min limit.stop b.length ≤ b.attributes.size := Nat.min_le_right ..
      dsimp only
      rw [runStart_eq a key limit.start (Nat.le_of_lt inside), runStop_eq a key ceiling]
      rfl
  · rfl

theorem addAttribute_eq (b : Buffer) (span : Span) (a : Attribute) :
  addAttribute b span a = .ok (b.addAttribute span a)
  := by
  rw [addAttribute]
  cases clamped : b.clamp? span with
  | none =>
    rw [Buffer.addAttribute, Buffer.update, clamped]
    rfl
  | some inside =>
    obtain ⟨rfl, order⟩ := Span.nonempty?_eq_some_iff.mp clamped
    exact if_pos ⟨Nat.le_of_lt order, Nat.min_le_right ..⟩

/-! ### Strokes -/

/-- `Buffer.layOut`, checked. -/
def layOut (b : Buffer) (layout : Layout) (stop i : Nat) : Except Fault Buffer :=
  if i < stop then do
    match ← attribute? b .layout i ⟨i, stop⟩ with
    | none => return b
    | some (current, run) =>
      let next := max run.stop (i + 1)
      let b ← if current == some (.layout layout) then pure b
        else addAttribute b ⟨i, next⟩ (.layout layout)
      layOut b layout stop next
  else return b
termination_by stop - i
decreasing_by omega

/-- `Buffer.addTrait`, checked. -/
def addTrait (b : Buffer) (body : Font) (font : FontTrait) (stop i : Nat) : Except Fault Buffer :=
  if i < stop then do
    match ← attribute? b .font i ⟨i, stop⟩ with
    | none => return b
    | some (current, run) =>
      let next := max run.stop (i + 1)
      let old := match current with
        | some (.font old) => old
        | _ => body
      let b ← addAttribute b ⟨i, next⟩ (.font (old.adding font))
      addTrait b body font stop next
  else return b
termination_by stop - i
decreasing_by omega

/-- `Buffer.stroke`, checked. -/
def stroke (window : Option Span) (b : Buffer) : Stroke → Except Fault Buffer
  | .set span value =>
    match span.visible? window with
    | none => return b
    | some s => addAttribute b s value
  | .layOut span layout =>
    match span.visible? window with
    | none => return b
    | some s => Checked.layOut b layout s.stop s.start
  | .addTrait span body font =>
    match span.visible? window with
    | none => return b
    | some s => Checked.addTrait b body font s.stop s.start

theorem layOut_eq (b : Buffer) (layout : Layout) (stop i : Nat) :
  layOut b layout stop i = .ok (b.layOut layout stop i)
  := by
  fun_induction Buffer.layOut b layout stop i with
  | case1 b i order missing =>
    rw [layOut, if_pos order, attribute?_eq, missing]
    rfl
  | case2 b i order current run found next b' ih =>
    have rest : layOut b' layout stop next = .ok (b'.layOut layout stop next) := ih
    rw [layOut, if_pos order, attribute?_eq, found, ok_bind]
    simp only [addAttribute_eq, pure_eq, ok_bind]
    rw [← rest]
    unfold b'
    split
    · rfl
    · rfl
  | case3 b i last =>
    rw [layOut, if_neg last]
    rfl

theorem addTrait_eq (b : Buffer) (body : Font) (font : FontTrait) (stop i : Nat) :
  addTrait b body font stop i = .ok (b.addTrait body font stop i)
  := by
  fun_induction Buffer.addTrait b body font stop i with
  | case1 b i order missing =>
    rw [addTrait, if_pos order, attribute?_eq, missing]
    rfl
  | case2 b i order current run found next old ih =>
    rw [addTrait, if_pos order, attribute?_eq, found, ok_bind]
    simp only [addAttribute_eq, ok_bind]
    exact ih
  | case3 b i last =>
    rw [addTrait, if_neg last]
    rfl

theorem stroke_eq (window : Option Span) (b : Buffer) (k : Stroke) :
  stroke window b k = .ok (b.stroke window k)
  := by
  cases k with
  | set span value =>
    rw [stroke, Buffer.stroke]
    cases span.visible? window with
    | none => rfl
    | some s => exact addAttribute_eq b s value
  | layOut span layout =>
    rw [stroke, Buffer.stroke]
    cases span.visible? window with
    | none => rfl
    | some s => exact layOut_eq b layout s.stop s.start
  | addTrait span body font =>
    rw [stroke, Buffer.stroke]
    cases span.visible? window with
    | none => rfl
    | some s => exact addTrait_eq b body font s.stop s.start

theorem strokes_eq (window : Option Span) (b : Buffer) (ks : List Stroke) :
  ks.foldlM (stroke window) b = .ok (b.strokes window ks)
  := by
  induction ks generalizing b with
  | nil => rfl
  | cons k ks ih =>
    rw [List.foldlM_cons, stroke_eq, ok_bind, ih]
    rfl

end Checked

end LiveMarkdown
