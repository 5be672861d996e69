/-!
# Names in ASCII

A label of a domain name with characters beyond ASCII is written in ASCII: its ASCII
characters first, then, after a hyphen, where the others go.  The others are inserted
in the order of their codes.  Each insertion is a number, the distance from the one
before it in the grid of codes and places, written in base 36 with a threshold for
each digit that adapts to the distances so far.
-/

namespace LiveMarkdown.Url.Punycode

/-- The digit of base 36 with a given value. -/
def digit (n : Nat) : Char :=
  Char.ofNat (if n < 26 then 'a'.toNat + n else '0'.toNat + (n - 26))

/-- The value of a digit of base 36. -/
def value? (c : Char) : Option Nat :=
  if 'a' ≤ c ∧ c ≤ 'z' then some (c.toNat - 'a'.toNat)
  else if 'A' ≤ c ∧ c ≤ 'Z' then some (c.toNat - 'A'.toNat)
  else if '0' ≤ c ∧ c ≤ '9' then some (c.toNat - '0'.toNat + 26)
  else none

/-- The threshold of the digit with weight index `k`, where indices are multiples of 36:
a digit below it is the last one. -/
def threshold (bias k : Nat) : Nat :=
  min 26 (max 1 (k - bias))

theorem threshold_pos (bias k : Nat) :
  0 < threshold bias k
  := by unfold threshold; omega

/-- Divides by 35 until the number is at most 455, and counts 36 for each division. -/
def shrink (n k : Nat) : Nat × Nat :=
  if _h : 455 < n then shrink (n / 35) (k + 36) else (n, k)
termination_by n
decreasing_by omega

/-- The bias after an insertion at distance `delta`, which made a text of `length`
characters. -/
def adapt (delta length : Nat) (first : Bool) : Nat :=
  let scaled := if first then delta / 700 else delta / 2
  let (n, k) := shrink (scaled + scaled / length) 0
  k + 36 * n / (n + 38)

/-- The digits of a distance from weight index `k` on. -/
def digits (bias k n : Nat) : List Char :=
  let t := threshold bias k
  if n < t then [digit n]
  else digit (t + (n - t) % (36 - t)) :: digits bias (k + 36) ((n - t) / (36 - t))
termination_by n
decreasing_by
  have positive := threshold_pos bias k
  have below : (n - threshold bias k) / (36 - threshold bias k) ≤ n - threshold bias k :=
    Nat.div_le_self _ _
  omega

/-- What is known while a label is written or read. -/
structure Progress where
  /-- The bias. -/
  bias : Nat
  /-- The number of characters so far. -/
  length : Nat
  /-- Whether nothing has been inserted so far. -/
  first : Bool

/-- The state after an insertion at distance `delta`. -/
def Progress.next (p : Progress) (delta : Nat) : Progress :=
  ⟨adapt delta (p.length + 1) p.first, p.length + 1, false⟩

/-- A label that is being written. -/
structure Writing where
  /-- What has been written, in reverse. -/
  reversed : List Char
  /-- The distance from the last insertion. -/
  delta : Nat
  /-- What is known. -/
  progress : Progress

/-- Passes over a character of the label while the characters with a code are inserted. -/
def Writing.pass (code : Nat) (w : Writing) (c : Char) : Writing :=
  if c.toNat < code then { w with delta := w.delta + 1 }
  else if c.toNat = code then
    ⟨(digits w.progress.bias 36 w.delta).reverseAux w.reversed, 0, w.progress.next w.delta⟩
  else w

/-- Inserts the characters with the given codes, which ascend from `code`. -/
def insertAll (label : List Char) (code : Nat) (w : Writing) : List Nat → List Char
  | [] => w.reversed.reverse
  | next :: rest =>
    let moved := { w with delta := w.delta + (next - code) * (w.progress.length + 1) }
    let passed := label.foldl (Writing.pass next) moved
    insertAll label (next + 1) { passed with delta := passed.delta + 1 } rest

/-- The codes that occur in a list, each one once, in ascending order. -/
def ascending (codes : List Nat) : List Nat :=
  (codes.mergeSort (· ≤ ·)).eraseReps

/-- The ASCII form of a label. -/
def encode (label : List Char) : List Char :=
  let basic := label.filter (·.val < 0x80)
  let others := (label.filter (0x80 ≤ ·.val)).map Char.toNat
  let start := if basic.isEmpty then [] else '-' :: basic.reverse
  insertAll label 0x80 ⟨start, 0, ⟨72, basic.length, true⟩⟩ (ascending others)

/-- Reads a distance: the digits from weight index `k` on, where a digit counts
`weight`. -/
def readDistance? (bias k weight sum : Nat) : List Char → Option (Nat × List Char)
  | [] => none
  | c :: cs =>
    match value? c with
    | none => none
    | some d =>
      let t := threshold bias k
      let sum := sum + d * weight
      if d < t then some (sum, cs)
      else readDistance? bias (k + 36) (weight * (36 - t)) sum cs

theorem readDistance?_length (bias k weight sum : Nat) (cs : List Char) {n : Nat}
    {rest : List Char} (h : readDistance? bias k weight sum cs = some (n, rest)) :
  rest.length < cs.length
  := by
  induction cs generalizing k weight sum with
  | nil => simp [readDistance?] at h
  | cons c cs ih =>
    unfold readDistance? at h
    split at h
    · contradiction
    · dsimp only at h
      split at h
      · cases h
        simp
      · have := ih _ _ _ h
        simp only [List.length_cons]
        omega

/-- Reads the insertions into a text, of which the last one was of a code at a place. -/
def readAll? (label : List Char) (code place : Nat) (p : Progress) (input : List Char) :
    Option (List Char) :=
  match input with
  | [] => some label
  | c :: cs =>
    match h : readDistance? p.bias 36 1 0 (c :: cs) with
    | none => none
    | some (delta, rest) =>
      let total := place + delta
      let code := code + total / (p.length + 1)
      let place := total % (p.length + 1)
      if code.isValidChar then
        readAll? (label.insertIdx place (Char.ofNat code)) code (place + 1) (p.next delta) rest
      else none
termination_by input.length
decreasing_by exact readDistance?_length _ _ _ _ _ h

/-- The label with a given ASCII form. -/
def decode? (text : List Char) : Option (List Char) :=
  let tail := (text.reverse.takeWhile (· ≠ '-')).reverse
  let head := text.take (text.length - tail.length - 1)
  let (basic, rest) := if head.isEmpty then ([], text) else (head, tail)
  readAll? basic 0x80 0 ⟨72, basic.length, true⟩ rest

end LiveMarkdown.Url.Punycode
