import LiveMarkdown.Proofs.Text.Ascii
import LiveMarkdown.Proofs.Text.Positions
import LiveMarkdown.Styling.Marker

/-!
# The markers of quoted lines

A quoted line is marked by each `>` before which there are only spaces, tabs and other markers on its
line.  This is said here of the bytes of a text, while the scan that finds the markers goes from
character to character and knows of the line only whether it may still be marked.  No byte of another
character looks like one of those that count, so both agree: the scan has found, at any time, all
markers that start before the place where it is.
-/

namespace LiveMarkdown

open String (utf8Len utf8EncodeChar)

/-! ### Markers in the bytes of a text -/

/-- The line of a byte position starts at the start of the text, or after the last line feed before
the position. -/
def IsLineStart (bytes : List UInt8) (p start : Nat) : Prop :=
  start ≤ p ∧ (start = 0 ∨ bytes[start - 1]? = some '\n'.toUInt8)
    ∧ ∀ i, start ≤ i → i < p → bytes[i]? ≠ some '\n'.toUInt8

/-- Before a byte position there are only spaces, tabs and brackets on its line. -/
def IsLeading (bytes : List UInt8) (p : Nat) : Prop :=
  ∃ start, IsLineStart bytes p start
    ∧ ∀ i, start ≤ i → i < p → ∃ c ∈ [' ', '\t', '>'], bytes[i]? = some c.toUInt8

/-- A marker of a quoted line starts at a byte position. -/
def IsMarkerAt (bytes : List UInt8) (p : Nat) : Prop :=
  bytes[p]? = some '>'.toUInt8 ∧ IsLeading bytes p

/-- The bytes of the marker that starts at a position: the bracket, and a space after it. -/
def markerSpan (bytes : List UInt8) (p : Nat) : Span :=
  ⟨p, if bytes[p + 1]? = some ' '.toUInt8 then p + 2 else p + 1⟩

theorem lt_stop_markerSpan (bytes : List UInt8) (p : Nat) :
  (markerSpan bytes p).start < (markerSpan bytes p).stop
  := by
  rw [markerSpan]
  dsimp only
  split <;> omega

theorem isLeading_zero (bytes : List UInt8) :
  IsLeading bytes 0
  := ⟨0, ⟨le_rfl, .inl rfl, fun _ _ h => absurd h (Nat.not_lt_zero _)⟩,
    fun _ _ h => absurd h (Nat.not_lt_zero _)⟩

/-- A line feed begins a line, and the bytes that may precede a marker continue one. -/
theorem isLeading_succ {bytes : List UInt8} {p : Nat} {b : UInt8} (here : bytes[p]? = some b) :
  IsLeading bytes (p + 1)
    ↔ b = '\n'.toUInt8 ∨ IsLeading bytes p ∧ ∃ c ∈ [' ', '\t', '>'], b = c.toUInt8
  := by
  constructor
  · rintro ⟨start, ⟨order, first, noFeed⟩, only⟩
    rcases Nat.lt_or_eq_of_le order with order | rfl
    · right
      have early : start ≤ p := Nat.le_of_lt_succ order
      refine ⟨⟨start, ⟨early, first, ?_⟩, ?_⟩, ?_⟩
      · intro i lower upper
        exact noFeed i lower (Nat.lt_succ_of_lt upper)
      · intro i lower upper
        exact only i lower (Nat.lt_succ_of_lt upper)
      · obtain ⟨c, hc, byte⟩ := only p early (Nat.lt_succ_self p)
        exact ⟨c, hc, Option.some.inj (here.symm.trans byte)⟩
    · left
      have feed := first.resolve_left (Nat.succ_ne_zero p)
      exact Option.some.inj (here.symm.trans feed)
  · rintro (rfl | ⟨⟨start, ⟨order, first, noFeed⟩, only⟩, c, hc, rfl⟩)
    · refine ⟨p + 1, ⟨le_rfl, .inr here, ?_⟩, ?_⟩
      · intro i lower upper
        omega
      · intro i lower upper
        omega
    · refine ⟨start, ⟨Nat.le_succ_of_le order, first, ?_⟩, ?_⟩
      · intro i lower upper
        rcases Nat.lt_or_eq_of_le (Nat.le_of_lt_succ upper) with before | rfl
        · exact noFeed i lower before
        · rw [here]
          simp only [List.mem_cons, List.not_mem_nil, or_false] at hc
          rcases hc with rfl | rfl | rfl <;> decide
      · intro i lower upper
        rcases Nat.lt_or_eq_of_le (Nat.le_of_lt_succ upper) with before | rfl
        · exact only i lower before
        · exact ⟨c, hc, here⟩

/-! ### From character to character -/

section

variable (xs : List Char) {c : Char} (zs : List Char)

/-- After a character a line is leading if the character begins it, or if it was leading before and
the character may precede a marker. -/
theorem isLeading_char :
  IsLeading ((xs ++ c :: zs).flatMap utf8EncodeChar) (utf8Len xs + c.utf8Size)
    ↔ c = '\n' ∨ IsLeading ((xs ++ c :: zs).flatMap utf8EncodeChar) (utf8Len xs)
      ∧ c ∈ [' ', '\t', '>']
  := by
  obtain ⟨k, size⟩ : ∃ k, c.utf8Size = k + 1 := Nat.exists_eq_add_one.mpr c.utf8Size_pos
  have last : k < c.utf8Size := by omega
  obtain ⟨b, here⟩ : ∃ b, ((xs ++ c :: zs).flatMap utf8EncodeChar)[utf8Len xs + k]? = some b := by
    rw [getElem?_char xs zs last]
    exact ⟨_, List.getElem?_eq_getElem (by rwa [String.length_utf8EncodeChar])⟩
  have byte {d : Char} (ascii : d.utf8Size = 1) : b = d.toUInt8 ↔ k = 0 ∧ c = d := by
    rw [← getElem?_eq_ascii_iff xs zs last ascii, here, Option.some.injEq]
  rw [size, ← Nat.add_assoc, isLeading_succ here]
  simp only [List.mem_cons, List.not_mem_nil, or_false, exists_eq_or_imp, exists_eq_left]
  rw [byte (d := '\n') rfl, byte (d := ' ') rfl, byte (d := '\t') rfl, byte (d := '>') rfl]
  cases k with
  | zero => simp only [true_and, Nat.add_zero]
  | succ k =>
    -- the character is not ASCII
    have other (d : Char) (ascii : d.utf8Size = 1) : c ≠ d := by
      rintro rfl
      omega
    simp only [Nat.succ_ne_zero, other '\n' rfl, other ' ' rfl, other '\t' rfl, other '>' rfl,
      or_false, and_false]

/-- Of the bytes of a character only a bracket is a marker. -/
theorem isMarkerAt_char {i : Nat} (hi : i < c.utf8Size) :
  IsMarkerAt ((xs ++ c :: zs).flatMap utf8EncodeChar) (utf8Len xs + i)
    ↔ i = 0 ∧ c = '>' ∧ IsLeading ((xs ++ c :: zs).flatMap utf8EncodeChar) (utf8Len xs)
  := by
  rw [IsMarkerAt, getElem?_eq_ascii_iff xs zs hi rfl, and_assoc]
  constructor
  · rintro ⟨rfl, bracket, leading⟩
    exact ⟨rfl, bracket, leading⟩
  · rintro ⟨rfl, bracket, leading⟩
    exact ⟨rfl, bracket, leading⟩

/-- The byte after a character is a space if the next character is one. -/
theorem getElem?_next_eq_space_iff :
  ((xs ++ c :: zs).flatMap utf8EncodeChar)[utf8Len xs + c.utf8Size]? = some ' '.toUInt8
    ↔ zs.head? = some ' '
  := by
  have before : utf8Len (xs ++ [c]) = utf8Len xs + c.utf8Size := by simp
  have parts : xs ++ c :: zs = xs ++ [c] ++ zs := by simp
  rw [parts, ← before]
  cases zs with
  | nil =>
    have outside := length_flatMap_utf8EncodeChar (xs ++ [c] ++ [])
    rw [List.getElem?_eq_none (by rw [outside, List.append_nil])]
    simp
  | cons d zs =>
    have next := getElem?_eq_ascii_iff (xs ++ [c]) zs d.utf8Size_pos (d := ' ') rfl
    rw [Nat.add_zero] at next
    rw [next, List.head?_cons, Option.some.injEq]
    simp

end

/-! ### The scan -/

/-- What a scan has found before a byte position, the last marker first. -/
structure Scanned (bytes : List UInt8) (n : Nat) (found : List Span) : Prop where
  /-- The markers go from left to right and do not overlap. -/
  ordered : found.Pairwise fun later earlier => earlier.stop ≤ later.start
  /-- They stop at the position or before. -/
  bound : ∀ s ∈ found, s.stop ≤ n
  /-- They are the markers that start before the position. -/
  mem_iff : ∀ s, s ∈ found ↔ ∃ p < n, IsMarkerAt bytes p ∧ s = markerSpan bytes p

namespace Scanned

variable {bytes : List UInt8} {n m : Nat} {found : List Span}

/-- Positions where no marker starts are passed over. -/
theorem skip (h : Scanned bytes n found) (order : n ≤ m)
    (none : ∀ p, n ≤ p → p < m → ¬ IsMarkerAt bytes p) :
  Scanned bytes m found
  where
  ordered := h.ordered
  bound s hs := (h.bound s hs).trans order
  mem_iff s := by
    rw [h.mem_iff]
    constructor
    · rintro ⟨p, hp, marker, same⟩
      exact ⟨p, hp.trans_le order, marker, same⟩
    · rintro ⟨p, hp, marker, same⟩
      by_cases before : p < n
      · exact ⟨p, before, marker, same⟩
      · exact absurd marker (none p (Nat.le_of_not_lt before) hp)

/-- A marker is found with all its bytes. -/
theorem push (h : Scanned bytes n found) (marker : IsMarkerAt bytes n) :
  Scanned bytes (markerSpan bytes n).stop (markerSpan bytes n :: found)
  := by
  have after : n < (markerSpan bytes n).stop := lt_stop_markerSpan bytes n
  have alone (p : Nat) (lower : n < p) (upper : p < (markerSpan bytes n).stop) :
      ¬ IsMarkerAt bytes p := by
    rintro ⟨bracket, -⟩
    rw [markerSpan] at upper
    dsimp only at upper
    split at upper
    · rename_i space
      obtain rfl : p = n + 1 := by omega
      rw [space] at bracket
      exact absurd bracket (by decide)
    · omega
  refine ⟨?_, ?_, ?_⟩
  · rw [List.pairwise_cons]
    exact ⟨h.bound, h.ordered⟩
  · rw [List.forall_mem_cons]
    exact ⟨le_rfl, fun s hs => (h.bound s hs).trans after.le⟩
  · intro s
    rw [List.mem_cons, h.mem_iff]
    constructor
    · rintro (rfl | ⟨p, hp, other, same⟩)
      · exact ⟨n, after, marker, rfl⟩
      · exact ⟨p, hp.trans after, other, same⟩
    · rintro ⟨p, hp, other, same⟩
      rcases Nat.lt_trichotomy p n with before | rfl | inside
      · exact .inr ⟨p, before, other, same⟩
      · exact .inl same
      · exact absurd other (alone p inside hp)

end Scanned

/-- Whether a line may be marked after a character, if it is known whether it may be before. -/
def remainsLeading (leading : Bool) (c : Char) : Bool :=
  c == '\n' || (leading && (c == ' ' || c == '\t' || c == '>'))

section

variable {text xs cs rest : List Char} {c : Char} {leading : Bool} {position : Nat}
  {found : List Span}

theorem remainsLeading_iff (parts : text = xs ++ c :: rest)
    (line : leading ↔ IsLeading (text.flatMap utf8EncodeChar) (utf8Len xs)) :
  remainsLeading leading c ↔ IsLeading (text.flatMap utf8EncodeChar) (utf8Len xs + c.utf8Size)
  := by
  subst parts
  rw [isLeading_char, ← line]
  simp [remainsLeading, or_assoc]

/-- Where a scan is in a text, what it knows of the line and what it has found. -/
structure ScansMarkers (text xs cs : List Char) (leading : Bool) (position : Nat)
    (found : List Span) : Prop where
  /-- The text is divided into what has been scanned and what has not. -/
  parts : text = xs ++ cs
  /-- The position is where the two meet. -/
  place : position = utf8Len xs
  /-- It is known whether the line may still be marked. -/
  line : leading ↔ IsLeading (text.flatMap utf8EncodeChar) (utf8Len xs)
  /-- The markers so far have been found. -/
  known : Scanned (text.flatMap utf8EncodeChar) (utf8Len xs) found

namespace ScansMarkers

/-- A character that is not the bracket of a marker is passed over. -/
theorem skip (h : ScansMarkers text xs (c :: rest) leading position found)
    (plain : c = '>' → leading = false) :
  ScansMarkers text (xs ++ [c]) rest (remainsLeading leading c) (position + c.utf8Size) found
  := by
  obtain ⟨parts, place, line, known⟩ := h
  have stop : utf8Len (xs ++ [c]) = utf8Len xs + c.utf8Size := by simp
  refine ⟨by simp [parts], by rw [stop, place], ?_, ?_⟩
  · rw [stop]
    exact remainsLeading_iff parts line
  · rw [stop]
    apply known.skip (Nat.le_add_right _ _)
    intro p lower upper marker
    obtain ⟨i, rfl⟩ := Nat.exists_eq_add_of_le lower
    subst parts
    rw [isMarkerAt_char xs rest (by omega)] at marker
    obtain ⟨-, bracket, leads⟩ := marker
    rw [← line, plain bracket] at leads
    cases leads

/-- The bracket of a marker is found, with the space after it. -/
theorem scanned_push (h : ScansMarkers text xs ('>' :: rest) true position found) :
  let stop := if rest.head? = some ' ' then position + 2 else position + 1
  Scanned (text.flatMap utf8EncodeChar) stop (⟨position, stop⟩ :: found)
  := by
  obtain ⟨rfl, rfl, line, known⟩ := h
  have marker : IsMarkerAt ((xs ++ '>' :: rest).flatMap utf8EncodeChar) (utf8Len xs) := by
    have bracket := isMarkerAt_char xs rest (c := '>') (i := 0) Nat.one_pos
    rw [Nat.add_zero] at bracket
    exact bracket.mpr ⟨rfl, rfl, line.mp rfl⟩
  have next := getElem?_next_eq_space_iff xs rest (c := '>')
  have size : '>'.utf8Size = 1 := rfl
  have found' := known.push marker
  rw [size] at next
  simp only [markerSpan, next] at found'
  exact found'

/-- A marker without a space. -/
theorem push (h : ScansMarkers text xs ('>' :: rest) true position found)
    (noSpace : rest.head? ≠ some ' ') :
  ScansMarkers text (xs ++ ['>']) rest true (position + 1) (⟨position, position + 1⟩ :: found)
  := by
  have known := h.scanned_push
  simp only [if_neg noSpace] at known
  obtain ⟨parts, rfl, line, -⟩ := h
  have stop : utf8Len (xs ++ ['>']) = utf8Len xs + 1 := String.utf8Len_append xs ['>']
  refine ⟨by simp [parts], stop.symm, ?_, ?_⟩
  · rw [stop]
    exact remainsLeading_iff parts line
  · rw [stop]
    exact known

/-- A marker with a space. -/
theorem push_space (h : ScansMarkers text xs ('>' :: ' ' :: rest) true position found) :
  ScansMarkers text (xs ++ ['>', ' ']) rest true (position + 2) (⟨position, position + 2⟩ :: found)
  := by
  have known := h.scanned_push
  simp only [List.head?_cons, if_true] at known
  obtain ⟨parts, rfl, line, -⟩ := h
  have stop : utf8Len (xs ++ ['>', ' ']) = utf8Len xs + 2 := String.utf8Len_append xs ['>', ' ']
  have middle : utf8Len (xs ++ ['>']) = utf8Len xs + 1 := String.utf8Len_append xs ['>']
  refine ⟨by simp [parts], stop.symm, ?_, ?_⟩
  · have bracket := remainsLeading_iff parts line
    have parts' : text = xs ++ ['>'] ++ ' ' :: rest := by simp [parts]
    have line' : remainsLeading true '>'
        ↔ IsLeading (text.flatMap utf8EncodeChar) (utf8Len (xs ++ ['>'])) := by
      rw [middle]
      exact bracket
    have space := remainsLeading_iff parts' line'
    rw [middle] at space
    rw [stop]
    exact space
  · rw [stop]
    exact known

/-- A scan that knows what it has found so far finds all markers of the text. -/
theorem scanned (h : ScansMarkers text xs cs leading position found) :
  Scanned (text.flatMap utf8EncodeChar) (utf8Len text) (scanQuotes leading position found cs).reverse
  := by
  fun_induction scanQuotes leading position found cs generalizing xs with
  | case1 leading position found =>
    obtain ⟨rfl, -, -, known⟩ := h
    rw [List.append_nil] at known ⊢
    rw [List.reverse_reverse]
    exact known
  | case2 position found rest ih => exact ih h.push_space
  | case3 leading position found rest notLeading ih =>
    obtain rfl : leading = false := Bool.eq_false_of_not_eq_true notLeading
    exact ih ((h.skip fun _ => rfl).skip fun _ => rfl)
  | case4 position found rest other ih =>
    apply ih (h.push _)
    intro space
    obtain ⟨more, rfl⟩ := List.head?_eq_some_iff.mp space
    exact other more rfl
  | case5 leading position found rest other notLeading ih =>
    obtain rfl : leading = false := Bool.eq_false_of_not_eq_true notLeading
    exact ih (h.skip fun _ => rfl)
  | case6 leading position found c rest _ other ih =>
    have plain : (c == '>') = false := beq_false_of_ne other
    have next := h.skip fun bracket => absurd bracket other
    rw [remainsLeading, plain, Bool.or_false] at next
    exact ih next

end ScansMarkers

end

/-! ### All markers -/

/-- The markers of a text are what its scan has found at the end. -/
theorem scanned_quoteMarkers (cs : List Char) :
  Scanned (cs.flatMap utf8EncodeChar) (utf8Len cs) (quoteMarkers cs).reverse
  := by
  have start : ScansMarkers cs [] cs true 0 [] := by
    refine ⟨rfl, rfl, ?_, .nil, List.forall_mem_nil _, ?_⟩
    · exact iff_of_true rfl (isLeading_zero _)
    · intro s
      constructor
      · intro hs
        cases hs
      · rintro ⟨p, hp, -⟩
        exact absurd hp (Nat.not_lt_zero p)
  exact start.scanned

/-- The markers of quoted lines end inside the text. -/
theorem stop_le_of_mem_quoteMarkers {cs : List Char} {m : Span} (h : m ∈ quoteMarkers cs) :
  m.stop ≤ utf8Len cs
  := (scanned_quoteMarkers cs).bound m (List.mem_reverse.mpr h)

/-- A byte of ASCII is between two places where a text can be cut. -/
theorem isByteBoundary_of_ascii {cs : List Char} {i : Nat} {b : UInt8}
    (h : (cs.flatMap utf8EncodeChar)[i]? = some b) (ascii : b.toNat < 0x80) :
  IsByteBoundary cs i ∧ IsByteBoundary cs (i + 1)
  := by
  obtain ⟨xs, c, zs, rfl, rfl, size⟩ := exists_of_ascii h ascii
  refine ⟨⟨xs, List.prefix_append xs _, rfl⟩, ⟨xs ++ [c], ⟨zs, by simp⟩, ?_⟩⟩
  rw [String.utf8Len_append, String.utf8Len_cons, String.utf8Len_nil, size]

/-- A marker is made of whole characters. -/
theorem isByteBoundary_markerSpan {cs : List Char} {p : Nat}
    (h : IsMarkerAt (cs.flatMap utf8EncodeChar) p) :
  IsByteBoundary cs (markerSpan (cs.flatMap utf8EncodeChar) p).start
    ∧ IsByteBoundary cs (markerSpan (cs.flatMap utf8EncodeChar) p).stop
  := by
  have bracket := isByteBoundary_of_ascii h.1 (by decide)
  refine ⟨bracket.1, ?_⟩
  rw [markerSpan]
  dsimp only
  split
  · rename_i space
    exact (isByteBoundary_of_ascii space (by decide)).2
  · exact bracket.2

/-- Spans are the markers of the quoted lines of a text. -/
structure AreQuoteMarkers (cs : List Char) (spans : List Span) : Prop where
  /-- There is a marker for each `>` before which there are only spaces, tabs and brackets on its
  line. -/
  mem_iff : ∀ s, s ∈ spans ↔ ∃ p, IsMarkerAt (cs.flatMap utf8EncodeChar) p
    ∧ s = markerSpan (cs.flatMap utf8EncodeChar) p
  /-- The markers go from left to right and do not overlap. -/
  ordered : spans.Pairwise fun s t => s.stop ≤ t.start
  /-- They are not empty, and are made of whole characters of the text. -/
  inside : ∀ s ∈ spans, s.start < s.stop ∧ s.stop ≤ utf8Len cs ∧ IsByteBoundary cs s.start
    ∧ IsByteBoundary cs s.stop

/-- The markers of quoted lines are found exactly. -/
theorem areQuoteMarkers_quoteMarkers (cs : List Char) :
  AreQuoteMarkers cs (quoteMarkers cs)
  := by
  obtain ⟨ordered, -, all⟩ := scanned_quoteMarkers cs
  have mem_iff (s : Span) : s ∈ quoteMarkers cs ↔
      ∃ p, IsMarkerAt (cs.flatMap utf8EncodeChar) p
        ∧ s = markerSpan (cs.flatMap utf8EncodeChar) p := by
    rw [← List.mem_reverse, all]
    constructor
    · rintro ⟨p, -, marker, same⟩
      exact ⟨p, marker, same⟩
    · rintro ⟨p, marker, same⟩
      have short := (List.getElem?_eq_some_iff.mp marker.1).1
      rw [length_flatMap_utf8EncodeChar] at short
      exact ⟨p, short, marker, same⟩
  refine ⟨mem_iff, List.pairwise_reverse.mp ordered, ?_⟩
  intro s hs
  have stop := stop_le_of_mem_quoteMarkers hs
  obtain ⟨p, marker, rfl⟩ := (mem_iff s).mp hs
  obtain ⟨first, last⟩ := isByteBoundary_markerSpan marker
  exact ⟨lt_stop_markerSpan _ p, stop, first, last⟩

/-- Markers after a tab and after other markers, and brackets that are none. -/
example :
  quoteMarkers "\t>> é > x\n >".toList = [⟨1, 2⟩, ⟨2, 4⟩, ⟨12, 13⟩]
  := by
  decide

end LiveMarkdown
