import Mathlib.Data.List.TakeWhile
import Mathlib.Data.Multiset.Defs
import LiveMarkdown.Files.Disk

/-!
# Names in a directory

A path that ends in a name can be joined to a further name, and the joined path leads to what
the directory holds under that name.  It leads nowhere when the directory cannot be listed.
A name with an extension is put together again from its stem and its extension.
-/

namespace LiveMarkdown

/-! ### Pieces -/

section

variable {α : Type} {p : α → Bool}

theorem pieces_ne_nil (as : List α) :
  pieces p as ≠ []
  := by
  cases as with
  | nil => apply List.cons_ne_nil
  | cons a as =>
    rw [pieces]
    split
    · apply List.cons_ne_nil
    · split <;> apply List.cons_ne_nil

/-- Without an entry to cut at, the list is the only piece. -/
theorem pieces_of_not {as : List α} (h : ∀ a ∈ as, p a = false) :
  pieces p as = [as]
  := by
  induction as with
  | nil => rfl
  | cons a as ih =>
    rw [List.forall_mem_cons] at h
    simp only [pieces, h.1, Bool.false_eq_true, ↓reduceIte, ih h.2]

/-- An entry to cut at separates the pieces before it from those after it. -/
theorem pieces_append_cons {a : α} (h : p a) (before after : List α) :
  pieces p (before ++ a :: after) = pieces p before ++ pieces p after
  := by
  induction before with
  | nil => simp only [List.nil_append, pieces, h, ↓reduceIte, List.cons_append]
  | cons b before ih =>
    simp only [List.cons_append, pieces, ih]
    split
    · rfl
    · cases hb : pieces p before with
      | nil => apply absurd hb (pieces_ne_nil before)
      | cons piece rest => rfl

end

namespace Path

/-! ### Joining paths -/

/-- A path does not end with a slash, and it is not empty. -/
def EndsInName (p : Path) : Prop :=
  ∃ c ∈ p.toList.getLast?, c ≠ '/'

/-- A name leads from a directory to what is in it. -/
structure IsName (name : String) : Prop where
  /-- It is not empty. -/
  ne_empty : name ≠ ""
  /-- It is not the directory itself. -/
  ne_here : name ≠ "."
  /-- It is not the directory around it. -/
  ne_above : name ≠ ".."
  /-- It has one part. -/
  not_mem_slash : '/' ∉ name.toList

theorem not_isAbsolute {name : String} (h : '/' ∉ name.toList) :
  isAbsolute name = false
  := by
  cases hn : name.toList with
  | nil => simp only [isAbsolute, hn]; rfl
  | cons c cs =>
    have hc : c ≠ '/' := fun hc => h (by rw [hn, hc]; apply List.mem_cons_self)
    simpa [isAbsolute, hn] using hc

theorem endsInName_join {base name : String} (h : EndsInName name) :
  EndsInName (join base name)
  := by
  obtain ⟨c, hc, hs⟩ := h
  refine ⟨c, ?_, hs⟩
  rw [Option.mem_def] at hc ⊢
  unfold join
  split
  · apply hc
  · split <;> simp [List.getLast?_append, List.getLast?_cons, hc]

section

variable {directory name : String}

theorem EndsInName.ne_empty (h : EndsInName directory) :
  directory ≠ ""
  := by
  rintro rfl
  obtain ⟨c, hc, -⟩ := h
  cases hc

theorem join_eq (h : EndsInName directory) (hn : '/' ∉ name.toList) :
  join directory name = directory ++ "/" ++ name
  := by
  have hd : directory.isEmpty = false := by
    simpa [String.isEmpty_iff] using h.ne_empty
  obtain ⟨c, hc, hs⟩ := h
  rw [Option.mem_def] at hc
  simp [join, not_isAbsolute hn, hd, hc, hs]

theorem parts_join (h : EndsInName directory) (hn : '/' ∉ name.toList) :
  parts (join directory name) = parts directory ++ [name]
  := by
  have one : pieces (· == '/') name.toList = [name.toList] := by
    apply pieces_of_not
    intro c hc
    apply beq_false_of_ne
    rintro rfl
    apply hn hc
  have list : (join directory name).toList = directory.toList ++ '/' :: name.toList := by
    simp [join_eq h hn]
  simp [parts, list, pieces_append_cons, one]

theorem isAbsolute_join (h : EndsInName directory) (hn : '/' ∉ name.toList) :
  isAbsolute (join directory name) = isAbsolute directory
  := by
  cases hd : directory.toList with
  | nil => apply absurd (String.toList_eq_nil_iff.mp hd) h.ne_empty
  | cons first rest => simp [isAbsolute, join_eq h hn, hd]

end

/-! ### Stems and extensions -/

/-- The last dot of a name separates its stem from its extension. -/
theorem splitName_append {stem extension : String} (hs : stem ≠ "")
    (hx : '.' ∉ extension.toList) :
  splitName (stem ++ "." ++ extension) = (stem, some extension)
  := by
  have taken : ∀ c ∈ extension.toList.reverse, (c != '.') = true := by
    intro c hc
    apply bne_iff_ne.mpr
    rintro rfl
    apply hx (List.mem_reverse.mp hc)
  have one : ∀ c : List Char, ('.' :: c).takeWhile (· != '.') = [] := fun _ => rfl
  have all : ∀ c : List Char, ('.' :: c).dropWhile (· != '.') = '.' :: c := fun _ => rfl
  simp [splitName, List.takeWhile_append_of_pos taken,
    List.dropWhile_append_of_pos taken, one, all, hs]

/-- A name with an extension is its stem, which is not empty, a dot and the extension. -/
theorem eq_of_extension? {name x : String} (h : extension? name = some x) :
  stem name ≠ "" ∧ name = stem name ++ "." ++ x
  := by
  have cut := List.takeWhile_append_dropWhile (p := (· != '.')) (l := name.toList.reverse)
  simp only [extension?, stem, splitName] at h ⊢
  cases hd : name.toList.reverse.dropWhile (· != '.') with
  | nil => simp [hd] at h
  | cons c rest =>
    have dot : c = '.' := by
      simpa [hd] using List.head_dropWhile_not (· != '.')
        (l := name.toList.reverse) (by simp [hd])
    rw [hd, dot] at cut
    by_cases hr : rest = []
    · simp [hd, hr] at h
    · simp only [hd, List.isEmpty_iff, hr, ↓reduceIte, Option.some.injEq] at h ⊢
      subst h
      constructor
      · simpa using hr
      · apply String.toList_inj.mp
        calc name.toList
            = (name.toList.reverse.takeWhile (· != '.') ++ '.' :: rest).reverse := by
              rw [cut, List.reverse_reverse]
          _ = (String.ofList rest.reverse ++ "."
                ++ String.ofList (name.toList.reverse.takeWhile (· != '.')).reverse).toList := by
              simp

theorem not_mem_stem {file x : String} (h : extension? file = some x)
    (hf : '/' ∉ file.toList) :
  '/' ∉ (stem file).toList
  := by
  rw [(Path.eq_of_extension? h).2] at hf
  simp only [String.toList_append, List.mem_append, not_or] at hf
  apply hf.1.1

end Path

namespace Disk

variable {d : Disk}

/-! ### What a directory lists -/

theorem follow_append (location names rest : List String) :
  d.follow location (names ++ rest)
    = (d.follow location names).bind fun location => d.follow location rest
  := by
  induction names generalizing location with
  | nil => rfl
  | cons name names ih =>
    simp only [List.cons_append, follow]
    split
    · rfl
    · rfl
    · split
      · apply ih
      · split <;> apply ih

theorem locate_join {directory name : String} (h : Path.EndsInName directory)
    (hn : '/' ∉ name.toList) :
  d.locate (Path.join directory name)
    = (d.locate directory).bind fun location => d.follow location [name]
  := by
  have joined : Path.join directory name ≠ "" := by
    rw [Path.join_eq h hn]
    simp
  simp [locate, joined, h.ne_empty, Path.isAbsolute_join h hn, Path.parts_join h hn,
    follow_append]

theorem isSome_entry?_append {location : List String} {name : String} :
  (d.entry? (location ++ [name])).isSome
    ↔ ∃ entry ∈ d.entries, entry.1.dropLast = location ∧ entry.1.getLast? = some name
  := by
  have inner : (location ++ [name]).isEmpty = false := by simp
  have split (place : List String) : location ++ [name] = place
      ↔ place.dropLast = location ∧ place.getLast? = some name := by
    constructor
    · rintro rfl
      simp
    · rintro ⟨rfl, last⟩
      obtain ⟨front, rfl⟩ := List.getLast?_eq_some_iff.mp last
      simp
  unfold entry?
  simp only [inner, Bool.false_eq_true, ↓reduceIte, List.lookup_isSome_iff, beq_iff_eq, split]

/-- A directory can be listed and has a name in it. -/
def Holds (d : Disk) (directory : Path) (name : String) : Prop :=
  ∃ names, d.list directory = .ok names ∧ name ∈ names

/-- A name in a directory leads to something exactly if the directory holds the name. -/
theorem isSome_find?_join {directory name : String} (h : Path.EndsInName directory)
    (hn : Path.IsName name) :
  (d.find? (Path.join directory name)).isSome ↔ d.Holds directory name
  := by
  simp only [find?, locate_join h hn.not_mem_slash, Holds, list]
  cases d.locate directory with
  | error e => simp [Except.bind]
  | ok location =>
    simp only [Except.bind, follow]
    cases hl : d.entry? location with
    | none => simp
    | some entry =>
      cases entry with
      | file data => simp
      | directory =>
        simp [hn.ne_empty, hn.ne_here, hn.ne_above, isSome_entry?_append]

/-- What a directory holds is the last name of a location on the disk. -/
theorem Holds.exists_entry {directory : Path} {name : String} (h : d.Holds directory name) :
  ∃ entry ∈ d.entries, entry.1.getLast? = some name
  := by
  obtain ⟨names, listed, hm⟩ := h
  unfold list at listed
  cases hl : d.locate directory with
  | error e => rw [hl] at listed; cases listed
  | ok location =>
    rw [hl, Except.bind] at listed
    split at listed
    · cases listed
      obtain ⟨entry, he, hm⟩ := List.mem_filterMap.mp hm
      exact ⟨entry, he, (Option.ite_none_right_eq_some.mp hm).2⟩
    · cases listed
    · cases listed

/-- No name on the disk has a slash in it. -/
def HasNames (d : Disk) : Prop :=
  ∀ entry ∈ d.entries, ∀ name ∈ entry.1, '/' ∉ name.toList

theorem HasNames.not_mem_slash {directory : Path} {name : String} (h : d.HasNames)
    (hm : d.Holds directory name) :
  '/' ∉ name.toList
  := by
  obtain ⟨entry, he, hl⟩ := hm.exists_entry
  exact h entry he name (List.mem_of_getLast? hl)

/-! ### The order of a listing -/

/-- Directories are listed in an order of their own: as a multiset, the names that are listed are
those that the directory holds. -/
def IsListing (d : Disk) (list : Path → Except FileError (List String)) : Prop :=
  ∀ p, (list p).map Multiset.ofList = (d.list p).map Multiset.ofList

/-- A directory lists the names that it holds, whatever their order is. -/
theorem IsListing.exists_mem_iff {list : Path → Except FileError (List String)}
    (h : d.IsListing list) {directory : Path} {name : String} :
  (∃ files, list directory = .ok files ∧ name ∈ files) ↔ d.Holds directory name
  := by
  have same := h directory
  unfold Holds
  cases left : list directory with
  | error e =>
    cases right : d.list directory with
    | error e' => simp
    | ok names => rw [left, right] at same; cases same
  | ok files =>
    cases right : d.list directory with
    | error e => rw [left, right] at same; cases same
    | ok names =>
      rw [left, right] at same
      have order : files.Perm names := Multiset.coe_eq_coe.mp (Except.ok.inj same)
      simp [order.mem_iff]

end Disk

end LiveMarkdown
