import Mathlib.Data.List.Induction
import Mathlib.Data.String.Basic
import LiveMarkdown.Proofs.Files.Names
import LiveMarkdown.Style.Catalog

/-!
# Loading what the catalog lists

An entry of the catalog for a profile that is always available is loaded by its identifier.
So is an entry for a file of the user that ends in `.yaml`.  A file that ends in `.yml` is
listed as well, but it is never loaded by its identifier: what is loaded is what would be
without the file.  All this holds in whatever order the directory of the user lists its files.
-/

namespace LiveMarkdown.Profile

open LiveMarkdown.Path (EndsInName IsName stem extension?)

namespace Listing

/-! ### Entries with different identifiers -/

theorem distinct_append (ls : List Listing) (l : Listing) :
  distinct (ls ++ [l])
    = if (distinct ls).any (·.id == l.id) then distinct ls else distinct ls ++ [l]
  := by
  unfold distinct
  rw [List.foldl_append]
  rfl

/-- Every identifier is kept. -/
theorem any_distinct (ls : List Listing) (id : String) :
  (distinct ls).any (·.id == id) = ls.any (·.id == id)
  := by
  induction ls using List.reverseRecOn with
  | nil => rfl
  | append_singleton ls l ih =>
    rw [distinct_append, List.any_append, ← ih]
    split
    next seen =>
      cases hid : l.id == id with
      | false => simp [hid]
      | true =>
        rw [beq_iff_eq.mp hid] at seen
        simp [seen]
    next => rw [List.any_append]

/-- The entries that are kept are the first ones with their identifiers. -/
theorem exists_of_mem_distinct {ls : List Listing} {l : Listing} (h : l ∈ distinct ls) :
  ∃ before after, ls = before ++ l :: after ∧ ∀ k ∈ before, k.id ≠ l.id
  := by
  induction ls using List.reverseRecOn with
  | nil => cases h
  | append_singleton ls k ih =>
    rw [distinct_append] at h
    have old : l ∈ distinct ls → ∃ before after,
        ls ++ [k] = before ++ l :: after ∧ ∀ k ∈ before, k.id ≠ l.id := by
      intro h
      obtain ⟨before, after, rfl, first⟩ := ih h
      refine ⟨before, after ++ [k], by simp, first⟩
    split at h
    next => apply old h
    next fresh =>
      rcases List.mem_append.mp h with h | h
      · apply old h
      · cases List.mem_singleton.mp h
        refine ⟨ls, [], rfl, ?_⟩
        simpa [any_distinct] using fresh

/-- The first entry is kept, and it stays the first one. -/
theorem exists_distinct_cons (l : Listing) (ls : List Listing) :
  ∃ rest, distinct (l :: ls) = l :: rest
  := by
  induction ls using List.reverseRecOn with
  | nil => exact ⟨[], rfl⟩
  | append_singleton ls k ih =>
    obtain ⟨rest, same⟩ := ih
    rw [← List.cons_append, distinct_append, same]
    split
    next => exact ⟨rest, rfl⟩
    next => exact ⟨rest ++ [k], rfl⟩

theorem mem_distinct_cons (l : Listing) (ls : List Listing) :
  l ∈ distinct (l :: ls)
  := by
  obtain ⟨rest, same⟩ := exists_distinct_cons l ls
  rw [same]
  apply List.mem_cons_self

/-! ### The files of the user -/

theorem ofFile_id (d : Disk) (directory : Path) (file : String) :
  (ofFile d directory file).id = stem file
  := rfl

theorem ofFile_origin (d : Disk) (directory : Path) (file : String) :
  (ofFile d directory file).origin = .user
  := rfl

theorem ofFile_name {d : Disk} {directory : Path} {file : String} {p : Profile}
    (h : (loadFrom (m := ReaderM Disk) (Path.join directory file)).run d = .ok p) :
  (ofFile d directory file).name = p.name
  := by
  simp only [ofFile, h]

theorem append_yaml (s : String) :
  s ++ ".yaml" = s ++ "." ++ "yaml"
  := by
  rw [String.append_assoc]
  congr

theorem splitName_append_yaml {s : String} (h : s ≠ "") :
  Path.splitName (s ++ ".yaml") = (s, some "yaml")
  := by
  rw [append_yaml]
  apply Path.splitName_append h (by decide)

variable {d : Disk} {e : Environment} {list : Path → Except FileError (List String)}

/-- The entries for the files of the user are those for the files with the extensions of
YAML. -/
theorem exists_of_mem_ofUser {l : Listing} (h : l ∈ ofUser d e list) :
  ∃ directory files file,
    e.profileDirectory? = some directory ∧ list directory = .ok files ∧ file ∈ files
      ∧ l = ofFile d directory file
      ∧ (extension? file = some "yaml" ∨ extension? file = some "yml")
  := by
  unfold ofUser at h
  split at h
  next => cases h
  next directory hd =>
    split at h
    next => cases h
    next files hf =>
      obtain ⟨before, after, cut, -⟩ := exists_of_mem_distinct h
      have kept : l ∈ before ++ l :: after := by simp
      rw [← cut] at kept
      obtain ⟨file, hm, rfl⟩ := List.mem_map.mp kept
      obtain ⟨hm, hx⟩ := List.mem_filter.mp hm
      refine ⟨directory, files, file, hd, hf, hm, rfl, ?_⟩
      simpa using hx

/-- A file that ends in `.yaml` is listed by its stem, or another file with this stem is. -/
theorem exists_mem_ofUser {directory : Path} {files : List String} {id : String}
    (hd : e.profileDirectory? = some directory) (hf : list directory = .ok files)
    (hid : id ≠ "") (hm : id ++ ".yaml" ∈ files) :
  ∃ l ∈ ofUser d e list, l.id = id
  := by
  have same := splitName_append_yaml hid
  have listed : ofFile d directory (id ++ ".yaml")
      ∈ (files.filter fun file =>
        extension? file == some "yaml" || extension? file == some "yml").map
          (ofFile d directory) := by
    apply List.mem_map_of_mem
    simp [hm, extension?, same]
  have kept := any_distinct ((files.filter fun file =>
    extension? file == some "yaml" || extension? file == some "yml").map
      (ofFile d directory)) id
  rw [List.any_eq_true.mpr ⟨_, listed, by simp [ofFile_id, stem, same]⟩] at kept
  obtain ⟨l, hl, heq⟩ := List.any_eq_true.mp kept
  refine ⟨l, ?_, beq_iff_eq.mp heq⟩
  simp only [ofUser, hd, hf]
  apply hl

end Listing

/-! ### Loading a profile -/

section

variable {d : Disk} {e : Environment} {directory : Path} {id : String}

theorem decodeText_toUTF8 (text : String) :
  decodeText text.toUTF8 = .ok text
  := by
  simp only [decodeText, String.fromUTF8?, String.toUTF8_eq_toByteArray,
    dif_pos text.isValidUTF8]
  rfl

theorem loadFrom_run {path : Path} {text : String} (h : d.read path = .ok text.toUTF8) :
  (loadFrom (m := ReaderM Disk) path).run d = (ofText text).attempt ("In " ++ path)
  := by
  change (((Result.ofFile ((d.read path).bind decodeText)).attempt _).bind _) = _
  rw [h]
  simp only [Except.bind, decodeText_toUTF8]
  rfl

theorem endsInName_profileDirectory (h : e.profileDirectory? = some directory) :
  EndsInName directory
  := by
  obtain ⟨outer, -, rfl⟩ := Option.map_eq_some_iff.mp h
  apply Path.endsInName_join
  exact ⟨'s', rfl, by decide⟩

theorem isName_append_yaml (h : '/' ∉ id.toList) :
  IsName (id ++ ".yaml")
  := by
  have long : 5 ≤ (id ++ ".yaml").length := by
    rw [String.length_append]
    apply Nat.le_add_left
  refine ⟨?_, ?_, ?_, by simpa using h⟩ <;> intro hid <;> rw [hid] at long <;>
    apply absurd long (by decide)

/-- The file for an identifier is read if the directory of the profiles holds it. -/
theorem load_of_holds (hd : e.profileDirectory? = some directory)
    (hm : d.Holds directory (id ++ ".yaml")) (h : '/' ∉ id.toList) :
  (load (m := ReaderM Disk) e id).run d
    = (loadFrom (m := ReaderM Disk) (Path.join directory (id ++ ".yaml"))).run d
  := by
  have there := (Disk.isSome_find?_join (endsInName_profileDirectory hd)
    (isName_append_yaml h)).mpr hm
  simp only [load, hd]
  change ReaderT.run (if (d.find? _).isSome then _ else _) d = _
  rw [if_pos there]

/-- Without a file for an identifier, what is always available is loaded. -/
theorem load_of_not_holds (h : '/' ∉ id.toList)
    (hm : ∀ directory, e.profileDirectory? = some directory →
      ¬ d.Holds directory (id ++ ".yaml")) :
  (load (m := ReaderM Disk) e id).run d = loadBuiltin id
  := by
  unfold load
  split
  next => rfl
  next directory hd =>
    have missing : ¬ (d.find? (Path.join directory (id ++ ".yaml"))).isSome := by
      rw [Disk.isSome_find?_join (endsInName_profileDirectory hd) (isName_append_yaml h)]
      exact hm directory hd
    change ReaderT.run (if (d.find? _).isSome then _ else _) d = _
    rw [if_neg missing]
    rfl

/-- What is loaded is the file for an identifier, or what is always available. -/
theorem load_cases (hd : e.profileDirectory? = some directory) (h : '/' ∉ id.toList) :
  d.Holds directory (id ++ ".yaml")
      ∧ (load (m := ReaderM Disk) e id).run d
        = (loadFrom (m := ReaderM Disk) (Path.join directory (id ++ ".yaml"))).run d
    ∨ ¬ d.Holds directory (id ++ ".yaml")
      ∧ (load (m := ReaderM Disk) e id).run d = loadBuiltin id
  := by
  by_cases held : d.Holds directory (id ++ ".yaml")
  · exact .inl ⟨held, load_of_holds hd held h⟩
  · refine .inr ⟨held, load_of_not_holds h ?_⟩
    intro directory' hd'
    obtain rfl := Option.some.inj (hd.symm.trans hd')
    exact held

/-- A file that ends in `.yaml` is read for its stem. -/
theorem load_stem {file : String} (hd : e.profileDirectory? = some directory)
    (hm : d.Holds directory file) (h : '/' ∉ file.toList) (yaml : extension? file = some "yaml") :
  (load (m := ReaderM Disk) e (stem file)).run d
    = (loadFrom (m := ReaderM Disk) (Path.join directory file)).run d
  := by
  have whole : stem file ++ ".yaml" = file := by
    rw [Listing.append_yaml]
    exact (Path.eq_of_extension? yaml).2.symm
  have there : d.Holds directory (stem file ++ ".yaml") := by
    rw [whole]
    exact hm
  rw [load_of_holds hd there (Path.not_mem_stem yaml h), whole]

end

/-! ### The catalog -/

section

variable {d : Disk} {e : Environment} {list : Path → Except FileError (List String)}
  {l : Listing} {id : String} {p : Profile}

theorem builtin?_of_mem (h : (id, p) ∈ builtins) :
  builtin? id = some p
  := by
  simp only [builtins, List.mem_cons, Prod.mk.injEq, List.not_mem_nil, or_false] at h
  obtain ⟨rfl, rfl⟩ | ⟨rfl, rfl⟩ := h <;> rfl

theorem regular_of_mem_builtins (h : (id, p) ∈ builtins) :
  id ≠ "" ∧ '/' ∉ id.toList
  := by
  simp only [builtins, List.mem_cons, Prod.mk.injEq, List.not_mem_nil, or_false] at h
  obtain ⟨rfl, rfl⟩ | ⟨rfl, rfl⟩ := h <;> decide

/-- The entries of the catalog are for files of the user, or for profiles that are always
available and have an identifier that no file of the user has. -/
theorem exists_of_mem_catalog (h : l ∈ catalog d e list) :
  l ∈ Listing.ofUser d e list
    ∨ ∃ p, (l.id, p) ∈ builtins ∧ l = ⟨l.id, p.name, .builtin⟩
      ∧ ∀ k ∈ Listing.ofUser d e list, k.id ≠ l.id
  := by
  obtain ⟨before, after, cut, first⟩ := Listing.exists_of_mem_distinct h
  by_cases hl : l ∈ Listing.ofUser d e list
  · apply Or.inl hl
  · obtain ⟨known, rfl⟩ : Listing.ofUser d e list <+: before := by
      rcases List.prefix_or_prefix_of_prefix ⟨_, rfl⟩ ⟨_, cut.symm⟩ with shorter | ⟨user, hu⟩
      · exact shorter
      · cases user with
        | nil =>
          rw [List.append_nil] at hu
          exact ⟨[], by rw [hu, List.append_nil]⟩
        | cons k user =>
          rw [← hu, List.append_assoc] at cut
          obtain rfl := (List.cons.inj (List.append_cancel_left cut)).1
          apply absurd _ hl
          rw [← hu]
          exact List.mem_append_right before List.mem_cons_self
    rw [List.append_assoc] at cut
    have hm := List.mem_append_right known (@List.mem_cons_self _ l after)
    rw [← List.append_cancel_left cut] at hm
    obtain ⟨⟨id, p⟩, hp, rfl⟩ := List.mem_map.mp hm
    right
    exact ⟨p, hp, rfl, fun k hk => first k (List.mem_append_left known hk)⟩

/-- The file that is listed first is in the catalog. -/
theorem mem_catalog_of_list {directory : Path} {file : String} {files : List String}
    (hd : e.profileDirectory? = some directory) (hf : list directory = .ok (file :: files))
    (hx : extension? file = some "yaml" ∨ extension? file = some "yml")
    (hp : (loadFrom (m := ReaderM Disk) (Path.join directory file)).run d = .ok p) :
  ⟨stem file, p.name, .user⟩ ∈ catalog d e list
  := by
  have entry : Listing.ofFile d directory file = ⟨stem file, p.name, .user⟩ := by
    rw [← Listing.ofFile_name hp]
    rfl
  obtain ⟨users, first⟩ : ∃ users, Listing.ofUser d e list
      = Listing.ofFile d directory file :: users := by
    simp only [Listing.ofUser, hd, hf]
    rw [List.filter_cons_of_pos (by simpa using hx), List.map_cons]
    apply Listing.exists_distinct_cons
  rw [catalog, first, entry, List.cons_append]
  apply Listing.mem_distinct_cons

/-- An entry of the catalog for a profile that is always available has the name of the
profile, and its identifier loads the profile.

An entry for a file of the user has the name of the profile in the file.  If the file ends in
`.yaml`, the identifier loads what is in it.  If the file ends in `.yml`, the identifier loads
what it would without the file: what is in the file with its stem that ends in `.yaml`, or else
the profile that is always available. -/
theorem load_of_mem_catalog (hd : d.HasNames) (hs : d.IsListing list) (hl : l ∈ catalog d e list) :
  match l.origin with
  | .builtin =>
    ∃ p, builtin? l.id = some p ∧ l.name = p.name
      ∧ (load (m := ReaderM Disk) e l.id).run d = .ok p
  | .user =>
    ∃ directory file,
      e.profileDirectory? = some directory ∧ d.Holds directory file ∧ stem file = l.id
        ∧ (∀ p, (loadFrom (m := ReaderM Disk) (Path.join directory file)).run d = .ok p →
          l.name = p.name)
        ∧ (extension? file = some "yaml"
            ∧ (load (m := ReaderM Disk) e l.id).run d
              = (loadFrom (m := ReaderM Disk) (Path.join directory file)).run d
          ∨ extension? file = some "yml"
            ∧ (d.Holds directory (l.id ++ ".yaml")
                ∧ (load (m := ReaderM Disk) e l.id).run d
                  = (loadFrom (m := ReaderM Disk) (Path.join directory (l.id ++ ".yaml"))).run d
              ∨ ¬ d.Holds directory (l.id ++ ".yaml")
                ∧ (load (m := ReaderM Disk) e l.id).run d = loadBuiltin l.id))
  := by
  obtain hu | ⟨p, hp, whole, fresh⟩ := exists_of_mem_catalog hl
  · obtain ⟨directory, files, file, hdir, hf, hm, entry, hx⟩ := Listing.exists_of_mem_ofUser hu
    have held : d.Holds directory file := hs.exists_mem_iff.mp ⟨files, hf, hm⟩
    have slash := hd.not_mem_slash held
    have hid : l.id = stem file := by rw [entry, Listing.ofFile_id]
    have origin : l.origin = .user := by rw [entry, Listing.ofFile_origin]
    simp only [origin, hid]
    refine ⟨directory, file, hdir, held, rfl, ?_, ?_⟩
    · intro p hp
      rw [entry, Listing.ofFile_name hp]
    · rcases hx with yaml | yml
      · exact .inl ⟨yaml, load_stem hdir held slash yaml⟩
      · exact .inr ⟨yml, load_cases hdir (Path.not_mem_stem yml slash)⟩
  · obtain ⟨ne, slash⟩ := regular_of_mem_builtins hp
    rw [whole]
    refine ⟨p, builtin?_of_mem hp, rfl, ?_⟩
    rw [load_of_not_holds slash]
    · simp only [loadBuiltin, builtin?_of_mem hp]
    · intro directory hdir held
      obtain ⟨files, hf, hm⟩ := hs.exists_mem_iff.mpr held
      obtain ⟨k, hk, hid⟩ := Listing.exists_mem_ofUser hdir hf ne hm
      exact fresh k hk hid

end

/-- A profile of the user. -/
def own : String :=
  "version: 1
name: Own
fonts:
  body: &font
    family: serif
    size: 15
  mono: *font
colors:
  text: &ink '#111111'
  syntax: *ink
  heading: *ink
  link: *ink
  code_background: *ink
  blockquote_bar: *ink
"

/-- A disk with files of the user. -/
def ownDisk (files : List (String × String)) : Disk where
  entries := [(["c"], .directory), (["c", "markstyle"], .directory),
    (["c", "markstyle", "styles"], .directory)]
      ++ files.map fun (name, text) => (["c", "markstyle", "styles", name], .file text.toUTF8)

/-- The environment that leads to the files. -/
def ownEnvironment : Environment where
  configHome := some "/c"

theorem exists_ofText_own :
  ∃ p, ofText own = .ok p ∧ p.name = "Own"
  := by
  have name : (ofText own).toOption.map (·.name) = some "Own" := by decide +kernel
  cases h : ofText own with
  | error f => rw [h] at name; cases name
  | ok p =>
    rw [h] at name
    exact ⟨p, rfl, Option.some.inj name⟩

theorem profileDirectory?_ownEnvironment :
  ownEnvironment.profileDirectory? = some "/c/markstyle/styles"
  := by decide +kernel

/-- A profile in a file that ends in `.yaml` is loaded by the identifier it is listed with.  Here
the disk holds a file that ends in `.yml` before it, but the directory lists it first. -/
theorem load_of_mem_catalog_yaml :
  let d := ownDisk [("own.yml", ""), ("own.yaml", own)]
  let list := fun p => (d.list p).map List.reverse
  d.HasNames ∧ d.IsListing list ∧ ⟨"own", "Own", .user⟩ ∈ catalog d ownEnvironment list
    ∧ ∃ p, (load (m := ReaderM Disk) ownEnvironment "own").run d = .ok p ∧ p.name = "Own"
  := by
  intro d list
  obtain ⟨p, hp, name⟩ := exists_ofText_own
  have names : d.HasNames := by
    unfold Disk.HasNames
    decide
  have order : d.IsListing list := by
    intro path
    change ((d.list path).map List.reverse).map _ = _
    cases d.list path with
    | error e => rfl
    | ok names => exact congrArg Except.ok (Multiset.coe_reverse names)
  have listed : list "/c/markstyle/styles" = .ok ["own.yaml", "own.yml"] := by
    decide +kernel
  have located : d.locate "/c/markstyle/styles/own.yaml"
      = .ok ["c", "markstyle", "styles", "own.yaml"] := by
    decide +kernel
  have read : d.read "/c/markstyle/styles/own.yaml" = .ok own.toUTF8 := by
    rw [Disk.read, located]
    rfl
  have loaded := loadFrom_run read
  rw [hp] at loaded
  have listing : ⟨"own", "Own", .user⟩ ∈ catalog d ownEnvironment list := by
    rw [← name]
    exact mem_catalog_of_list profileDirectory?_ownEnvironment listed (.inl rfl) loaded
  refine ⟨names, order, listing, p, ?_, name⟩
  have held : d.Holds "/c/markstyle/styles" "own.yaml" :=
    order.exists_mem_iff.mp ⟨_, listed, List.mem_cons_self⟩
  obtain ⟨directory, file, hd, -, hid, -, loads⟩ := load_of_mem_catalog names order listing
  cases profileDirectory?_ownEnvironment.symm.trans hd
  rcases loads with ⟨yaml, load⟩ | ⟨-, ⟨-, load⟩ | ⟨other, -⟩⟩
  · obtain rfl : file = "own.yaml" := by
      rw [(Path.eq_of_extension? yaml).2, hid]
      rfl
    exact load.trans loaded
  · exact load.trans loaded
  · exact absurd held other

/-- A profile in a file that ends in `.yml` is listed, and there is nothing to load under its
identifier. -/
theorem not_load_of_mem_catalog_yml :
  let d := ownDisk [("own.yml", own)]
  ⟨"own", "Own", .user⟩ ∈ catalog d ownEnvironment d.list
    ∧ (∃ p, (loadFrom (m := ReaderM Disk) "/c/markstyle/styles/own.yml").run d = .ok p
      ∧ p.name = "Own")
    ∧ (load (m := ReaderM Disk) ownEnvironment "own").run d
      = Result.fail "Unknown style profile: own"
  := by
  intro d
  obtain ⟨p, hp, name⟩ := exists_ofText_own
  have only : d.list "/c/markstyle/styles" = .ok ["own.yml"] := by
    decide +kernel
  have located : d.locate "/c/markstyle/styles/own.yml"
      = .ok ["c", "markstyle", "styles", "own.yml"] := by
    decide +kernel
  have read : d.read "/c/markstyle/styles/own.yml" = .ok own.toUTF8 := by
    rw [Disk.read, located]
    rfl
  have loaded := loadFrom_run read
  rw [hp] at loaded
  refine ⟨?_, ⟨p, loaded, name⟩, ?_⟩
  · rw [← name]
    exact mem_catalog_of_list profileDirectory?_ownEnvironment only (.inr rfl) loaded
  · rw [load_of_not_holds (by decide)]
    · rfl
    · rintro directory hd ⟨files, hf, hm⟩
      cases profileDirectory?_ownEnvironment.symm.trans hd
      cases only.symm.trans hf
      revert hm
      decide

end LiveMarkdown.Profile
