import LiveMarkdown.Config.Directory
import LiveMarkdown.Style.ProfileText

/-!
# The catalog of profiles

The profiles of the user are files in a directory; their identifiers are the stems of
their names.  Of the files with one stem the first one that the directory lists is in the
catalog.  The profiles of the user take the place of the profiles that are always
available.
-/

namespace LiveMarkdown.Profile

section

variable {m : Type → Type} [Monad m] [FileReader m]

/-- The profile in a file. -/
def loadFrom (path : Path) : m (Result Profile) := do
  let content := (Result.ofFile (← readText path)).attempt
    ("Failed to read style profile " ++ path)
  return content.bind fun text => (ofText text).attempt ("In " ++ path)

/-- The profile that is always available under an identifier. -/
def loadBuiltin (id : String) : Result Profile :=
  match builtin? id with
  | some p => .ok p
  | none => Result.fail ("Unknown style profile: " ++ id)

/-- The profile with an identifier. -/
def load (e : Environment) (id : String) : m (Result Profile) := do
  match e.profileDirectory? with
  | none => return loadBuiltin id
  | some directory =>
    let path := Path.join directory (id ++ ".yaml")
    if ← FileReader.pathExists path then loadFrom path else return loadBuiltin id

end

/-- Where a profile is from. -/
inductive Origin where
  /-- A file of the user. -/
  | user
  /-- The program itself. -/
  | builtin
deriving DecidableEq, Repr, Inhabited

/-- An entry of the catalog. -/
structure Listing where
  /-- The identifier of the profile. -/
  id : String
  /-- The name of the profile. -/
  name : String
  /-- Where the profile is from. -/
  origin : Origin
deriving DecidableEq, Repr, Inhabited

namespace Listing

/-- The entry for a file of the user.  A profile that cannot be read is listed by its
identifier. -/
def ofFile (d : Disk) (directory : Path) (file : String) : Listing :=
  let id := Path.stem file
  let loaded : Result Profile := (loadFrom (m := ReaderM Disk) (Path.join directory file)).run d
  ⟨id, (match loaded with
    | .ok p => p.name
    | .error _ => id), .user⟩

/-- The entries whose identifiers differ from those before them. -/
def distinct (listings : List Listing) : List Listing :=
  listings.foldl (fun seen l => if seen.any (·.id == l.id) then seen else seen ++ [l]) []

/-- The entries for the files of the user, in the order in which their directory lists them. -/
def ofUser (d : Disk) (e : Environment) (list : Path → Except FileError (List String)) :
    List Listing :=
  match e.profileDirectory? with
  | none => []
  | some directory =>
    match list directory with
    | .error _ => []
    | .ok files =>
      let profiles := files.filter fun file =>
        Path.extension? file == some "yaml" || Path.extension? file == some "yml"
      distinct (profiles.map (ofFile d directory))

end Listing

/-- The catalog: the profiles of the user, and then the others.  A directory lists its files in an
order of its own, which is that of `list`. -/
def catalog (d : Disk) (e : Environment) (list : Path → Except FileError (List String)) :
    List Listing :=
  Listing.distinct (Listing.ofUser d e list ++
    builtins.map fun (id, p) => ⟨id, p.name, .builtin⟩)

end LiveMarkdown.Profile
