import LiveMarkdown.Files.Path

/-!
# Disks

A disk holds files and directories.  Each of them has a location, which is the list of the
names that lead to it from the root; the root is a directory.  A path leads from the root
or from the current directory to a location, and every name but the last one must be that
of a directory.
-/

namespace LiveMarkdown

/-- What a disk holds at a location. -/
inductive Entry where
  /-- A file. -/
  | file (data : ByteArray)
  /-- A directory. -/
  | directory

/-- Whether something is a directory. -/
def Entry.isDirectory : Entry → Bool
  | .directory => true
  | .file _ => false

/-- A disk. -/
structure Disk where
  /-- What it holds. -/
  entries : List (List String × Entry) := []
  /-- The location of the current directory. -/
  current : List String := []

namespace Disk

/-- What is at a location. -/
def entry? (d : Disk) (location : List String) : Option Entry :=
  if location.isEmpty then some .directory else d.entries.lookup location

/-- The disk with something at a location. -/
def insert (d : Disk) (location : List String) (e : Entry) : Disk :=
  { d with entries := (location, e) :: d.entries.filter (·.1 != location) }

/-- The location that some parts of a path lead to. -/
def follow (d : Disk) (location : List String) : List String → Except FileError (List String)
  | [] => .ok location
  | part :: rest =>
    match d.entry? location with
    | none => .error .notFound
    | some (.file _) => .error .notDirectory
    | some .directory =>
      if part = "" ∨ part = "." then d.follow location rest
      else if part = ".." then d.follow location.dropLast rest
      else d.follow (location ++ [part]) rest

/-- The location that a path leads to.  There need not be anything. -/
def locate (d : Disk) (p : Path) : Except FileError (List String) :=
  if p.isEmpty then .error .notFound
  else d.follow (if Path.isAbsolute p then [] else d.current) (Path.parts p)

/-- What a path leads to. -/
def find? (d : Disk) (p : Path) : Option Entry :=
  match d.locate p with
  | .ok location => d.entry? location
  | .error _ => none

/-- What the file at a path holds. -/
def read (d : Disk) (p : Path) : Except FileError ByteArray :=
  (d.locate p).bind fun location =>
    match d.entry? location with
    | some (.file data) => .ok data
    | some .directory => .error .isDirectory
    | none => .error .notFound

/-- Writes a file.  Its directory must be there. -/
def write (d : Disk) (p : Path) (data : ByteArray) : Except FileError Disk :=
  (d.locate p).bind fun location =>
    match d.entry? location, d.entry? location.dropLast with
    | some .directory, _ => .error .isDirectory
    | some (.file _), _ => .ok (d.insert location (.file data))
    | none, some .directory => .ok (d.insert location (.file data))
    | none, some (.file _) => .error .notDirectory
    | none, none => .error .notFound

/-- Makes a directory where some parts of a path lead.  The directory around it must be
there. -/
def makeDirectory (d : Disk) (start names : List String) : Except FileError Disk :=
  (d.follow start names).bind fun location =>
    match d.entry? location, d.entry? location.dropLast with
    | some _, _ => .error .alreadyExists
    | none, some .directory => .ok (d.insert location .directory)
    | none, some (.file _) => .error .notDirectory
    | none, none => .error .notFound

/-- Whether some parts of a path lead to a directory. -/
def leadsToDirectory (d : Disk) (start names : List String) : Bool :=
  match d.follow start names with
  | .ok location => (d.entry? location).any Entry.isDirectory
  | .error _ => false

/-- Makes a directory unless it is there. -/
def ensureDirectory (d : Disk) (start names : List String) : Except FileError Disk :=
  match d.makeDirectory start names with
  | .ok made => .ok made
  | .error e => if d.leadsToDirectory start names then .ok d else .error e

/-- Makes a directory, and those around it as far as they are missing.  The names that lead
to it are given in reverse. -/
def makeDirectoriesTo (d : Disk) (start : List String) : List String → Except FileError Disk
  | [] => .ok d
  | name :: outer =>
    match d.ensureDirectory start (name :: outer).reverse with
    | .ok made => .ok made
    | .error .notFound =>
      (d.makeDirectoriesTo start outer).bind fun d =>
        d.ensureDirectory start (name :: outer).reverse
    | .error e => .error e

/-- Makes the directory that some names lead to, and those around it. -/
def makeDirectories (d : Disk) (absolute : Bool) (names : List String) :
    Except FileError Disk :=
  d.makeDirectoriesTo (if absolute then [] else d.current) names.reverse

/-- The names in a directory, in the order in which the disk holds them. -/
def list (d : Disk) (p : Path) : Except FileError (List String) :=
  (d.locate p).bind fun location =>
    match d.entry? location with
    | some .directory =>
      .ok (d.entries.filterMap fun (place, _) =>
        if place.dropLast = location then place.getLast? else none)
    | some (.file _) => .error .notDirectory
    | none => .error .notFound

end Disk

instance : FileReader (ReaderM Disk) where
  readFile p := do return (← read).read p
  pathExists p := do return ((← read).find? p).isSome

end LiveMarkdown
