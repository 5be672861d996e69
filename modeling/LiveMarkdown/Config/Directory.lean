import LiveMarkdown.Files.Disk

/-!
# The directory of the configuration

The configuration, the profiles of the user and the logs are in one directory.  It is in
the directory for configurations that the environment names, or else in that of the home
directory.
-/

namespace LiveMarkdown

/-- What a process knows of where the files of the user are. -/
structure Environment where
  /-- The directory for configurations. -/
  configHome : Option Path := none
  /-- The home directory. -/
  home : Option Path := none
deriving DecidableEq, Repr, Inhabited

namespace Environment

/-- The directory of this program. -/
def directory? (e : Environment) : Option Path :=
  (e.configHome.or (e.home.map (Path.join · ".config"))).map (Path.join · "markstyle")

/-- The file with the configuration. -/
def configFile? (e : Environment) : Option Path :=
  e.directory?.map (Path.join · "config.yaml")

/-- The directory with the profiles of the user. -/
def profileDirectory? (e : Environment) : Option Path :=
  e.directory?.map (Path.join · "styles")

/-- The directory with the logs. -/
def logDirectory? (e : Environment) : Option Path :=
  e.directory?.map (Path.join · "logs")

/-- A place in the directory of this program, which must be known. -/
def required (place : Option Path) : Result Path :=
  match place with
  | some p => .ok p
  | none => Result.fail "No config directory available"

end Environment

/-- Makes the directory with the logs, unless it is there. -/
def Disk.ensureLogs (d : Disk) (e : Environment) : Result (Path × Disk) := do
  let path ← Environment.required e.logDirectory?
  let made ← (Result.ofFile (d.makeDirectories (Path.isAbsolute path) (Path.names path))).attempt
    ("Failed to create directory " ++ path)
  return (path, made)

end LiveMarkdown
