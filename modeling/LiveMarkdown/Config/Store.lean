import LiveMarkdown.Config.Basic
import LiveMarkdown.Config.Directory

/-!
# Configurations in files

A configuration is loaded from a file and saved to one.  Where no file is asked for, a
configuration that cannot be loaded is replaced by the standard one.
-/

namespace LiveMarkdown.Config

variable {m : Type → Type} [Monad m] [FileReader m]

/-- The configuration in a file. -/
def loadFrom (path : Path) : m (Result Config) := do
  let content := (Result.ofFile (← readText path)).attempt ("Failed to read config at " ++ path)
  return content.bind fun text =>
    (Result.ofDocument (ofText? text)).attempt ("Failed to parse config at " ++ path)

/-- The configuration of the user, or the standard one. -/
def load (e : Environment) : m Config := do
  match e.configFile? with
  | none => return {}
  | some path =>
    if ← FileReader.pathExists path then
      match ← loadFrom path with
      | .ok c => return c
      | .error _ => return {}
    else return {}

/-- Writes a configuration to a file, whose directory is made if it is missing. -/
def saveTo (c : Config) (path : Path) (d : Disk) : Result Disk := do
  let d ← (Result.ofFile (d.makeDirectories (Path.isAbsolute path)
    (Path.names path).dropLast)).attempt "Failed to create config directory"
  (Result.ofFile (d.write path c.toText.toUTF8)).attempt ("Failed to write config to " ++ path)

/-- Writes the configuration of the user. -/
def save (c : Config) (e : Environment) (d : Disk) : Result Disk := do
  c.saveTo (← Environment.required e.configFile?) d

end LiveMarkdown.Config
