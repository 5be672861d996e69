import LiveMarkdown.Files.Basic
import LiveMarkdown.Text.Split

/-!
# Paths

A path is a list of names with slashes between them; it is absolute if it begins with a
slash.  The extension of a name is what follows its last dot, and the stem is what
precedes it.  A dot at the start of a name begins no extension.
-/

namespace LiveMarkdown.Path

/-- Whether a path begins at the root. -/
def isAbsolute (p : Path) : Bool :=
  p.toList.head? == some '/'

/-- A path that starts where another one leads, unless it is absolute. -/
def join (base p : Path) : Path :=
  if isAbsolute p || base.isEmpty then p
  else if base.toList.getLast? == some '/' then base ++ p
  else base ++ "/" ++ p

/-- The parts of a path between slashes. -/
def parts (p : Path) : List String :=
  (pieces (· == '/') p.toList).map String.ofList

/-- The names in a path. -/
def names (p : Path) : List String :=
  (parts p).filter fun name => name != "" && name != "."

/-- The part of a name before its last dot and the part after it. -/
def splitName (name : String) : String × Option String :=
  let reversed := name.toList.reverse
  let extension := reversed.takeWhile (· != '.')
  match reversed.dropWhile (· != '.') with
  | _ :: stem =>
    if stem.isEmpty then (name, none)
    else (String.ofList stem.reverse, some (String.ofList extension.reverse))
  | [] => (name, none)

/-- The extension of a name. -/
def extension? (name : String) : Option String :=
  (splitName name).2

/-- The stem of a name. -/
def stem (name : String) : String :=
  (splitName name).1

end LiveMarkdown.Path
