/-!
# Files

What can go wrong with a file, what a failure is told with, and the operations that
reading a file needs.
-/

namespace LiveMarkdown

/-- A path, as it is written. -/
abbrev Path :=
  String

/-- What can go wrong with a file. -/
inductive FileError where
  /-- There is nothing at the path. -/
  | notFound
  /-- The file does not hold a text in UTF-8. -/
  | invalidData
  /-- There is a directory at the path. -/
  | isDirectory
  /-- There is something at the path already. -/
  | alreadyExists
  /-- The path leads through a file. -/
  | notDirectory
deriving DecidableEq, Repr, Inhabited

/-- The wording of an error. -/
def FileError.message : FileError → String
  | .notFound => "no such file or directory"
  | .invalidData => "not valid UTF-8"
  | .isDirectory => "is a directory"
  | .alreadyExists => "file exists"
  | .notDirectory => "not a directory"

/-- Why something failed. -/
inductive Cause where
  /-- A reason in words. -/
  | reason (text : String)
  /-- A text is not the YAML that is expected. -/
  | malformed
  /-- A file. -/
  | file (error : FileError)
deriving DecidableEq, Repr, Inhabited

/-- The wording of a cause. -/
def Cause.message : Cause → String
  | .reason text => text
  | .malformed => "malformed document"
  | .file error => error.message

/-- A cause, and what was attempted, in words, with the outermost attempt first. -/
structure Failure where
  /-- What was attempted. -/
  attempts : List String := []
  /-- Why it failed. -/
  cause : Cause
deriving DecidableEq, Repr, Inhabited

/-- What is told about a failure first. -/
def Failure.headline (f : Failure) : String :=
  f.attempts.headD f.cause.message

/-- A result that a failure may take the place of. -/
abbrev Result (α : Type) :=
  Except Failure α

namespace Result

/-- Fails for a reason. -/
def fail {α : Type} (reason : String) : Result α :=
  .error { cause := .reason reason }

/-- Says what is attempted. -/
def attempt {α : Type} (what : String) : Result α → Result α
  | .ok a => .ok a
  | .error f => .error { f with attempts := what :: f.attempts }

/-- The result of an operation on a file. -/
def ofFile {α : Type} : Except FileError α → Result α
  | .ok a => .ok a
  | .error e => .error { cause := .file e }

/-- The result of reading a document. -/
def ofDocument {α : Type} : Option α → Result α
  | some a => .ok a
  | none => .error { cause := .malformed }

end Result

/-- A monad in which files can be read. -/
class FileReader (m : Type → Type) where
  /-- What a file holds. -/
  readFile : Path → m (Except FileError ByteArray)
  /-- Whether there is anything at a path. -/
  pathExists : Path → m Bool

/-- The text that some bytes encode. -/
def decodeText (data : ByteArray) : Except FileError String :=
  match String.fromUTF8? data with
  | some text => .ok text
  | none => .error .invalidData

/-- The text in a file. -/
def readText {m : Type → Type} [Monad m] [FileReader m] (path : Path) :
    m (Except FileError String) :=
  return (← FileReader.readFile path).bind decodeText

end LiveMarkdown
