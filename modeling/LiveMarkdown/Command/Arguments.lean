import LiveMarkdown.Files.Basic
import LiveMarkdown.Number.Reading

/-!
# Arguments

The arguments of a command: a file, and options that begin with two hyphens.  The value
of an option is the next argument, or follows an equals sign.  An option that expects a
value is checked when the next option that is known begins, or at the end.  After two
hyphens alone, every argument is a file.
-/

namespace LiveMarkdown

/-- The arguments of a command. -/
structure Arguments where
  /-- The file to style. -/
  file : Path
  /-- The identifier of the profile. -/
  profile : Option String := none
  /-- The file with the configuration. -/
  config : Option Path := none
  /-- How many lines of a long text are styled at a time. -/
  linesAtOnce : Option Nat := none
  /-- From how many code units on a text counts as long. -/
  longText : Option Nat := none
  /-- The file with a font. -/
  font : Option Path := none
  /-- Whether the report is in JSON. -/
  json : Bool := false
deriving DecidableEq, Repr, Inhabited

/-- Why arguments are not carried out. -/
inductive ArgumentError where
  /-- There is no file. -/
  | missing
  /-- An argument is not known. -/
  | unknown
  /-- A value is missing or empty. -/
  | noValue
  /-- A value is no number. -/
  | malformed
  /-- An option is given twice. -/
  | repeated
  /-- A value is given to an option that takes none. -/
  | unexpectedValue
  /-- Help is asked for. -/
  | help
  /-- The version is asked for. -/
  | version
deriving DecidableEq, Repr, Inhabited

/-- What a value is given for. -/
inductive Parameter where
  /-- The file. -/
  | file
  /-- The identifier of the profile. -/
  | profile
  /-- The file with the configuration. -/
  | config
  /-- How many lines of a long text are styled at a time. -/
  | linesAtOnce
  /-- From how many code units on a text counts as long. -/
  | longText
  /-- The file with a font. -/
  | font
deriving DecidableEq, Repr, Inhabited

/-- An option. -/
inductive CommandOption where
  /-- One that takes a value. -/
  | takes (parameter : Parameter)
  /-- A report in JSON. -/
  | json
  /-- Help. -/
  | help
  /-- The version. -/
  | version
deriving DecidableEq, Repr, Inhabited

namespace CommandOption

/-- The option with a long name. -/
def ofName? : String → Option CommandOption
  | "profile" => some (.takes .profile)
  | "config" => some (.takes .config)
  | "chunk-lines" => some (.takes .linesAtOnce)
  | "threshold" => some (.takes .longText)
  | "font" => some (.takes .font)
  | "json" => some .json
  | "help" => some .help
  | "version" => some .version
  | _ => none

/-- The option with a name of one letter. -/
def ofLetter? : Char → Option CommandOption
  | 'h' => some .help
  | 'V' => some .version
  | _ => none

end CommandOption

namespace Arguments

/-- The arguments that have been read. -/
structure Given where
  /-- The file. -/
  file : Option Path := none
  /-- The other arguments. -/
  others : Arguments := { file := "" }
  /-- What a value is expected or has been given for, but has not been checked. -/
  pending : Option (Parameter × Option String) := none
  /-- Whether a file has been given. -/
  hasFile : Bool := false
  /-- Whether all arguments that follow are files. -/
  filesOnly : Bool := false

/-- A path, which must not be empty. -/
def readPath (value : String) : Except ArgumentError Path :=
  if value.isEmpty then .error .noValue else .ok value

/-- A number, perhaps with a plus sign. -/
def readNumber (value : String) : Except ArgumentError Nat :=
  let digits := match value.toList with
    | '+' :: digits => digits
    | digits => digits
  match (readNumber? 10 digits).filter (· < UInt64.size) with
  | some n => .ok n
  | none => .error .malformed

namespace Given

/-- Whether a value has been given and checked. -/
def has (g : Given) : Parameter → Bool
  | .file => g.file.isSome
  | .profile => g.others.profile.isSome
  | .config => g.others.config.isSome
  | .linesAtOnce => g.others.linesAtOnce.isSome
  | .longText => g.others.longText.isSome
  | .font => g.others.font.isSome

/-- Checks a value. -/
def check (g : Given) (parameter : Parameter) (value : Option String) :
    Except ArgumentError Given :=
  match value with
  | none => .error .noValue
  | some value =>
    if g.has parameter then .error .repeated
    else
      let set (others : Arguments) : Except ArgumentError Given := .ok { g with others }
      match parameter with
      | .file => do return { g with file := some (← readPath value) }
      | .profile => set { g.others with profile := some value }
      | .config => do set { g.others with config := some (← readPath value) }
      | .linesAtOnce => do set { g.others with linesAtOnce := some (← readNumber value) }
      | .longText => do set { g.others with longText := some (← readNumber value) }
      | .font => do set { g.others with font := some (← readPath value) }

/-- Checks the value that has not been checked. -/
def settle (g : Given) : Except ArgumentError Given :=
  match g.pending with
  | none => .ok g
  | some (parameter, value) => { g with pending := none }.check parameter value

/-- Takes an option. -/
def takeOption (g : Given) : CommandOption → Except ArgumentError Given
  | .takes parameter => do return { ← g.settle with pending := some (parameter, none) }
  | .json => do
    let g ← g.settle
    if g.others.json then .error .repeated
    else return { g with others := { g.others with json := true } }
  | .help => do
    let _ ← g.settle
    .error .help
  | .version => do
    let _ ← g.settle
    .error .version

/-- Takes an option that comes with a value. -/
def takeOptionWith (g : Given) (value : String) : CommandOption → Except ArgumentError Given
  | .takes parameter => do (← g.settle).check parameter (some value)
  | _ => .error .unexpectedValue

/-- Takes a value: that of an option, or a file. -/
def takeValue (g : Given) (value : String) : Except ArgumentError Given :=
  match g.pending with
  | some (.file, _) => .error .unknown
  | some (parameter, none) =>
    if g.filesOnly then
      if g.hasFile then .error .unknown else .error .noValue
    else .ok { g with pending := some (parameter, some value) }
  | _ =>
    if g.hasFile then .error .unknown
    else do return { ← g.settle with pending := some (.file, some value), hasFile := true }

/-- Takes an argument. -/
def take (g : Given) (argument : String) : Except ArgumentError Given :=
  if g.filesOnly then g.takeValue argument
  else
    match argument.toList with
    | ['-', '-'] => .ok { g with filesOnly := true }
    | '-' :: '-' :: long =>
      let name := long.takeWhile (· != '=')
      match CommandOption.ofName? (String.ofList name), long.dropWhile (· != '=') with
      | none, _ => .error .unknown
      | some option, [] => g.takeOption option
      | some option, _ :: value => g.takeOptionWith (String.ofList value) option
    | '-' :: letter :: _ =>
      match CommandOption.ofLetter? letter with
      | some option => g.takeOption option
      | none => .error .unknown
    | _ => g.takeValue argument

/-- The arguments, once all of them have been taken. -/
def finish (g : Given) : Except ArgumentError Arguments := do
  let g ← g.settle
  match g.file with
  | some file => return { g.others with file }
  | none => .error .missing

end Given

/-- The arguments in a list. -/
def ofList (arguments : List String) : Except ArgumentError Arguments := do
  (← arguments.foldlM Given.take {}).finish

end Arguments

end LiveMarkdown
