import LiveMarkdown.Command.Arguments
import LiveMarkdown.Config.Store
import LiveMarkdown.Lifecycle.Session
import LiveMarkdown.Report.Basic
import LiveMarkdown.Style.Catalog
import LiveMarkdown.Style.FontFile

/-!
# The command

The command loads a file, styles it as a host would, and reports on the result.
-/

namespace LiveMarkdown

/-- What a command is to do, with the configuration that it takes effect with. -/
structure Plan where
  /-- The file to style. -/
  file : Path
  /-- The configuration. -/
  config : Config
  /-- The file with a font. -/
  font : Option Path
  /-- Whether the report is in JSON. -/
  json : Bool
deriving DecidableEq, Repr, Inhabited

namespace Plan

variable {m : Type → Type} [Monad m] [FileReader m]

/-- The configuration with what the arguments put in its place. -/
def adjust (a : Arguments) (c : Config) : Result Config :=
  if a.linesAtOnce = some 0 then Result.fail "--chunk-lines must be at least 1"
  else
    .ok {
      profile := a.profile.getD c.profile
      settings := { c.settings with
        linesAtOnce := a.linesAtOnce.getD c.settings.linesAtOnce
        longText := a.longText.getD c.settings.longText } }

/-- What some arguments ask for. -/
def ofArguments (e : Environment) (a : Arguments) : m (Result Plan) := do
  let loaded ← match a.config with
    | some path => Config.loadFrom path
    | none => Except.ok <$> Config.load e
  return (loaded.bind (adjust a)).map fun config => ⟨a.file, config, a.font, a.json⟩

/-- The source of metrics that a font file gives. -/
def metrics (font : Option Path) : m (Result MetricsSource) := do
  match font with
  | none => return .ok (FaceList.metrics [])
  | some path =>
    let data := (Result.ofFile (← FileReader.readFile path)).attempt ("Failed to read " ++ path)
    return (data.bind (FaceList.insertFile [] .sansSerif)).map FaceList.metrics

/-- The report on a text that is loaded and styled. -/
def reportOn (p : Plan) (style : Style) (text : String) : String :=
  let loaded : Session Clock :=
    ⟨{ style, settings := p.config.settings }, Buffer.ofText text.toList {}, {}, #[]⟩
  let finished := loaded.load.finish
  let report := Report.ofBuffer finished.buffer finished.coordinator.stats
  if p.json then report.json else report.plain

/-- Carries out a plan. -/
def report (e : Environment) (p : Plan) : m (Result String) := do
  match (Result.ofFile (← readText p.file)).attempt ("Failed to read " ++ p.file) with
  | .error f => return .error f
  | .ok text =>
    match ← Profile.load e p.config.profile with
    | .error f => return .error f
    | .ok profile =>
      return (← metrics p.font).map fun source =>
        p.reportOn (Style.ofProfile profile source) text

end Plan

/-- How a command ends. -/
structure Outcome where
  /-- The exit code. -/
  code : Nat
  /-- What is printed. -/
  output : String := ""
  /-- Why it failed. -/
  failure : Option Failure := none
deriving DecidableEq, Repr, Inhabited

namespace Command

/-- The name and the version. -/
def versionText : String :=
  "markstyle 0.1.0\n"

/-- How the command is used. -/
def helpText : String :=
  String.join [
    "Incremental markdown styling inspector\n\n",
    "Usage: markstyle [OPTIONS] <FILE>\n\n",
    "Arguments:\n",
    "  <FILE>  Markdown file to style\n\n",
    "Options:\n",
    "      --profile <ID>     Style profile id (overrides the config file)\n",
    "      --config <PATH>    Config file to use instead of ~/.config/markstyle/config.yaml\n",
    "      --chunk-lines <N>  Lines per chunk for progressive styling\n",
    "      --threshold <N>    Documents at least this many code units long are styled in chunks\n",
    "      --font <PATH>      Font file used for sans-serif line metrics\n",
    "      --json             Print spans as JSON\n",
    "  -h, --help             Print help\n",
    "  -V, --version          Print version\n"]

variable {m : Type → Type} [Monad m] [FileReader m]

/-- Runs the command. -/
def run (e : Environment) (arguments : List String) : m Outcome := do
  match Arguments.ofList arguments with
  | .error .help => return { code := 0, output := helpText }
  | .error .version => return { code := 0, output := versionText }
  | .error _ => return { code := 2 }
  | .ok a =>
    match ← Plan.ofArguments e a with
    | .error f => return { code := 1, failure := some f }
    | .ok plan =>
      match ← plan.report e with
      | .error f => return { code := 1, failure := some f }
      | .ok output => return { code := 0, output }

end Command

end LiveMarkdown
