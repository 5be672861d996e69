import LiveMarkdown.Buffer.Runs
import LiveMarkdown.Lifecycle.Coordinator
import LiveMarkdown.Number.Binary32
import LiveMarkdown.Report.Json
import LiveMarkdown.Text.Quoted

/-!
# Reports

A report lists the runs of a buffer with their text, and what the coordinator has done.
It has a plain form, with one line for each run and one line at the end, and a form in
JSON.  A character whose code units are in two runs belongs to the second one.
-/

namespace LiveMarkdown

/-- A report. -/
structure Report where
  /-- What the coordinator has done. -/
  stats : Stats
  /-- The runs, with their text. -/
  runs : List (Run × List Char)

namespace Report

/-- Gives each of some runs its text.  The characters before code unit `offset` have been
given to other runs, and `rest` are those after them. -/
def cutRuns (offset : Nat) (rest : List Char) : List Run → List (Run × List Char)
  | [] => []
  | run :: runs =>
    let p := Place.ofUnits (run.span.stop - offset) rest
    (run, p.before.reverse) :: cutRuns (offset + p.offset) p.after runs

/-- The report on a buffer. -/
def ofBuffer (b : Buffer) (stats : Stats) : Report :=
  ⟨stats, cutRuns 0 b.chars b.runs⟩

/-! ## Plain reports -/

/-- Adds spaces before a text up to a width. -/
def padLeft (width : Nat) (s : String) : String :=
  String.ofList (List.replicate (width - s.length) ' ') ++ s

/-- Adds spaces after a text up to a width. -/
def padRight (width : Nat) (s : String) : String :=
  s ++ String.ofList (List.replicate (width - s.length) ' ')

/-- The short name of a family. -/
def familyWord : FontFamily → String
  | .sansSerif => "sans"
  | .serif => "serif"
  | .monospace => "mono"

/-- A font in short. -/
def fontWords (f : Font) : String :=
  familyWord f.family ++ plainText f.size ++ (if f.isBold then " bold" else "") ++
    (if f.italic then " italic" else "")

/-- Attributes in short. -/
def words (a : Attributes) : List String :=
  (a.font.map fontWords).toList ++ (a.foreground.map Color.toText).toList ++
    (a.background.map fun c => "bg:" ++ c.toText).toList ++
    ((a.layout.filter (0 < ·.headIndent)).map fun l => "indent:" ++ plainText l.headIndent).toList ++
    (a.underline.map fun _ => "underline").toList ++ (a.link.map fun _ => "link").toList

/-- The line of a run. -/
def line (run : Run) (text : List Char) : String :=
  padLeft 6 (toString run.span.start) ++ ".." ++ padRight 6 (toString run.span.stop) ++ " " ++
    padRight 40 (" ".intercalate (words run.attributes)) ++ " " ++ quoted text ++ "\n"

/-- The last line. -/
def lastLine (r : Report) : String :=
  toString r.runs.length ++ " runs, " ++ toString r.stats.fullPasses ++ " full passes, " ++
    toString r.stats.linePasses ++ " chunks\n"

/-- The plain form of a report. -/
def plain (r : Report) : String :=
  String.join (r.runs.map fun (run, text) => line run text) ++ r.lastLine

/-! ## Reports in JSON -/

/-- A number with at least one place, if it is finite. -/
def realValue (x : Float32) : JsonValue :=
  match scientificText? x with
  | some text => .number text
  | none => .null

/-- A font. -/
def fontValue (f : Font) : JsonValue :=
  .object [("family", .text f.family.name), ("size", realValue f.size),
    ("weight", .text f.weight.name), ("italic", .bool f.italic)]

/-- A layout. -/
def layoutValue (l : Layout) : JsonValue :=
  .object [("head_indent", realValue l.headIndent),
    ("first_line_head_indent", realValue l.firstLineIndent),
    ("min_line_height", realValue l.minLineHeight),
    ("max_line_height", realValue l.maxLineHeight), ("paragraph_spacing", realValue l.spacing)]

/-- Attributes, of which those that are unset are left out. -/
def attributesValue (a : Attributes) : JsonValue :=
  .object ((a.font.map fun f => ("font", fontValue f)).toList ++
    (a.foreground.map fun c => ("foreground", .text c.toText)).toList ++
    (a.background.map fun c => ("background", .text c.toText)).toList ++
    (a.layout.map fun l => ("paragraph", layoutValue l)).toList ++
    (a.underline.map fun _ => ("underline", .text "single")).toList ++
    (a.link.map fun t => ("link", .text t.url)).toList)

/-- What the coordinator has done. -/
def statsValue (s : Stats) : JsonValue :=
  .object [("full_passes", .nat s.fullPasses), ("fragment_passes", .nat s.partialPasses),
    ("chunks_applied", .nat s.linePasses), ("stale_discards", .nat s.staleLoads),
    ("ignored_notifications", .nat s.ignoredEdits)]

/-- A run with its text. -/
def runValue (run : Run) (text : List Char) : JsonValue :=
  .object [("start", .nat run.span.start), ("end", .nat run.span.stop),
    ("text", .text (String.ofList text)), ("attributes", attributesValue run.attributes)]

/-- The form of a report in JSON. -/
def json (r : Report) : String :=
  (JsonValue.object [("stats", statsValue r.stats),
    ("spans", .list (r.runs.map fun (run, text) => runValue run text))]).render 0

end Report

end LiveMarkdown
