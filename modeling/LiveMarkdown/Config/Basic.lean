import LiveMarkdown.Files.Basic
import LiveMarkdown.Lifecycle.Coordinator
import LiveMarkdown.Yaml.Written

/-!
# Configurations

A configuration chooses a profile and tunes the coordinator.  It is written in YAML, where
every field may be left out.
-/

namespace LiveMarkdown

/-- A configuration. -/
structure Config where
  /-- The identifier of the profile. -/
  profile : String := "default"
  /-- The tuning of the coordinator. -/
  settings : Settings := {}
deriving DecidableEq, Repr, Inhabited

namespace Config

open Yaml (optional)

/-- The settings that a node gives. -/
def settingsOf? (d : Yaml.Document) (n : Yaml.Node) : Option Settings := do
  let fields ← d.fieldsOf?
    ["chunk_threshold", "lines_per_chunk", "chunk_yield_ms", "debounce_ms"] n
  let number (name : String) (default : Nat) : Option Nat :=
    optional fields name default (d.naturalOf? UInt64.size)
  let standard : Settings := {}
  return {
    longText := ← number "chunk_threshold" standard.longText
    linesAtOnce := ← number "lines_per_chunk" standard.linesAtOnce
    linePause := ← number "chunk_yield_ms" standard.linePause
    debounce := ← number "debounce_ms" standard.debounce }

/-- The configuration that a document gives. -/
def ofDocument? (d : Yaml.Document) : Option Config := do
  let fields ← d.fieldsOf? ["style", "scheduling"] d.root
  let standard : Config := {}
  return {
    profile := ← optional fields "style" standard.profile d.text?
    settings := ← optional fields "scheduling" standard.settings (settingsOf? d) }

/-- The configuration that a text gives. -/
def ofText? (text : String) : Option Config :=
  (Yaml.Document.ofText? text).bind ofDocument?

/-- The text of a configuration. -/
def toText (c : Config) : String :=
  let line (name : String) (n : Nat) : String := "  " ++ name ++ ": " ++ toString n ++ "\n"
  "style: " ++ Yaml.writeText c.profile ++ "scheduling:\n" ++
    line "chunk_threshold" c.settings.longText ++
    line "lines_per_chunk" c.settings.linesAtOnce ++
    line "chunk_yield_ms" c.settings.linePause ++
    line "debounce_ms" c.settings.debounce

end Config

end LiveMarkdown
