import LiveMarkdown.Files.Basic
import LiveMarkdown.Style.Profile
import LiveMarkdown.Yaml.Value

/-!
# Profiles as text

A profile is written in YAML.  The colors are read after everything else, so that a
document that is not a profile is told from one with a wrong color.
-/

namespace LiveMarkdown.Profile

open Yaml (required optional)

/-- A profile whose colors have not been read. -/
structure Uncolored where
  /-- The profile, with no colors. -/
  profile : Profile
  /-- The texts of the colors by their fields. -/
  colors : List (String × String)

/-- The fields that give colors, in the order in which they are read. -/
def colorFields : List String :=
  ["text", "syntax", "heading", "link", "code_background", "blockquote_bar"]

section

variable (d : Yaml.Document)

/-- The font that a node describes. -/
def fontOf? (n : Yaml.Node) : Option Font := do
  let fields ← d.fieldsOf? ["family", "size", "weight", "italic"] n
  return {
    family := ← required fields "family" fun n => (d.nameOf? n).bind FontFamily.ofName?
    size := ← required fields "size" d.realOf?
    weight := ← optional fields "weight" .regular fun n => (d.nameOf? n).bind FontWeight.ofName?
    italic := ← optional fields "italic" false d.truthOf? }

/-- Sets the font of a level in a list in ascending order. -/
def insertLevel (level : Nat) (font : Font) : List (Nat × Font) → List (Nat × Font)
  | [] => [(level, font)]
  | (other, f) :: rest =>
    if level < other then (level, font) :: (other, f) :: rest
    else if level = other then (level, font) :: rest
    else (other, f) :: insertLevel level font rest

/-- The fonts of headings that a node describes.  The last font of a level counts. -/
def headingsOf? (n : Yaml.Node) : Option (List (Nat × Font)) := do
  let fonts ← (← d.entriesOf? n).mapM fun (key, value) => do
    return (← d.naturalOf? UInt8.size key, ← fontOf? d value)
  return fonts.foldl (fun headings (level, font) => insertLevel level font headings) []

/-- The profile that a document describes, apart from its colors. -/
def uncolored? : Option Uncolored := do
  let fields ← d.fieldsOf? ["version", "name", "fonts", "colors", "spacing"] d.root
  let _ ← required fields "version" (d.naturalOf? UInt32.size)
  let fonts ← required fields "fonts" (d.fieldsOf? ["body", "mono", "headings"])
  let colors ← required fields "colors" (d.fieldsOf? colorFields)
  let spacing ← optional fields "spacing" [] (d.fieldsOf? ["paragraph", "list_indent"])
  let none : Color := ⟨0, 0, 0, 255⟩
  return {
    profile := {
      name := ← required fields "name" d.text?
      headings := ← optional fonts "headings" [] (headingsOf? d)
      body := ← required fonts "body" (fontOf? d)
      mono := ← required fonts "mono" (fontOf? d)
      text := none
      markup := none
      heading := none
      link := none
      codeBackground := none
      quote := none
      paragraphSpacing := ← optional spacing "paragraph" 12 d.realOf?
      listIndent := ← optional spacing "list_indent" 24 d.realOf? }
    colors := ← colorFields.mapM fun field => do return (field, ← required colors field d.text?) }

end

namespace Uncolored

/-- The color of a field. -/
def color (u : Uncolored) (field : String) : Result Color :=
  match Color.ofText ((u.colors.lookup field).getD "") with
  | .ok c => .ok c
  | .error e => Result.fail ("colors." ++ field ++ ": " ++ e.message)

/-- The profile with its colors. -/
def colored (u : Uncolored) : Result Profile := do
  return { u.profile with
    text := ← u.color "text"
    markup := ← u.color "syntax"
    heading := ← u.color "heading"
    link := ← u.color "link"
    codeBackground := ← u.color "code_background"
    quote := ← u.color "blockquote_bar" }

end Uncolored

/-- The profile that a text describes. -/
def ofText (text : String) : Result Profile := do
  let document := (Yaml.Document.ofText? text).bind uncolored?
  let u ← (Result.ofDocument document).attempt "Failed to parse style profile YAML"
  u.colored

end LiveMarkdown.Profile
