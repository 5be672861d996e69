import LiveMarkdown.Style.Color
import LiveMarkdown.Style.Font

/-!
# Style profiles

A profile says which fonts, colors and distances a document is shown with.  Headings
whose level has no font of its own are shown in the font of the body.
-/

namespace LiveMarkdown

/-- A style profile. -/
structure Profile where
  /-- The name that is shown to the user. -/
  name : String
  /-- The fonts of headings by their level, in ascending order. -/
  headings : List (Nat × Font)
  /-- The font of the text. -/
  body : Font
  /-- The font of code. -/
  mono : Font
  /-- The color of the text. -/
  text : Color
  /-- The color of the characters that mark something up. -/
  markup : Color
  /-- The color of headings. -/
  heading : Color
  /-- The color of links. -/
  link : Color
  /-- The color behind code. -/
  codeBackground : Color
  /-- The color of quotes. -/
  quote : Color
  /-- The space after a paragraph. -/
  paragraphSpacing : Float32
  /-- The indent of each level of a list or quote. -/
  listIndent : Float32
deriving BEq, Inhabited

namespace Profile

/-- The profile that is used unless another one is chosen. -/
def standard : Profile where
  name := "Default"
  headings := [(1, ⟨.sansSerif, 24, .bold, false⟩), (2, ⟨.sansSerif, 20, .bold, false⟩),
    (3, ⟨.sansSerif, 17, .bold, false⟩)]
  body := ⟨.sansSerif, 14, .regular, false⟩
  mono := ⟨.monospace, 13, .regular, false⟩
  text := ⟨0x1D, 0x1D, 0x1F, 255⟩
  markup := ⟨0x3C, 0x3C, 0x43, 0x4C⟩
  heading := ⟨0x1D, 0x1D, 0x1F, 255⟩
  link := ⟨0x0A, 0x66, 0xD8, 255⟩
  codeBackground := ⟨0x3C, 0x3C, 0x43, 0x1A⟩
  quote := ⟨0x00, 0x7A, 0xFF, 255⟩
  paragraphSpacing := 12
  listIndent := 24

/-- A profile with smaller fonts and distances. -/
def compact : Profile where
  name := "Compact"
  headings := [(1, ⟨.sansSerif, 18, .bold, false⟩), (2, ⟨.sansSerif, 15, .bold, false⟩),
    (3, ⟨.sansSerif, 13, .bold, false⟩), (4, ⟨.sansSerif, 12, .bold, false⟩)]
  body := ⟨.sansSerif, 12, .regular, false⟩
  mono := ⟨.monospace, 11, .regular, false⟩
  text := ⟨0x24, 0x29, 0x2F, 255⟩
  markup := ⟨0x8C, 0x95, 0x9F, 255⟩
  heading := ⟨0x05, 0x50, 0xAE, 255⟩
  link := ⟨0x09, 0x69, 0xDA, 255⟩
  codeBackground := ⟨0xAF, 0xB8, 0xC1, 0x33⟩
  quote := ⟨0xD0, 0xD7, 0xDE, 255⟩
  paragraphSpacing := 6
  listIndent := 16

/-- The profiles that are always available, with their identifiers. -/
def builtins : List (String × Profile) :=
  [("default", standard), ("compact", compact)]

/-- The profile that is always available under an identifier. -/
def builtin? (id : String) : Option Profile :=
  builtins.lookup id

end Profile

end LiveMarkdown
