import LiveMarkdown.Buffer.Attributes
import LiveMarkdown.Style.Profile

/-!
# Styles

A style is a profile together with the line heights that follow from the metrics of its
fonts.  Lines have a fixed height, so that a change of attributes does not move them.
-/

namespace LiveMarkdown

/-- A profile with the line heights of its fonts. -/
structure Style where
  /-- The profile. -/
  profile : Profile
  /-- The height of a line of text. -/
  bodyHeight : Float32
  /-- The heights of the lines of headings by their level. -/
  headingHeights : List (Nat × Float32)
deriving BEq, Inhabited

namespace Style

/-- The style of a profile with the metrics of a source. -/
def ofProfile (profile : Profile) (metrics : MetricsSource) : Style :=
  ⟨profile, (metrics profile.body).lineHeight,
    profile.headings.map fun (level, font) => (level, (metrics font).lineHeight)⟩

/-- The style that is used unless another one is chosen. -/
def standard : Style :=
  ofProfile Profile.standard MetricsSource.estimated

/-- The font of headings of a level. -/
def headingFont (s : Style) (level : Nat) : Font :=
  (s.profile.headings.lookup level).getD s.profile.body

/-- The height of the lines of headings of a level. -/
def headingHeight (s : Style) (level : Nat) : Float32 :=
  (s.headingHeights.lookup level).getD s.bodyHeight

/-- The layout of a paragraph that is neither a heading nor in a list or quote. -/
def layout (s : Style) : Layout :=
  ⟨0, 0, s.bodyHeight, s.bodyHeight, s.profile.paragraphSpacing⟩

/-- The attributes of text that is not marked up. -/
def attributes (s : Style) : Attributes where
  font := some s.profile.body
  foreground := some s.profile.text
  layout := some s.layout

/-- The layout of a heading. -/
def headingLayout (s : Style) (level : Nat) : Layout :=
  s.layout.withLineHeight (s.headingHeight level)

/-- The indent of text inside `depth` lists and quotes. -/
def indent (s : Style) (depth : Nat) : Float32 :=
  s.profile.listIndent * depth.toFloat32

/-- The layout of a paragraph inside `depth` lists and quotes. -/
def nestedLayout (s : Style) (depth : Nat) : Layout :=
  s.layout.withIndents (s.indent depth) (s.indent depth - s.profile.listIndent)

/-- The layout of an item of the innermost of `depth` lists and quotes. -/
def itemLayout (s : Style) (depth : Nat) : Layout :=
  (s.nestedLayout depth).withSpacing (s.profile.paragraphSpacing / 3)

/-- The layout of the innermost of `depth` lists and quotes if it is a quote. -/
def quoteLayout (s : Style) (depth : Nat) : Layout :=
  (s.layout.withIndents (s.indent depth) 0).withSpacing (s.profile.paragraphSpacing / 2)

end Style

end LiveMarkdown
