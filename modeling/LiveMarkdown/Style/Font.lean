/-!
# Fonts

A font is described by what is asked for: a family, a point size, a weight and
whether it is slanted.  The vertical metrics of a font come from a source of metrics,
of which the simplest estimates them from the point size.
-/

namespace LiveMarkdown

/-- A generic family of fonts. -/
inductive FontFamily where
  /-- Without serifs. -/
  | sansSerif
  /-- With serifs. -/
  | serif
  /-- All characters have the same width. -/
  | monospace
deriving DecidableEq, Repr, Inhabited

namespace FontFamily

/-- The name of a family. -/
def name : FontFamily → String
  | .sansSerif => "sans-serif"
  | .serif => "serif"
  | .monospace => "monospace"

/-- The family with a name. -/
def ofName? (name : String) : Option FontFamily :=
  [sansSerif, serif, monospace].find? (·.name == name)

end FontFamily

/-- The weight of a font. -/
inductive FontWeight where
  /-- The usual weight. -/
  | regular
  /-- Heavier than usual. -/
  | bold
deriving DecidableEq, Repr, Inhabited

namespace FontWeight

/-- The name of a weight. -/
def name : FontWeight → String
  | .regular => "regular"
  | .bold => "bold"

/-- The weight with a name. -/
def ofName? (name : String) : Option FontWeight :=
  [regular, bold].find? (·.name == name)

end FontWeight

/-- A font, described by what is asked for.  Two fonts are equal when their sizes are
equal as numbers. -/
structure Font where
  /-- The family. -/
  family : FontFamily
  /-- The size in points. -/
  size : Float32
  /-- The weight. -/
  weight : FontWeight := .regular
  /-- Whether it is slanted. -/
  italic : Bool := false
deriving BEq, Inhabited

/-- A property that can be added to a font. -/
inductive FontTrait where
  /-- Heavy. -/
  | bold
  /-- Slanted. -/
  | italic
deriving DecidableEq, Repr

namespace Font

/-- Whether a font is heavy. -/
def isBold (f : Font) : Bool :=
  f.weight == .bold

/-- The font with a trait added. -/
def adding (f : Font) : FontTrait → Font
  | .bold => { f with weight := .bold }
  | .italic => { f with italic := true }

end Font

/-- The vertical metrics of a font, in points. -/
structure FontMetrics where
  /-- How far the font reaches above the base line. -/
  ascender : Float32
  /-- Where the font ends below the base line, as a negative number. -/
  descender : Float32
  /-- The gap between two lines. -/
  leading : Float32
deriving BEq, Inhabited

/-- The height of a line. -/
def FontMetrics.lineHeight (m : FontMetrics) : Float32 :=
  m.ascender - m.descender + m.leading

/-- A source of metrics answers for every font. -/
abbrev MetricsSource :=
  Font → FontMetrics

namespace MetricsSource

/-- An estimate in proportion to the size. -/
def estimated : MetricsSource := fun f =>
  let (ascent, descent) := if f.family = .monospace then (0.96, 0.24) else (0.95, 0.25)
  ⟨f.size * ascent, -f.size * descent, f.size * 0.0⟩

/-- The same metrics for every font. -/
def fixed (m : FontMetrics) : MetricsSource :=
  fun _ => m

end MetricsSource

end LiveMarkdown
