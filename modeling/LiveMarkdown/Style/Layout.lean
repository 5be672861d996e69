/-!
# Paragraph layout

The layout of a paragraph: its indents, the least and the greatest height of its
lines, and the space after it, all in points.
-/

namespace LiveMarkdown

/-- The layout of a paragraph.  Two layouts are equal when they are so as numbers. -/
structure Layout where
  /-- The indent of every line but the first. -/
  headIndent : Float32
  /-- The indent of the first line. -/
  firstLineIndent : Float32
  /-- The least height of a line. -/
  minLineHeight : Float32
  /-- The greatest height of a line. -/
  maxLineHeight : Float32
  /-- The space after the paragraph. -/
  spacing : Float32
deriving BEq, Inhabited

namespace Layout

/-- The layout with other indents. -/
def withIndents (l : Layout) (head first : Float32) : Layout :=
  { l with headIndent := head, firstLineIndent := first }

/-- The layout with lines of a fixed height. -/
def withLineHeight (l : Layout) (height : Float32) : Layout :=
  { l with minLineHeight := height, maxLineHeight := height }

/-- The layout with another space after the paragraph. -/
def withSpacing (l : Layout) (spacing : Float32) : Layout :=
  { l with spacing := spacing }

end Layout

end LiveMarkdown
