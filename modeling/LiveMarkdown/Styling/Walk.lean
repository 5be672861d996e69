import LiveMarkdown.Markdown.Node
import LiveMarkdown.Styling.Marker
import LiveMarkdown.Styling.Stroke
import LiveMarkdown.Text.Indexed
import LiveMarkdown.Url.Basic

/-!
# The strokes of a document

The nodes of a document are visited in the order of the text, each before the nodes
inside it.  A node whose span can be found in the buffer contributes the strokes of its
kind; every other node contributes none, but the nodes inside it are visited.  A node
that a window does not show is passed over together with the nodes inside it.
-/

namespace LiveMarkdown

/-- What a document is styled with: its text, the style, and where the text is in the
buffer. -/
structure Canvas where
  /-- The text of the document. -/
  text : IndexedText
  /-- The style. -/
  style : Style
  /-- The position of the text in the buffer. -/
  base : Nat
  /-- The number of code units of the buffer. -/
  length : Nat
  /-- The part of the buffer that is styled; all of it if there is none. -/
  window : Option Span

/-- Where a node is. -/
structure Extent where
  /-- The bytes of the text. -/
  bytes : Span
  /-- The code units of the buffer. -/
  units : Span
deriving DecidableEq, Repr

namespace Canvas

/-- Where a node is, if its span can be cut out of the text and lies in the buffer. -/
def extent? (c : Canvas) (n : Node) : Option Extent :=
  n.span.bind fun bytes =>
    (c.text.cut? bytes).bind fun _ =>
      if c.base ≤ c.length then
        (c.text.table.unitSpan? bytes (c.length - c.base)).map fun units =>
          ⟨bytes, units.shift c.base⟩
      else none

/-- Whether a node at an extent is outside the window. -/
def isHidden (c : Canvas) (e : Extent) : Bool :=
  c.window.any fun w => e.units.stop ≤ w.start || w.stop ≤ e.units.start

/-- The position in the buffer of a byte of the text. -/
def unitAt? (c : Canvas) (byte : Nat) : Option Nat :=
  (c.text.table.unitAt? byte).map (· + c.base)

/-- The characters of an extent. -/
def chars (c : Canvas) (e : Extent) : List Char :=
  (c.text.slice? e.bytes).getD []

/-- Shows a span as markup. -/
def markup (c : Canvas) (span : Span) : Stroke :=
  .set span (.foreground c.style.profile.markup)

/-- The first `n` and the last `n` code units of a span. -/
def ends (n : Nat) (span : Span) : List Span :=
  [⟨span.start, min (span.start + n) span.stop⟩, ⟨max (span.stop - n) span.start, span.stop⟩]

/-- The strokes of a heading.  The number signs and the space before it, if there are
any, are markup. -/
def heading (c : Canvas) (level : Nat) (e : Extent) : List Stroke :=
  let marked := (c.chars e).head? = some '#' ∧ level + 1 ≤ e.units.length
  [.set e.units (.font (c.style.headingFont level)),
    .set e.units (.foreground c.style.profile.heading),
    .layOut e.units (c.style.headingLayout level)] ++
  if marked then [c.markup ⟨e.units.start, e.units.start + (level + 1)⟩] else []

/-- The strokes of a paragraph inside `depth` lists and quotes. -/
def paragraph (c : Canvas) (depth : Nat) (e : Extent) : List Stroke :=
  if depth = 0 then [] else [.layOut e.units (c.style.nestedLayout depth)]

/-- The strokes of a quote, which is the innermost of `depth` lists and quotes. -/
def quote (c : Canvas) (depth : Nat) (e : Extent) : List Stroke :=
  [.set e.units (.foreground c.style.profile.quote),
    .layOut e.units (c.style.quoteLayout depth)] ++
  (quoteMarkers (c.chars e)).filterMap fun marker =>
    (c.unitAt? (e.bytes.start + marker.start)).bind fun start =>
      (c.unitAt? (e.bytes.start + marker.stop)).map fun stop => c.markup ⟨start, stop⟩

/-- The strokes of an item of the innermost of `depth` lists and quotes.  Its marker may
be indented. -/
def item (c : Canvas) (depth : Nat) (e : Extent) : List Stroke :=
  let chars := c.chars e
  let leading := (chars.takeWhile fun c => c == ' ' || c == '\t').length
  let marker := markerLength (chars.drop leading)
  [.layOut e.units (c.style.itemLayout depth)] ++
  if marker = 0 then []
  else
    match c.unitAt? (e.bytes.start + leading) with
    | none => []
    | some start => [c.markup ⟨start, min (start + marker) e.units.stop⟩]

/-- The strokes of emphasis between delimiters of `n` code units. -/
def emphasis (c : Canvas) (n : Nat) (font : FontTrait) (e : Extent) : List Stroke :=
  (if 2 * n < e.units.length then
    [.addTrait ⟨e.units.start + n, e.units.stop - n⟩ c.style.profile.body font]
  else []) ++
  (ends n e.units).map c.markup

/-- The strokes of a code span. -/
def code (c : Canvas) (e : Extent) : List Stroke :=
  .set e.units (.font c.style.profile.mono) ::
  (if 2 < e.units.length then
    [.set ⟨e.units.start + 1, e.units.stop - 1⟩ (.background c.style.profile.codeBackground)]
  else []) ++
  (ends 1 e.units).map c.markup

/-- The number of bytes before the first closing bracket. -/
def bracket? (n : Nat) : List Char → Option Nat
  | [] => none
  | c :: cs => if c = ']' then some n else bracket? (n + c.utf8Size) cs

/-- The strokes of a link.  Its label is what precedes the first closing bracket; without
one it has none. -/
def link (c : Canvas) (destination : String) (e : Extent) : List Stroke :=
  match bracket? 0 (c.chars e) with
  | none => []
  | some close =>
    match c.unitAt? (e.bytes.start + close) with
    | none => []
    | some stop =>
      let label : Span := ⟨e.units.start + 1, stop⟩
      (if 1 < close then
        [.set label (.foreground c.style.profile.link), .set label (.underline .single)] ++
        (match LinkTarget.ofText? destination with
          | some target => [.set label (.link target)]
          | none => [])
      else []) ++
      [c.markup ⟨e.units.start, e.units.start + 1⟩, c.markup ⟨stop, e.units.stop⟩]

/-- The strokes of a node itself, which is inside `depth` lists and quotes, counting the
node. -/
def own (c : Canvas) (depth : Nat) (kind : NodeKind) (e : Extent) : List Stroke :=
  match kind with
  | .heading level => c.heading level e
  | .paragraph => c.paragraph depth e
  | .blockQuote => c.quote depth e
  | .listItem => c.item depth e
  | .strong => c.emphasis 2 .bold e
  | .emphasis => c.emphasis 1 .italic e
  | .inlineCode => c.code e
  | .link destination => c.link destination e
  | _ => []

/-- The number of lists and quotes around the nodes inside a node of a kind, which itself
is inside `depth` of them. -/
def inner (kind : NodeKind) (depth : Nat) : Nat :=
  match kind with
  | .blockQuote | .unorderedList | .orderedList => depth + 1
  | _ => depth

mutual

/-- The strokes of a node and the nodes inside it, where the node is inside `depth` lists
and quotes.  Nothing is inside a code span. -/
def strokes (c : Canvas) (depth : Nat) (n : Node) : List Stroke :=
  match n with
  | ⟨kind, span, children⟩ =>
    let extent := c.extent? ⟨kind, span, []⟩
    if extent.any c.isHidden then []
    else
      let depth := inner kind depth
      (match extent with
        | some e => c.own depth kind e
        | none => []) ++
      if kind = .inlineCode then [] else c.strokesOfList depth children

/-- The strokes of some nodes and the nodes inside them. -/
def strokesOfList (c : Canvas) (depth : Nat) : List Node → List Stroke
  | [] => []
  | n :: ns => c.strokes depth n ++ c.strokesOfList depth ns

end

end Canvas

/-- Styles a document whose text is in a buffer from position `base` on. -/
def Buffer.walk (b : Buffer) (text : IndexedText) (style : Style) (base : Nat)
    (window : Option Span) (document : Node) : Buffer :=
  b.strokes window (Canvas.strokes ⟨text, style, base, b.length, window⟩ 0 document)

end LiveMarkdown
