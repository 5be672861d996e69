import LiveMarkdown.Buffer.Paragraph
import LiveMarkdown.Markdown.Inline
import LiveMarkdown.Styling.Walk

/-!
# Passes

A pass styles all of a buffer, a part of it, or a few of its lines.  The pass over a
part takes the text of the part for a document of its own.  The pass over a few lines
uses a snapshot of the whole text, which must still be the text of the buffer.
-/

namespace LiveMarkdown

/-- A text together with its document. -/
structure ParsedText where
  /-- The text. -/
  text : IndexedText
  /-- The document. -/
  document : Node

/-- Reads a document. -/
def ParsedText.ofText (cs : List Char) : ParsedText :=
  ⟨IndexedText.ofText cs, Node.ofMarkdown (String.ofList cs)⟩

/-- A text that was read at some revision of a buffer. -/
structure Snapshot where
  /-- The text and its document. -/
  parsed : ParsedText
  /-- The revision. -/
  revision : UInt64

namespace Snapshot

/-- A snapshot of a text. -/
def ofText (cs : List Char) (revision : UInt64) : Snapshot :=
  ⟨ParsedText.ofText cs, revision⟩

/-- A snapshot of the text of a buffer. -/
def capture (b : Buffer) : Snapshot :=
  ofText b.chars b.revision

/-- The number of lines. -/
def lineCount (s : Snapshot) : Nat :=
  s.parsed.text.table.lineCount

/-- Whether a snapshot is of the current text of a buffer, as far as the revision and the
length tell. -/
def isOf (s : Snapshot) (b : Buffer) : Bool :=
  s.revision == b.revision && s.parsed.text.table.length == b.length

end Snapshot

namespace Style

/-- A styled buffer with a given text. -/
def render (style : Style) (cs : List Char) : Buffer :=
  let parsed := ParsedText.ofText cs
  ((Buffer.ofText cs style.attributes).walk parsed.text style 0 none parsed.document).takeEdits.2

/-- Shows all of a buffer as text that is not marked up. -/
def reset (style : Style) (b : Buffer) : Buffer :=
  if b.length = 0 then b
  else (b.beginBatch.setAttributes ⟨0, b.length⟩ style.attributes).endBatch

/-- Styles all of a buffer. -/
def applyAll (style : Style) (b : Buffer) : Buffer :=
  if b.length = 0 then b
  else
    let parsed := ParsedText.ofText b.chars
    ((b.beginBatch.setAttributes ⟨0, b.length⟩ style.attributes).walk parsed.text style 0 none
      parsed.document).endBatch

/-- Styles a part of a buffer, unless it is empty or out of bounds. -/
def applyPart? (style : Style) (b : Buffer) (span : Span) : Option Buffer :=
  if span.isEmpty then none
  else
    match b.textIn? span with
    | none => none
    | some cs =>
      let parsed := ParsedText.ofText cs
      some ((b.beginBatch.setAttributes span style.attributes).walk parsed.text style span.start
        none parsed.document).endBatch

/-- Styles the lines of a snapshot from `first` up to `last`, unless there are none or
the snapshot is not of the text of the buffer.  The result comes with the code units of
the lines. -/
def applyLines? (style : Style) (b : Buffer) (s : Snapshot) (first last : Nat) :
    Option (Span × Buffer) :=
  if s.isOf b ∧ first < last then
    match s.parsed.text.table.lineWindow? first last with
    | none => none
    | some window =>
      if window.isEmpty then none
      else
        some (window, (b.beginBatch.walk s.parsed.text style 0 (some window)
          s.parsed.document).endBatch)
  else none

end Style

end LiveMarkdown
