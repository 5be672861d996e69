import LiveMarkdown.Markdown.Block
import LiveMarkdown.Markdown.Emphasis

/-!
# Inline structure

The tokens of a leaf are settled from left to right.  Code spans, addresses and raw HTML
come first: whatever they cover has no other meaning.  Brackets are kept on a stack; a
closing bracket makes a link or an image of the nearest opening bracket if a destination
in parentheses follows, or a label that the text defines, or if the text between the
brackets is such a label.  There are no links inside links.  Emphasis is paired at last,
separately inside every link and image.
-/

namespace LiveMarkdown.Markdown

/-- An opening bracket, and the parts before it, the last one first. -/
structure Bracket where
  /-- The bytes of the bracket. -/
  span : Span
  /-- Whether it would open an image. -/
  image : Bool
  /-- Whether it may still open a link. -/
  active : Bool
  /-- The parts between the bracket before it and this one, the last one first. -/
  before : List Inline

/-- The progress of settling tokens. -/
structure Settling where
  /-- The opening brackets that have not been used, the nearest first. -/
  brackets : List Bracket
  /-- The parts after the nearest of them, the last one first. -/
  parts : List Inline
  /-- The positions of closing brackets whose label has been found undefined. -/
  undefinedLabels : List Nat

namespace Settling

/-- Adds a part. -/
def add (st : Settling) (x : Inline) : Settling :=
  { st with parts := x :: st.parts }

/-- Removes the nearest bracket, which turns out to be plain text. -/
def dropBracket (st : Settling) : Settling :=
  match st.brackets with
  | [] => st
  | b :: bs => { st with brackets := bs, parts := st.parts ++ b.before }

/-- Makes a link or an image of the parts after the nearest bracket.  The brackets
before a link may no longer open one. -/
def closeBracket (st : Settling) (destination : String) (stop : Nat) : Settling :=
  match st.brackets with
  | [] => st
  | b :: bs =>
    let kind := if b.image then NodeKind.other else .link destination
    let made := Inline.part kind ⟨b.span.start, stop⟩ (pairEmphasis st.parts.reverse)
    let bs := if b.image then bs
      else bs.map fun b => if b.image then b else { b with active := false }
    { st with brackets := bs, parts := made :: b.before }

/-- The parts when no further token follows. -/
def finish (st : Settling) : List Inline :=
  (st.brackets.foldl (fun parts b => parts ++ b.before) st.parts).reverse

end Settling

/-- A leaf whose tokens are being settled. -/
structure Leafing where
  /-- The source, readable to the end of the leaf. -/
  source : Source
  /-- The tokens of the leaf. -/
  tokens : Array Token
  /-- The containers of the leaf, outermost first. -/
  containers : List Container
  /-- Whether the leaf is a cell of a table. -/
  inTable : Bool
  /-- The definitions of the text. -/
  definitions : Definitions

namespace Source

/-- The address between angle brackets that begins at position `i`, a scheme and what
follows it, and the position after the closing bracket. -/
def uri? (s : Source) (i : Nat) : Option (Nat × String) := do
  guard ((s.get? i).any Char.isAlpha)
  let colon := s.skipWhile (fun c => isAlphanum c || c == '.' || c == '-' || c == '+') i
  guard (s.is colon ':' && 2 ≤ colon - i && colon - i ≤ 32)
  let stop := s.skipWhile (fun c => c > ' ' && c != '<' && c != '>') (colon + 1)
  guard (s.is stop '>')
  return (stop + 1, s.slice i stop)

/-- The characters of the local part of a mail address. -/
private def isMailChar (c : Char) : Bool :=
  isAlphanum c || ".!#$%&'*+/=?^_\x60\x7b|\x7d~-".toList.contains c

/-- Passes over the labels of the domain of a mail address. -/
private def mailDomain? (s : Source) (i : Nat) : Option Nat :=
  if _h : i < s.limit then
    let j := s.skipWhile (fun c => isAlphanum c || c == '-') i
    if _h' : i < j then
      if j - i > 63 || s.is i '-' || s.is (j - 1) '-' then none
      else if s.is j '.' then mailDomain? s (j + 1)
      else some j
    else none
  else none
termination_by s.limit - i

/-- The mail address between angle brackets that begins at position `i`, and the
position after the closing bracket. -/
def mail? (s : Source) (i : Nat) : Option (Nat × String) := do
  let at_ := s.skipWhile isMailChar i
  guard (i < at_ && s.is at_ '@')
  let stop ← s.mailDomain? (at_ + 1)
  guard (s.is stop '>')
  return (stop + 1, s.slice i stop)

end Source

namespace Leafing

/-- The token with a given index, from which on the text has not been settled. -/
def token? (l : Leafing) (i : Nat) : Option Token :=
  l.tokens[i]?

/-- The number of consecutive tokens from index `i` on that end at position `pos` or
before. -/
def covered (l : Leafing) (i pos : Nat) : Nat :=
  if _h : i < l.tokens.size then
    if l.tokens[i].span.stop ≤ pos then covered l (i + 1) pos + 1 else 0
  else 0
termination_by l.tokens.size - i

/-- The number of consecutive tokens from index `i` on before the backticks that close
a code span of `n` backticks. -/
def closingTicks? (l : Leafing) (n i : Nat) : Option Nat :=
  if _h : i < l.tokens.size then
    let t := l.tokens[i]
    if t.kind matches .ticks _ && t.span.length == n then some 0
    else (closingTicks? l n (i + 1)).map (· + 1)
  else none
termination_by l.tokens.size - i

/-- The position after the marks of the containers in a new line. -/
def enterLine (l : Leafing) (i : Nat) : Nat :=
  (continueContainers l.source.whole l.containers (Cursor.ofLine i)).2.pos

/-- Passes over white space with one line ending at most. -/
private def skipSeparator (l : Leafing) (i : Nat) : Nat :=
  let s := l.source
  let i := s.skipLineSpace i
  match s.get? i with
  | some '\n' | some '\r' => s.skipLineSpace (l.enterLine ((s.lineEnd? i).getD i))
  | _ => i

/-- Passes over a title; in a new line it goes on with the first token there. -/
private def title? (l : Leafing) (next start : Nat) : Option Nat := do
  let c ← l.source.get? start
  let close ← Source.titleEnd? c
  go c close (start + 1)
where
  /-- Goes on from position `i`. -/
  go (opening close : Char) (i : Nat) : Option Nat :=
    let s := l.source
    if _h : i < l.source.limit then
      match s.get? i with
      | none => none
      | some c =>
        if c == close then some (i + 1)
        else if c == opening then none
        else
          let jump :=
            if c == '\n' || c == '\r' then
              match l.token? (next + l.covered next (i + 1)) with
              | some t => t.span.start - (i + 1)
              | none => 0
            else if c == '&' then
              match s.entity? i with
              | some (j, _) => j - (i + 1)
              | none => 0
            else if c == '\\' && (s.get? (i + 1)).any isAsciiPunctuation then 1
            else 0
          go opening close (i + 1 + jump)
    else none
  termination_by l.source.limit - i

/-- The destination in parentheses at position `i`, after the closing bracket that
stands before token `next`, and the position after the parentheses. -/
private def inlineDestination? (l : Leafing) (next i : Nat) : Option (Nat × String) := do
  let s := l.source
  guard (s.is i '(')
  let i := l.skipSeparator (i + 1)
  let (i, destination) ← s.destination? l.inTable 32 i
  let i := l.skipSeparator i
  if s.is i ')' then return (i + 1, destination)
  else
    let i ← l.title? next i
    let i := l.skipSeparator i
    guard (s.is i ')')
    return (i + 1, destination)

/-- The label whose opening bracket stands at position `i`, and the position after its
closing bracket. -/
private def label? (l : Leafing) (s : Source) (i : Nat) : Option (Nat × String) :=
  if s.is i '[' then s.label? (fun j => some (l.enterLine j)) (i + 1) else none

/-- Settles a closing bracket, the token with index `i`: the state after it and the
number of further tokens that it covers. -/
def settleBracket (l : Leafing) (st : Settling) (i : Nat) (close : Span) :
    Settling × Nat :=
  match st.brackets with
  | [] => (st, 0)
  | b :: _ =>
    if !b.active then (st.dropBracket, 0)
    else
      match l.inlineDestination? (i + 1) close.stop with
      | some (stop, destination) =>
        (st.closeBracket destination stop, l.covered (i + 1) stop)
      | none =>
        let s := l.source
        let next? := (l.token? (i + 1)).map (·.span.start)
        let collapsed := next?.any fun j => s.startsWith j ['[', ']']
        match if collapsed then none else next?.bind (l.label? s) with
        | some (stop, label) =>
          let skipped := l.covered (i + 1) (stop - 1)
          match l.definitions.destination? label with
          | some destination => (st.closeBracket destination stop, skipped + 1)
          | none =>
            let st := st.dropBracket
            match l.token? (i + 1 + skipped) with
            | some t => ({ st with undefinedLabels := t.span.start :: st.undefinedLabels }, 0)
            | none => (st, 0)
        | none =>
          if st.undefinedLabels.contains close.start then (st.dropBracket, 0)
          else
            let own := (l.label? (s.whole.upTo close.stop) (b.span.stop - 1)).filter
              (·.1 == close.stop)
            match own.bind fun (_, label) => l.definitions.destination? label with
            | some destination =>
              (st.closeBracket destination close.stop, if collapsed then 2 else 0)
            | none => (st.dropBracket, 0)

/-- Settles the token with index `i`: the state after it and the number of further
tokens that it covers. -/
def settleToken (l : Leafing) (st : Settling) (i : Nat) (t : Token) : Settling × Nat :=
  match t.kind with
  | .text | .entity | .lineBreak => (st, 0)
  | .run mark opens closes =>
    (st.add (.run ⟨mark, t.span.start, t.span.length, t.span.length, opens, closes⟩), 0)
  | .ticks escaped =>
    let start := if escaped then t.span.start + 1 else t.span.start
    let n := t.span.stop - start
    match if n == 0 then none else l.closingTicks? n (i + 1) with
    | some k =>
      let stop := (l.token? (i + 1 + k)).elim start (·.span.stop)
      (st.add (.part .inlineCode ⟨start, stop⟩ []), k + 1)
    | none => (st, 0)
  | .angle =>
    match l.token? (i + 1) with
    | none => (st, 0)
    | some next =>
      let s := l.source
      let start := next.span.start
      match (s.uri? start).or (s.mail? start) with
      | some (stop, address) =>
        (st.add (.part (.link address) ⟨t.span.start, stop⟩ []), l.covered (i + 1) stop)
      | none =>
        match s.inlineHtml? l.enterLine start with
        | some stop => (st, l.covered (i + 1) stop)
        | none => (st, 0)
  | .openBracket => ({ st with brackets := ⟨t.span, false, true, st.parts⟩ :: st.brackets,
                               parts := [] }, 0)
  | .imageBracket => ({ st with brackets := ⟨t.span, true, true, st.parts⟩ :: st.brackets,
                                parts := [] }, 0)
  | .closeBracket => l.settleBracket st i t.span

/-- Settles the tokens from index `i` on. -/
def settle (l : Leafing) (st : Settling) (i : Nat) : List Inline :=
  if _h : i < l.tokens.size then
    let (st, skip) := l.settleToken st i l.tokens[i]
    settle l st (i + 1 + skip)
  else st.finish
termination_by l.tokens.size - i

/-- The parts of a leaf, with emphasis paired. -/
def parts (l : Leafing) : List Inline :=
  pairEmphasis (l.settle ⟨[], [], []⟩ 0)

end Leafing

mutual

/-- The events of a part of a text. -/
def Inline.events : Inline → List Event
  | .run _ => []
  | .part .inlineCode span _ => [.leaf .inlineCode span]
  | .part kind span inner => .start kind span :: (Inline.eventsOfList inner ++ [.stop])

/-- The events of the parts of a text. -/
def Inline.eventsOfList : List Inline → List Event
  | [] => []
  | x :: xs => x.events ++ Inline.eventsOfList xs

end

/-- The events of the text of a leaf. -/
def InlineText.events (s : Source) (ds : Definitions) (t : InlineText) : List Event :=
  Inline.eventsOfList
    (Leafing.parts ⟨s.upTo t.span.stop, t.tokens, t.containers, t.inTable, ds⟩)

/-- The events of a node with a given content. -/
def nodeEvents (kind : NodeKind) (span : Span) (inner : List Event) : List Event :=
  .start kind span :: (inner ++ [.stop])

mutual

/-- The events of a block.  The paragraphs of a tight list are no nodes. -/
def Block.events (s : Source) (ds : Definitions) (tight : Bool) : Block → List Event
  | .quote span blocks => nodeEvents .blockQuote span (Block.eventsOfList s ds false blocks)
  | .list span ordered tight items =>
    nodeEvents (if ordered then .orderedList else .unorderedList) span
      (Block.eventsOfList s ds tight items)
  | .item span blocks => nodeEvents .listItem span (Block.eventsOfList s ds tight blocks)
  | .paragraph text =>
    if tight then text.events s ds else nodeEvents .paragraph text.span (text.events s ds)
  | .heading level text => nodeEvents (.heading level) text.span (text.events s ds)
  | .table span rows =>
    nodeEvents .other span <| rows.flatMap fun row =>
      nodeEvents .other row.span <| row.cells.flatMap fun cell =>
        nodeEvents .other cell.span (cell.events s ds)
  | .verbatim span => nodeEvents .other span []

/-- The events of a list of blocks. -/
def Block.eventsOfList (s : Source) (ds : Definitions) (tight : Bool) : List Block → List Event
  | [] => []
  | b :: bs => b.events s ds tight ++ Block.eventsOfList s ds tight bs

end

/-- The events that describe a text. -/
def events (text : String) : List Event :=
  let s := Source.ofString text
  let (blocks, definitions) := blocksOf s
  Block.eventsOfList s definitions false blocks

end LiveMarkdown.Markdown

namespace LiveMarkdown

/-- The document that a text describes. -/
def Node.ofMarkdown (text : String) : Node :=
  Node.ofEvents text.utf8ByteSize (Markdown.events text)

end LiveMarkdown
