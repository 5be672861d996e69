import LiveMarkdown.Markdown.Reference
import LiveMarkdown.Markdown.Token

/-!
# Block structure

A text is read line by line.  Block quotes and list items, the containers, mark each
of their lines; a line closes the containers whose marks it lacks, opens those whose
marks follow, and the rest of it belongs to a leaf: a paragraph, a heading, a table,
code or raw HTML.  A paragraph goes on in a line that lacks marks, unless another block
begins there.

A list is loose when a blank line separates two of its items or two blocks of an item;
otherwise it is tight, and the paragraphs of its items are not paragraphs of the
document.

The result is a forest of blocks with the bytes that each covers, where the text of
leaves is cut into tokens, and the definitions of labels found on the way.
-/

namespace LiveMarkdown.Markdown

/-- The text of a leaf, cut into tokens. -/
structure InlineText where
  /-- The bytes of the leaf. -/
  span : Span
  /-- The tokens of its lines. -/
  tokens : Array Token
  /-- The containers of the leaf, outermost first. -/
  containers : List Container
  /-- Whether the leaf is a cell of a table. -/
  inTable : Bool

/-- A row of a table. -/
structure TableRow where
  /-- The bytes of the row. -/
  span : Span
  /-- Its cells. -/
  cells : List InlineText

/-- A block of a document. -/
inductive Block where
  /-- A block quote. -/
  | quote (span : Span) (blocks : List Block)
  /-- A list. -/
  | list (span : Span) (ordered tight : Bool) (items : List Block)
  /-- An item of a list. -/
  | item (span : Span) (blocks : List Block)
  /-- A paragraph. -/
  | paragraph (text : InlineText)
  /-- A heading. -/
  | heading (level : Nat) (text : InlineText)
  /-- A table. -/
  | table (span : Span) (rows : List TableRow)
  /-- Code or raw HTML. -/
  | verbatim (span : Span)

/-- The kind of an open container or list. -/
inductive FrameKind where
  /-- A block quote. -/
  | quote
  /-- A list with a given delimiter. -/
  | list (delimiter : Char) (tight : Bool)
  /-- A list item with the indentation of its content. -/
  | item (indent : Nat)

/-- An open container or list. -/
structure Frame where
  /-- Its kind. -/
  kind : FrameKind
  /-- The position where it begins. -/
  start : Nat
  /-- The blocks in it, the last one first. -/
  blocks : List Block

/-- The container of a frame, unless it is a list. -/
def Frame.container? (f : Frame) : Option Container :=
  match f.kind with
  | .quote => some .quote
  | .item n => some (.item n)
  | .list .. => none

/-- The state of reading between two lines. -/
structure BlockState where
  /-- The open containers and lists, innermost first. -/
  frames : List Frame := []
  /-- The blocks outside of all containers, the last one first. -/
  blocks : List Block := []
  /-- The position after the line of the item just opened, if that line is empty. -/
  emptyItem : Option Nat := none
  /-- Whether the last line was blank. -/
  afterBlank : Bool := false
  /-- The definitions found. -/
  definitions : Definitions := ∅

namespace BlockState

/-- The open containers, outermost first. -/
def containers (st : BlockState) : List Container :=
  (st.frames.filterMap Frame.container?).reverse

/-- Adds a block to the innermost frame. -/
def add (st : BlockState) (b : Block) : BlockState :=
  match st.frames with
  | [] => { st with blocks := b :: st.blocks }
  | f :: fs => { st with frames := { f with blocks := b :: f.blocks } :: fs }

/-- Opens a container or list at a position. -/
def openFrame (st : BlockState) (kind : FrameKind) (start : Nat) : BlockState :=
  { st with frames := ⟨kind, start, []⟩ :: st.frames }

/-- Closes the innermost frame, which ends at position `stop`. -/
def closeFrame (st : BlockState) (stop : Nat) : BlockState :=
  match st.frames with
  | [] => st
  | f :: fs =>
    let st := { st with frames := fs }
    let span : Span := ⟨f.start, stop⟩
    let blocks := f.blocks.reverse
    match f.kind with
    | .quote => st.add (.quote span blocks)
    | .item _ => st.add (.item span blocks)
    | .list delimiter tight =>
      let st := if tight then { st with emptyItem := none } else st
      st.add (.list span (!isBullet delimiter) tight blocks)

/-- Closes the `n` innermost frames. -/
def closeFrames (stop : Nat) : Nat → BlockState → BlockState
  | 0, st => st
  | n + 1, st => closeFrames stop n (st.closeFrame stop)

/-- Closes innermost frames until `n` containers are left. -/
def closeContainers (st : BlockState) (n stop : Nat) : BlockState :=
  let extra := st.containers.length - n
  st.closeFrames stop (count extra st.frames)
where
  /-- The number of innermost frames that hold the given number of containers. -/
  count : Nat → List Frame → Nat
    | 0, _ => 0
    | _, [] => 0
    | k + 1, f :: fs =>
      if f.container?.isSome then count k fs + 1 else count (k + 1) fs + 1

/-- Makes a list loose. -/
def loosen (f : Frame) : Frame :=
  match f.kind with
  | .list delimiter _ => { f with kind := .list delimiter false }
  | _ => f

/-- An item that begins with an empty line and a blank one has no content. -/
def finishEmptyItem (st : BlockState) : BlockState :=
  let st := match st.emptyItem, st.afterBlank, st.frames with
    | some stop, true, f :: _ => if f.kind matches .item _ then st.closeFrame stop else st
    | _, _, _ => st
  { st with emptyItem := none }

/-- A block other than a list item comes next: closes the innermost frame if it is a
list, and notes a blank line inside an item. -/
def finishList (st : BlockState) (stop : Nat) : BlockState :=
  let st := st.finishEmptyItem
  let st := match st.frames with
    | f :: _ => if f.kind matches .list .. then st.closeFrame stop else st
    | [] => st
  if st.afterBlank then
    let frames := match st.frames with
      | f :: g :: fs => f :: loosen g :: fs
      | fs => fs
    { st with frames, afterBlank := false }
  else st

/-- A list item comes next: goes on with the innermost list if the delimiter fits, and
opens a new one otherwise. -/
def continueList (st : BlockState) (start : Nat) (delimiter : Char) : BlockState :=
  let st := st.finishEmptyItem
  let fits := match st.frames with
    | ⟨.list d _, _, _⟩ :: _ => d == delimiter
    | _ => false
  if fits then
    if st.afterBlank then
      { st with
        frames := match st.frames with
          | f :: fs => loosen f :: fs
          | [] => []
        afterBlank := false }
    else st
  else
    let st := if st.frames.isEmpty then st else st.finishList start
    { st.openFrame (.list delimiter true) start with afterBlank := false }

/-- A line is blank. -/
def blankLine (st : BlockState) : BlockState :=
  match st.frames with
  | ⟨.quote, _, _⟩ :: _ => st
  | ⟨.item indent, start, blocks⟩ :: fs =>
    let indent := if st.emptyItem.isSome then 0 else indent
    { st with frames := ⟨.item indent, start, blocks⟩ :: fs, afterBlank := true }
  | _ => { st with afterBlank := true }

end BlockState

/-- Whether the line at position `i` is the head of a table that interrupts a
paragraph. -/
def tableInterrupts (s : Source) (containers : List Container) (i : Nat) : Bool :=
  s.is i '|' &&
    let (bars, lastBar, stop) := scan i false 0 i
    stop < s.limit &&
      let (inContainer, c) := enterLine s containers ((s.lineEnd? stop).getD stop)
      inContainer &&
        match tableRule? s c.pos with
        | some (columns, _) => columns == headColumns s bars i lastBar
        | none => false
where
  /-- The number of vertical bars in a line, the position of the last one, and the
  position of the line ending. -/
  scan (i : Nat) (escaped : Bool) (bars lastBar : Nat) : Nat × Nat × Nat :=
    if _h : i < s.limit then
      match s.get? i with
      | some '\\' => scan (i + 1) true bars lastBar
      | some '\n' | some '\r' | none => (bars, lastBar, i)
      | some '|' =>
        if escaped then scan (i + 1) false bars lastBar
        else scan (i + 1) false (bars + 1) i
      | some _ => scan (i + 1) false bars lastBar
    else (bars, lastBar, i)
  termination_by s.limit - i

/-- Whether a paragraph inside the containers is interrupted at position `i`, where the
content of a line begins. -/
def interrupted (s : Source) (containers : List Container) (inContainer : Bool) (i : Nat) :
    Bool :=
  s.interruptsParagraph (!inContainer) i || tableInterrupts s containers i

/-- Passes over the marks of the containers in a line that goes on with a definition,
unless another block begins there. -/
def definitionLine? (s : Source) (containers : List Container) (i : Nat) : Option Nat :=
  let (inContainer, c) := enterLine s containers i
  let (four, c) := c.columns s 4
  if four then some c.pos
  else if interrupted s containers inContainer c.pos then none
  else if inContainer && (s.underline? c.pos).isSome then none
  else some c.pos

/-- A leaf and the position after it. -/
structure Leaf where
  /-- The leaf. -/
  block : Block
  /-- The position after it. -/
  next : Nat

/-- Code whose lines are indented by four columns, from the content of its first line
on.  Blank lines at its end do not belong to it.  The last component tells whether the
last line is blank. -/
def indentedCode (s : Source) (containers : List Container) (start : Nat) : Leaf × Bool :=
  go start false start
where
  /-- Goes on from a line whose content begins at position `i`. -/
  go (i : Nat) (blank : Bool) (stop : Nat) : Leaf × Bool :=
    let next := s.nextLine i
    let stop := if blank then stop else next
    let done := (⟨.verbatim ⟨start, stop⟩, next⟩, blank)
    let (inContainer, c) := enterLine s containers next
    let (four, c) := c.columns s 4
    if inContainer && (four || c.atLineEnd s) && c.pos != s.limit then
      if _h : i < c.pos ∧ i < s.limit then go c.pos (s.atBlankLine c.pos) stop else done
    else done
  termination_by s.limit - i

/-- Code between two fences, or up to the end of the containers. -/
def fencedCode (s : Source) (containers : List Container) (start indent : Nat)
    (mark : Char) (n : Nat) : Leaf :=
  go (s.nextLine (s.skipLineSpace (start + n)))
where
  /-- Goes on from the line at position `i`. -/
  go (i : Nat) : Leaf :=
    let (inContainer, c) := enterLine s containers i
    if !inContainer then ⟨.verbatim ⟨start, i⟩, i⟩
    else
      let c := (c.columns s indent).2
      let (four, c') := c.columns s (4 - indent)
      match if four then none else s.closingFence? mark n c'.pos with
      | some stop => ⟨.verbatim ⟨start, stop⟩, (s.blankLine? stop).getD stop⟩
      | none =>
        let next := s.nextLine c.pos
        if _h : i < next ∧ i < s.limit then go next else ⟨.verbatim ⟨start, next⟩, next⟩
  termination_by s.limit - i
  decreasing_by exact Nat.sub_lt_sub_left _h.2 _h.1

/-- Whether the text between two positions holds the characters `cs`. -/
def holdsText (s : Source) (cs : List Char) (i stop : Nat) : Bool :=
  (List.range (stop - i)).any fun k => (s.upTo stop).startsWith (i + k) cs

/-- Raw HTML, which ends as its beginning demands or with the containers. -/
def htmlBlock (s : Source) (containers : List Container) (start : Nat) (stopAt : HtmlEnd) :
    Leaf :=
  go start
where
  /-- Goes on from a line whose content begins at position `i`. -/
  go (i : Nat) : Leaf :=
    let next := s.nextLine i
    let (inContainer, c) := enterLine s containers next
    let ends (stop : Nat) : Leaf := ⟨.verbatim ⟨start, stop⟩, next⟩
    if !inContainer then ends next
    else
      match stopAt with
      | .text cs =>
        if holdsText s cs i next then ends next
        else if c.pos == s.limit then ends c.pos
        else if _h : i < c.pos ∧ i < s.limit then go c.pos
        else ends next
      | .blank =>
        if c.atLineEnd s then ends next
        else if c.pos == s.limit || s.atBlankLine c.pos then ends c.pos
        else if _h : i < c.pos ∧ i < s.limit then go c.pos
        else ends next
  termination_by s.limit - i

/-- A heading that number signs open. -/
def numberSignHeading (s : Source) (containers : List Container) (start level : Nat) : Leaf :=
  let leaf (tokens : Array Token) (next : Nat) : Leaf :=
    ⟨.heading level ⟨⟨start, next⟩, tokens, containers, false⟩, next⟩
  match s.lineEnd? (start + level) with
  | some next => leaf #[] next
  | none =>
    let line := tokenizeLine s .plain (s.skipLineSpace (start + level)) #[]
    leaf line.tokens line.next

/-- A row of a table with a given number of columns; cells beyond are dropped and
missing ones are empty. -/
def tableRow (s : Source) (containers : List Container) (columns start : Nat) :
    TableRow × Nat :=
  let (cells, next) := go start []
  let cells := cells.take columns
  let missing := List.replicate (columns - cells.length)
    ⟨⟨next, next⟩, #[], containers, true⟩
  (⟨⟨start, next⟩, cells ++ missing⟩, next)
where
  /-- Goes on from position `i`; the cells found stand in reverse order. -/
  go (i : Nat) (cells : List InlineText) : List InlineText × Nat :=
    let first := if s.is i '|' then i + 1 else i
    let j := s.skipLineSpace first
    match s.lineEnd? j with
    | some next => (cells.reverse, next)
    | none =>
      let line := tokenizeLine s .cell j #[]
      let cells := ⟨⟨first, line.next⟩, line.tokens, containers, true⟩ :: cells
      if _h : i < line.next ∧ i < s.limit then go line.next cells else (cells.reverse, line.next)
  termination_by s.limit - i
  decreasing_by exact Nat.sub_lt_sub_left _h.2 _h.1

/-- The rows of the body of a table, up to a line that leaves its containers or begins
another block. -/
def tableBody (s : Source) (containers : List Container) (columns i : Nat) :
    List TableRow × Nat :=
  let (inContainer, c) := enterLine s containers i
  let c := c.skipBlanks s
  if !inContainer || s.interruptsParagraph true c.pos then ([], i)
  else
    let (row, next) := tableRow s containers columns c.pos
    if _h : i < next ∧ i < s.limit then
      let (rows, stop) := tableBody s containers columns next
      (row :: rows, stop)
    else ([row], next)
termination_by s.limit - i

/-- A paragraph, or the heading or the table that it turns out to be. -/
def paragraph (s : Source) (containers : List Container) (start : Nat) : Leaf :=
  go start #[]
where
  /-- The rule of a table whose head is the line before position `i`. -/
  rule? (i : Nat) : Option (Nat × Nat) :=
    let (inContainer, c) := enterLine s containers i
    if inContainer then tableRule? s c.pos else none
  /-- Goes on from a line whose content begins at position `i`. -/
  go (i : Nat) (tokens : Array Token) : Leaf :=
    let line := tokenizeLine s (if i == start then .head rule? else .plain) i tokens
    let leaf (make : InlineText → Block) (stop : Nat) : Leaf :=
      ⟨make ⟨⟨start, stop⟩, line.tokens, containers, false⟩, stop⟩
    match line.ending with
    | .table columns =>
      let (head, _) := tableRow s containers columns start
      let (body, stop) := tableBody s containers columns line.next
      ⟨.table ⟨start, stop⟩ (head :: body), stop⟩
    | ending =>
      let (inContainer, c) := enterLine s containers line.next
      let (four, c) := c.columns s 4
      match if !four && inContainer then s.underline? c.pos else none with
      | some (level, stop) => leaf (.heading level) stop
      | none =>
        let c' := c.skipBlanks s
        if (!four && interrupted s containers inContainer c.pos) || c'.atLineEnd s then
          leaf .paragraph line.next
        else
          let tokens := match ending with
            | .lineBreak token => line.tokens.push token
            | _ => line.tokens
          if _h : i < c'.pos ∧ i < s.limit then go c'.pos tokens
          else leaf .paragraph line.next
  termination_by s.limit - i
  decreasing_by exact Nat.sub_lt_sub_left _h.2 _h.1

/-- What the marks at the start of a line lead to. -/
inductive LineContent where
  /-- The line has no content: reading goes on after it. -/
  | done (st : BlockState) (next : Nat)
  /-- The content begins at the cursor. -/
  | content (st : BlockState) (c : Cursor)

/-- Opens the containers whose marks follow in the line at position `line`. -/
def openContainers (s : Source) (line : Nat) (st : BlockState) (c : Cursor) : LineContent :=
  let (outer, c') := c.indent s 4
  if outer ≥ 4 then .content st c
  else
    match listMark? s outer c' with
    | some (mark, c'') =>
      let start := c'.pos - outer
      let st := (st.continueList start mark.delimiter).openFrame (.item mark.indent) start
      match s.blankLine? c''.pos with
      | some next => .done { st with emptyItem := some next } next
      | none =>
        let c'' := (taskMark? s c'').getD c''
        if _h : c.pos < c''.pos ∧ c.pos < s.limit then openContainers s line st c''
        else .content st c''
    | none =>
      match quoteMark? s c' with
      | some c'' =>
        let st := (st.finishList line).openFrame .quote c'.pos
        if _h : c.pos < c''.pos ∧ c.pos < s.limit then openContainers s line st c''
        else .content st c''
      | none => .content st c
termination_by s.limit - c.pos
decreasing_by all_goals exact Nat.sub_lt_sub_left _h.2 _h.1

/-- Reads the definitions at position `i` and then the paragraph after them, if there
is one. -/
def definitionsAndParagraph (s : Source) (st : BlockState) (i : Nat) : BlockState × Nat :=
  let containers := st.containers
  match s.definition? (definitionLine? s containers) i with
  | none =>
    let st := st.finishList i
    let leaf := paragraph s containers i
    (st.add leaf.block, leaf.next)
  | some d =>
    let st := { st with definitions := st.definitions.define d.label d.destination }
    match s.blankLine? d.stop with
    | none => (st.finishList d.stop, d.stop)
    | some next =>
      let (inContainer, c) := enterLine s containers next
      let (four, c) := c.columns s 4
      if !four && interrupted s containers inContainer c.pos then (st.finishList next, next)
      else
        let c := c.skipBlanks s
        if _h : i < c.pos ∧ i < s.limit then definitionsAndParagraph s st c.pos
        else (st.finishList next, next)
termination_by s.limit - i
decreasing_by exact Nat.sub_lt_sub_left _h.2 _h.1

/-- Reads a leaf whose line begins at position `line` and whose content begins at the
cursor: the state after it and the position where reading goes on. -/
def readLeaf (s : Source) (line : Nat) (st : BlockState) (c : Cursor) : BlockState × Nat :=
  let (indent, c) := c.indent s 4
  let i := c.pos
  let closed := st.finishList line
  let put (leaf : Leaf) : BlockState × Nat := (closed.add leaf.block, leaf.next)
  if indent == 4 then
    let (leaf, blank) := indentedCode s closed.containers i
    ({ closed.add leaf.block with afterBlank := blank }, leaf.next)
  else
    let html? : Option HtmlEnd :=
      if s.is i '<' then
        match s.htmlEndText? (i + 1) with
        | some cs => some (.text cs)
        | none => if s.startsNamedHtml (i + 1) || s.startsLoneTag i then some .blank else none
      else none
    match html? with
    | some stopAt => put (htmlBlock s closed.containers i stopAt)
    | none =>
      match s.thematicBreak? i with
      | some next => (closed, next)
      | none =>
        match s.headingLevel? i with
        | some level => put (numberSignHeading s closed.containers i level)
        | none =>
          match s.codeFence? i with
          | some (mark, n) => put (fencedCode s closed.containers i indent mark n)
          | none => definitionsAndParagraph s st i

/-- Reads a leaf, or a line without content, from the line at position `i`. -/
def readBlock (s : Source) (st : BlockState) (i : Nat) : BlockState × Nat :=
  let (n, c) := continueContainers s st.containers (Cursor.ofLine i)
  match openContainers s i (st.closeContainers n i) c with
  | .done st next => (st, next)
  | .content st c =>
    match s.blankLine? c.pos with
    | some next => (st.blankLine, next)
    | none => readLeaf s i st c

/-- Reads all blocks from position `i` on. -/
def readBlocks (s : Source) (st : BlockState) (i : Nat) : BlockState :=
  if _h : i < s.limit then
    let (st, next) := readBlock s st i
    if _h : i < next then readBlocks s st next
    else st.closeFrames s.limit st.frames.length
  else st.closeFrames s.limit st.frames.length
termination_by s.limit - i

/-- The blocks of a text and the definitions in it. -/
def blocksOf (s : Source) : List Block × Definitions :=
  let st := readBlocks s {} 0
  (st.blocks.reverse, st.definitions)

end LiveMarkdown.Markdown
