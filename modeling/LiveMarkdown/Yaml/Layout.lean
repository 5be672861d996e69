import LiveMarkdown.Yaml.Token

/-!
# The layout of a stream

Outside brackets, the columns of a stream tell where blocks start and end, and a colon
makes a key of what precedes it.  What may turn out to be a key is remembered until it is
passed by more than 1024 characters or by the end of the line; if it starts in the column
of the block around it, it must turn out to be one.  When it does, a token is put before
it, and one more if it starts a block.
-/

namespace LiveMarkdown.Yaml

/-- What may turn out to be a key. -/
structure PossibleKey where
  /-- Whether it must be one. -/
  required : Bool
  /-- Where it starts. -/
  position : Position
  /-- The number of tokens before it. -/
  index : Nat
deriving Repr

/-- Whether something may still be a key when a reader is at some position. -/
def PossibleKey.isValid (k : PossibleKey) (p : Position) : Bool :=
  k.position.line == p.line && p.column ≤ k.position.column + 1024

/-- A stream that is being divided into tokens. -/
structure Layout where
  /-- The place in the stream. -/
  reader : Reader
  /-- The tokens so far, each together with what has been put before it. -/
  tokens : Array (List Token)
  /-- The columns of the blocks around the place, the innermost one first. -/
  columns : List Nat
  /-- Whether a key may start here. -/
  keyAllowed : Bool
  /-- What may turn out to be a key inside each pair of brackets, the innermost pair first,
  and at last outside all of them. -/
  keys : List (Option PossibleKey)

namespace Layout

/-- The start of a stream. -/
def ofText (cs : List Char) : Layout where
  reader := Reader.ofText cs
  tokens := #[]
  columns := []
  keyAllowed := true
  keys := [none]

/-- Whether the place is inside brackets. -/
def inFlow (l : Layout) : Bool :=
  1 < l.keys.length

/-- The column of the place. -/
def column (l : Layout) : Nat :=
  l.reader.position.column

/-- The first column inside the innermost block. -/
def level (l : Layout) : Nat :=
  match l.columns with
  | [] => 0
  | column :: _ => column + 1

/-- Adds a token. -/
def push (l : Layout) (t : Token) : Layout :=
  { l with tokens := l.tokens.push [t] }

/-- Adds a token that was read. -/
def pushScanned (l : Layout) (t : Token.Scanned) : Layout :=
  { l.push t.1 with reader := t.2 }

/-- Adds a token of some characters that have not been read. -/
def pushMark (l : Layout) (t : Token) (length : Nat) : Layout :=
  l.pushScanned (t, l.reader.skip length)

/-! ## Blocks -/

/-- Ends blocks, starting with the innermost one, as long as their columns satisfy `p`. -/
def endBlocks (p : Nat → Bool) (tokens : Array (List Token)) :
    List Nat → Array (List Token) × List Nat
  | [] => (tokens, [])
  | column :: rest =>
    if p column then endBlocks p (tokens.push [.blockEnd]) rest else (tokens, column :: rest)

/-- Ends the blocks that start right of the place. -/
def endInnerBlocks (l : Layout) : Layout :=
  if l.inFlow then l
  else
    let (tokens, columns) := endBlocks (l.column < ·) l.tokens l.columns
    { l with tokens, columns }

/-- Ends all blocks. -/
def endAllBlocks (l : Layout) : Layout :=
  if l.inFlow then l
  else
    let (tokens, columns) := endBlocks (fun _ => true) l.tokens l.columns
    { l with tokens, columns }

/-- Whether a block can start at a column. -/
def canStart (l : Layout) (column : Nat) : Bool :=
  !l.inFlow && l.level ≤ column

/-- Starts a block at the place, unless one is open in that column. -/
def startBlock (l : Layout) (t : Token) : Layout :=
  if l.canStart l.column then { l.push t with columns := l.column :: l.columns } else l

/-! ## Keys -/

/-- What may turn out to be a key at the place where the reader is. -/
def possibleKey? (l : Layout) : Option PossibleKey :=
  l.keys.head?.join

/-- Sets what may turn out to be a key. -/
def withKey (l : Layout) (k : Option PossibleKey) : Layout :=
  { l with keys := k :: l.keys.tail }

/-- Gives up what may turn out to be a key.  This fails if it had to be one. -/
def dropKey? (l : Layout) : Option Layout :=
  if l.possibleKey?.any (·.required) then none else some (l.withKey none)

/-- Remembers that a key may start at the place, and whether one may follow it. -/
def saveKey? (l : Layout) (allowed : Bool) : Option Layout :=
  let saved :=
    if l.keyAllowed then
      let required := !l.inFlow && l.level == l.column + 1
      l.dropKey?.map fun l => l.withKey (some ⟨required, l.reader.position, l.tokens.size⟩)
    else some l
  saved.map fun l => { l with keyAllowed := allowed }

/-- Makes a key of what was remembered. -/
def resolveKey (l : Layout) (k : PossibleKey) : Layout :=
  let starts := l.canStart k.position.column
  let before := if starts then [Token.blockEntries, .key] else [.key]
  { l.withKey none with
    tokens := l.tokens.modify k.index (before ++ ·)
    columns := if starts then k.position.column :: l.columns else l.columns
    keyAllowed := false }

/-! ## Marks -/

/-- A bracket or brace that opens. -/
def openFlow? (l : Layout) (t : Token) : Option Layout :=
  (l.saveKey? true).map fun l => { l with keys := none :: l.keys }.pushMark t 1

/-- A bracket or brace that closes. -/
def closeFlow? (l : Layout) (t : Token) : Option Layout :=
  l.dropKey?.map fun l =>
    let keys := if l.inFlow then l.keys.tail else l.keys
    { l with keys, keyAllowed := false }.pushMark t 1

/-- A comma. -/
def comma? (l : Layout) : Option Layout :=
  l.dropKey?.map fun l => { l with keyAllowed := true }.pushMark .comma 1

/-- A mark that starts a block, unless it is inside brackets. -/
def blockMark? (l : Layout) (start mark : Token) (allowed : Bool) : Option Layout :=
  if l.inFlow || l.keyAllowed then
    (l.startBlock start).dropKey?.map fun l => { l with keyAllowed := allowed }.pushMark mark 1
  else none

/-- A hyphen before an item. -/
def item? (l : Layout) : Option Layout :=
  l.blockMark? .blockItems .item true

/-- A question mark before a key. -/
def key? (l : Layout) : Option Layout :=
  l.blockMark? .blockEntries .key (!l.inFlow)

/-- A colon before a value.  If nothing before it can be a key, the key was marked, or is
missing. -/
def value? (l : Layout) : Option Layout :=
  match l.possibleKey?.filter (·.isValid l.reader.position) with
  | some k => some ((l.resolveKey k).pushMark .value 1)
  | none =>
    if l.possibleKey?.any (·.required) then none
    else if l.inFlow || l.keyAllowed then
      let l := l.startBlock .blockEntries
      some ({ l with keyAllowed := !l.inFlow }.withKey none |>.pushMark .value 1)
    else none

/-- Three hyphens or three dots. -/
def documentMark? (l : Layout) (t : Token) : Option Layout :=
  l.endAllBlocks.dropKey?.map fun l => { l with keyAllowed := false }.pushMark t 3

/-- A directive. -/
def directive? (l : Layout) : Option Layout :=
  l.endAllBlocks.dropKey?.bind fun l =>
    (Token.scanDirective? (l.reader.skip 1)).map { l with keyAllowed := false }.pushScanned

/-! ## Nodes -/

/-- A token that begins a node that may be a key. -/
def nodeStart? (l : Layout) (scan : Reader → Option Token.Scanned) : Option Layout :=
  (l.saveKey? false).bind fun l => (scan l.reader).map l.pushScanned

/-- An alias or an anchor. -/
def name? (l : Layout) (t : String → Token) : Option Layout :=
  l.nodeStart? fun r => (Token.scanName? (r.skip 1)).map fun (name, r) => (t name, r)

/-- A scalar that may be a key.  If a line ends after it, a key may follow. -/
def scalar? (l : Layout) (style : ScalarStyle) (scan : Reader → Option ScannedScalar) :
    Option Layout :=
  (l.saveKey? false).bind fun l =>
    (scan l.reader).map fun s =>
      { l with keyAllowed := s.broken }.pushScanned (.scalar style s.text, s.reader)

/-- A block scalar. -/
def block? (l : Layout) (style : ScalarStyle) : Option Layout :=
  l.dropKey?.bind fun l =>
    (scanBlock (style == .literal) l.level (l.reader.skip 1)).map fun s =>
      { l with keyAllowed := true }.pushScanned (.scalar style s.text, s.reader)

/-- The characters that cannot begin a plain scalar, if they begin no other token. -/
def isReserved (c : Char) : Bool :=
  isSeparator c || c == '|' || c == '>' || c == '%' || c == '@' || c == '\x60'

/-- Reads the token that begins with a character. -/
def token? (l : Layout) (c : Char) (cs : List Char) : Option Layout :=
  if l.column = 0 ∧ c = '%' then l.directive?
  else if l.column = 0 ∧ isTripled '-' (c :: cs) then l.documentMark? .documentStart
  else if l.column = 0 ∧ isTripled '.' (c :: cs) then l.documentMark? .documentEnd
  else if c = '[' then l.openFlow? .openItems
  else if c = '\x7b' then l.openFlow? .openEntries
  else if c = ']' then l.closeFlow? .closeItems
  else if c = '\x7d' then l.closeFlow? .closeEntries
  else if c = ',' then l.comma?
  else if c = '-' ∧ endsWord cs then l.item?
  else if c = '?' ∧ (l.inFlow ∨ endsWord cs) then l.key?
  else if c = ':' ∧ (l.inFlow ∨ endsWord cs) then l.value?
  else if c = '*' then l.name? .alias
  else if c = '&' then l.name? .anchor
  else if c = '!' then l.nodeStart? (Token.scanTag? l.inFlow)
  else if c = '|' ∧ ¬l.inFlow then l.block? .literal
  else if c = '>' ∧ ¬l.inFlow then l.block? .folded
  else if c = '\x27' then
    l.scalar? .singleQuoted fun r => scanSingleQuoted r.position.next [] {} cs
  else if c = '"' then l.scalar? .doubleQuoted fun r => scanDoubleQuoted r.position.next [] {} cs
  else if isReserved c then none
  else l.scalar? .plain fun r => scanPlain l.inFlow l.level r.position [] {} r.rest

/-! ## Streams -/

/-- Passes over white space and comments.  Whether a key may follow is `allowed`; it may at
the start of a line, and tabs count as white space only where it may not.  A byte order
mark may start a line. -/
def skipToToken (inFlow allowed inComment : Bool) (p : Position) : List Char → Bool × Reader
  | [] => (allowed, ⟨p, []⟩)
  | c :: cs =>
    if isBreak c then skipToToken inFlow (!inFlow || allowed) false p.nextLine cs
    else if inComment || c == ' ' || (c == '\t' && (inFlow || !allowed)) ||
        (c == '\ufeff' && p.column == 0) then
      skipToToken inFlow allowed inComment p.next cs
    else if c == '#' then skipToToken inFlow allowed true p.next cs
    else (allowed, ⟨p, c :: cs⟩)

/-- Passes over what precedes the next token, and ends the blocks that end before it. -/
def nextToken (l : Layout) : Layout :=
  let (keyAllowed, reader) :=
    skipToToken l.inFlow l.keyAllowed false l.reader.position l.reader.rest
  { l with keyAllowed, reader }.endInnerBlocks

/-- The tokens of a stream from its first token on.  Every token takes up at least one
character. -/
def tokens? (l : Layout) : Option (List Token) :=
  match l.reader.rest with
  | [] => l.endAllBlocks.dropKey?.map fun l => l.tokens.toList.flatten
  | c :: cs =>
    (l.token? c cs).bind fun after =>
      let next := after.nextToken
      if next.reader.rest.length < l.reader.rest.length then next.tokens? else none
termination_by l.reader.rest.length

end Layout

/-- The tokens of a stream. -/
def Token.ofText? (cs : List Char) : Option (List Token) :=
  if cs.all isAllowed then (Layout.ofText (equalBreaks cs)).nextToken.tokens? else none

end LiveMarkdown.Yaml
