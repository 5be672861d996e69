import LiveMarkdown.Text.Span
import LiveMarkdown.Markdown.BlockStart
import LiveMarkdown.Markdown.Entity

/-!
# Tokens of a line

The text of a paragraph, a heading or a table cell is cut into tokens line by line:
stretches of plain text and the characters that may turn out to mark emphasis, code,
links, images or raw HTML.  Whether a run of emphasis characters may open or close
emphasis depends only on the characters on either side of it, so it is settled here.
-/

namespace LiveMarkdown.Markdown

/-- What a token may turn out to be. -/
inductive TokenKind where
  /-- Plain text. -/
  | text
  /-- A run of emphasis characters that may open or close emphasis. -/
  | run (mark : Char) (opens closes : Bool)
  /-- A run of backticks; the first of them may be escaped by a backslash. -/
  | ticks (escaped : Bool)
  /-- A character that may open raw HTML or an address. -/
  | angle
  /-- The exclamation mark and bracket that may open an image. -/
  | imageBracket
  /-- A bracket that may open a link. -/
  | openBracket
  /-- A bracket that may close a link or an image. -/
  | closeBracket
  /-- A character reference. -/
  | entity
  /-- The end of a line inside a text. -/
  | lineBreak
deriving Repr, DecidableEq, Inhabited

/-- A stretch of text and what it may turn out to be. -/
structure Token where
  /-- What the token may turn out to be. -/
  kind : TokenKind
  /-- The bytes of the token. -/
  span : Span
deriving Repr, Inhabited

/-- What a line may hold besides the text of a paragraph. -/
inductive LineMode where
  /-- Nothing. -/
  | plain
  /-- The head of a table, when `rule?` finds the rule below it in the next line: the
  number of columns and the position after the rule. -/
  | head (rule? : Nat → Option (Nat × Nat))
  /-- The cells of a table row, of which one is read. -/
  | cell

/-- How a line ends. -/
inductive LineEnding where
  /-- With the text. -/
  | none
  /-- With a line break, if the text goes on. -/
  | lineBreak (token : Token)
  /-- The line is the head of a table with this number of columns. -/
  | table (columns : Nat)

/-- A line cut into tokens. -/
structure TokenLine where
  /-- The tokens of the line and those of the lines before it. -/
  tokens : Array Token
  /-- The position after the line. -/
  next : Nat
  /-- How the line ends. -/
  ending : LineEnding

namespace Source

/-- Whether the run of `n` characters `mark` at position `i` may open emphasis. -/
def opensEmphasis (s : Source) (inCell : Bool) (mark : Char) (i n : Nat) : Bool :=
  match s.charAt? (i + n) with
  | none => false
  | some next =>
    if isBlank next then false
    else
      match s.charBefore? i with
      | none => true
      | some prev =>
        if inCell && prev == '|' then true
        else if inCell && next == '|' then false
        else if mark == '*' && !isPunctuation next then true
        else if mark == '~' && n > 1 then true
        else isBlank prev || isPunctuation prev

/-- Whether the run of `n` characters `mark` at position `i` may close emphasis. -/
def closesEmphasis (s : Source) (inCell : Bool) (mark : Char) (i n : Nat) : Bool :=
  match s.charBefore? i with
  | none => false
  | some prev =>
    if isBlank prev then false
    else
      match s.charAt? (i + n) with
      | none => true
      | some next =>
        if inCell && prev == '|' then false
        else if inCell && next == '|' then true
        else if (mark == '*' || (mark == '~' && n > 1)) && !isPunctuation prev then true
        else isBlank next || isPunctuation next

end Source

/-- The progress of cutting a line into tokens. -/
structure LineState where
  /-- The tokens found. -/
  tokens : Array Token
  /-- Where the plain text in progress begins. -/
  textStart : Nat
  /-- The number of vertical bars seen. -/
  bars : Nat
  /-- The position of the last of them. -/
  lastBar : Nat

/-- Ends the plain text in progress at position `i`. -/
def LineState.flush (st : LineState) (i : Nat) : LineState :=
  if st.textStart < i then
    { st with tokens := st.tokens.push ⟨.text, ⟨st.textStart, i⟩⟩ }
  else st

/-- Ends the plain text in progress at position `i` and adds a token. -/
def LineState.add (st : LineState) (i : Nat) (kind : TokenKind) (start stop : Nat) :
    LineState :=
  let st := st.flush i
  { st with tokens := st.tokens.push ⟨kind, ⟨start, stop⟩⟩, textStart := stop }

/-- What one character of a line leads to. -/
inductive LineStep where
  /-- The line goes on; the given number of further characters has been dealt with. -/
  | go (skip : Nat) (st : LineState)
  /-- The line ends. -/
  | stop (line : TokenLine)

/-- The plain text in progress ends where the line does, before trailing white space. -/
def LineState.finish (s : Source) (st : LineState) (i : Nat) : TokenLine :=
  let trailing := s.countBack Source.isLineSpace st.textStart i
  ⟨(st.flush (i - trailing)).tokens, i, .none⟩

/-- The end of the line at position `i`. -/
def lineEndStep (s : Source) (mode : LineMode) (start : Nat) (st : LineState)
    (i : Nat) : TokenLine :=
  let next := (s.lineEnd? i).getD (i + 1)
  let lineBreak (first : Nat) : TokenLine :=
    ⟨(st.flush first).tokens, next, .lineBreak ⟨.lineBreak, ⟨first, next⟩⟩⟩
  let ordinary : TokenLine :=
    let backslashes := s.countBack (· == '\\') 0 i
    let spaces := s.countBack Source.isLineSpace 0 i
    if backslashes % 2 == 1 && next < s.limit then lineBreak (i - 1)
    else if spaces ≥ 2 then lineBreak (i - spaces)
    else lineBreak i
  match mode with
  | .cell => st.finish s i
  | .plain => ordinary
  | .head rule? =>
    if st.bars == 0 then ordinary
    else
      match rule? next with
      | some (columns, stop) =>
        if columns == headColumns s st.bars start st.lastBar then
          ⟨st.tokens, stop, .table columns⟩
        else ordinary
      | none => ordinary

/-- A backslash at position `i`. -/
def backslashStep (s : Source) (inCell : Bool) (st : LineState) (i : Nat) : LineStep :=
  if (s.get? (i + 1)).any isAsciiPunctuation then
    let st := st.flush i
    if s.is (i + 1) '\x60' then
      let n := s.count (· == '\x60') (i + 1)
      .go n (st.add i (.ticks true) (i + 1) (i + 1 + n))
    else if inCell && s.is (i + 1) '\\' && s.is (i + 2) '|' then
      .go 2 { st with textStart := i + 2 }
    else .go 1 { st with textStart := i + 1 }
  else .go 0 st

/-- A run of emphasis characters at position `i`. -/
def runStep (s : Source) (inCell : Bool) (mark : Char) (st : LineState) (i : Nat) :
    LineStep :=
  let extra := s.whole.count (· == mark) (i + 1)
  let n := extra + 1
  let opens := s.whole.opensEmphasis inCell mark i n
  let closes := s.whole.closesEmphasis inCell mark i n
  if (opens || closes) && (mark != '~' || n ≤ 2) then
    .go extra (st.add i (.run mark opens closes) i (i + n))
  else .go extra st

/-- The character `c` at position `i`. -/
def charStep (s : Source) (mode : LineMode) (start : Nat) (st : LineState) (i : Nat)
    (c : Char) : LineStep :=
  let inCell := mode matches .cell
  if c == '\n' || c == '\r' then .stop (lineEndStep s mode start st i)
  else if c == '\\' then backslashStep s inCell st i
  else if c == '*' || c == '_' || c == '~' then runStep s inCell c st i
  else if c == '\x60' then
    let extra := s.count (· == '\x60') (i + 1)
    .go extra (st.add i (.ticks false) i (i + 1 + extra))
  else if c == '<' && !s.is (i + 1) '\\' then .go 0 (st.add i .angle i (i + 1))
  else if c == '!' && s.is (i + 1) '[' then .go 1 (st.add i .imageBracket i (i + 2))
  else if c == '[' then .go 0 (st.add i .openBracket i (i + 1))
  else if c == ']' then .go 0 (st.add i .closeBracket i (i + 1))
  else if c == '&' then
    match s.entity? i with
    | some (j, _) => .go (j - (i + 1)) (st.add i .entity i j)
    | none => .go 0 st
  else if c == '|' then
    if inCell then .stop (st.finish s i)
    else .go 0 { st with bars := st.bars + 1, lastBar := i }
  else .go 0 st

/-- Cuts the line that begins at position `start` into tokens, which are added to
`tokens`. -/
def tokenizeLine (s : Source) (mode : LineMode) (start : Nat) (tokens : Array Token) :
    TokenLine :=
  go ⟨tokens, start, 0, start⟩ start
where
  /-- Goes on from position `i`. -/
  go (st : LineState) (i : Nat) : TokenLine :=
    if _h : i < s.limit then
      match s.get? i with
      | none => st.finish s i
      | some c =>
        match charStep s mode start st i c with
        | .stop line => line
        | .go skip st => go st (i + 1 + skip)
    else st.finish s s.limit
  termination_by s.limit - i

end LiveMarkdown.Markdown
