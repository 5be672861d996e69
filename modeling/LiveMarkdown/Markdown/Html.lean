import LiveMarkdown.Markdown.Source

/-!
# Raw HTML

Two things are recognised: the line starts that open an HTML block, each with the
condition that closes it, and the tags, comments, instructions, declarations and
character data sections that stand inside a line.  A tag may run over line ends; after
each of them the marks of the enclosing containers are passed over by a function that
the caller supplies.
-/

namespace LiveMarkdown.Markdown

/-- What ends an HTML block. -/
inductive HtmlEnd where
  /-- A line that holds the given characters. -/
  | text (cs : List Char)
  /-- A blank line. -/
  | blank
deriving Repr

/-- The names that open a block of type 6. -/
def htmlBlockNames : List String :=
  ["address", "article", "aside", "base", "basefont", "blockquote", "body", "caption",
    "center", "col", "colgroup", "dd", "details", "dialog", "dir", "div", "dl", "dt",
    "fieldset", "figcaption", "figure", "footer", "form", "frame", "frameset", "h1",
    "h2", "h3", "h4", "h5", "h6", "head", "header", "hr", "html", "iframe", "legend",
    "li", "link", "main", "menu", "menuitem", "nav", "noframes", "ol", "optgroup",
    "option", "p", "param", "search", "section", "summary", "table", "tbody", "td",
    "tfoot", "th", "thead", "title", "tr", "track", "ul"]

namespace Source

/-- What follows the name in a block of type 1. -/
private def endsRawName (s : Source) (i : Nat) : Bool :=
  match s.get? i with
  | none => true
  | some c => isSpace c || c == '>'

/-- The text that ends the HTML block of types 1 to 5 whose content after `<` begins at
position `i`. -/
def htmlEndText? (s : Source) (i : Nat) : Option (List Char) :=
  let rawNames := ["pre", "style", "script", "textarea"]
  match rawNames.find? fun name =>
      s.startsWithFolded i name.toList && s.endsRawName (i + name.length) with
  | some name => some ("</".toList ++ name.toList ++ ['>'])
  | none =>
    if s.startsWith i "!--".toList then some "-->".toList
    else if s.is i '?' then some "?>".toList
    else if s.startsWith i "![CDATA[".toList then some "]]>".toList
    else if s.is i '!' && (s.get? (i + 1)).any Char.isAlpha then some ['>']
    else none

/-- Whether an HTML block of type 6 has its content after `<` at position `i`. -/
def startsNamedHtml (s : Source) (i : Nat) : Bool :=
  let i := if s.is i '/' then i + 1 else i
  let j := s.skipWhile isAlphanum i
  let name := (s.slice i j).toLower
  htmlBlockNames.contains name &&
    match s.get? j with
    | none => true
    | some c =>
      c == ' ' || c == '\t' || c == '\r' || c == '\n' || c == '>' ||
        (c == '/' && s.is (j + 1) '>')

/-- Passes over white space in a tag, over line ends only if `newLine` is given. -/
def skipTagSpace? (s : Source) (newLine : Option (Nat → Nat)) (i : Nat) : Option Nat :=
  if _h : i < s.limit then
    match s.get? i with
    | none => some i
    | some c =>
      if c == '\n' || c == '\r' then
        match newLine with
        | none => none
        | some enter =>
          let j := (s.lineEnd? i).getD (i + 1)
          skipTagSpace? s newLine (i + 1 + (enter j - (i + 1)))
      else if isSpace c then skipTagSpace? s newLine (i + 1)
      else some i
  else some i
termination_by s.limit - i

/-- Passes over the rest of a quoted attribute value. -/
def skipQuoted? (s : Source) (newLine : Option (Nat → Nat)) (quote : Char) (i : Nat) :
    Option Nat :=
  if _h : i < s.limit then
    match s.get? i with
    | none => none
    | some c =>
      if c == quote then some (i + 1)
      else if c == '\n' || c == '\r' then
        match newLine with
        | none => none
        | some enter =>
          let j := (s.lineEnd? i).getD (i + 1)
          skipQuoted? s newLine quote (i + 1 + (enter j - (i + 1)))
      else skipQuoted? s newLine quote (i + 1)
  else none
termination_by s.limit - i

/-- Passes over an attribute value. -/
def attributeValue? (s : Source) (newLine : Option (Nat → Nat)) (i : Nat) : Option Nat := do
  let c ← s.get? i
  if c == '"' || c == '\'' then s.skipQuoted? newLine c (i + 1)
  else if " =><\x60\n\r".toList.contains c then none
  else return s.skipWhile (fun c => !("'\" =><\x60\n\r".toList.contains c)) i

/-- Passes over an attribute with its value, if it has one. -/
def attribute? (s : Source) (newLine : Option (Nat → Nat)) (i : Nat) : Option Nat := do
  let c ← s.get? i
  guard (c.isAlpha || c == '_' || c == ':')
  let stop := s.skipWhile
    (fun c => isAlphanum c || c == '_' || c == '.' || c == ':' || c == '-') (i + 1)
  let j ← s.skipTagSpace? newLine stop
  if s.is j '=' then
    let j ← s.skipTagSpace? newLine (j + 1)
    s.attributeValue? newLine j
  else return stop

/-- Passes over the attributes of a tag up to `/` or `>`.  Each attribute must be
preceded by white space. -/
def attributes? (s : Source) (newLine : Option (Nat → Nat)) (i : Nat) : Option Nat := do
  let j ← s.skipTagSpace? newLine i
  match s.get? j with
  | none => none
  | some c =>
    if c == '/' || c == '>' then return j
    else if j == i then none
    else
      let k ← s.attribute? newLine j
      if _h : i < k ∧ i < s.limit then attributes? s newLine k else none
termination_by s.limit - i
decreasing_by omega

/-- Passes over the tag that begins with `<` at position `i`. -/
def tag? (s : Source) (newLine : Option (Nat → Nat)) (i : Nat) : Option Nat := do
  let closing := s.is (i + 1) '/'
  let name := if closing then i + 2 else i + 1
  guard ((s.get? name).any Char.isAlpha)
  let j := s.skipWhile (fun c => isAlphanum c || c == '-') name
  let j ← if closing then some j else s.attributes? newLine j
  let j := s.skipLineSpace j
  let j := if !closing && s.is j '/' then j + 1 else j
  if s.is j '>' then return j + 1 else none

/-- Whether an HTML block of type 7 begins with `<` at position `i`: a single tag with
nothing after it. -/
def startsLoneTag (s : Source) (i : Nat) : Bool :=
  (s.tag? none i).any s.atBlankLine

/-- Passes over the rest of a comment, from its first hyphen on.  The two hyphens that
end it may be those that begin it. -/
def skipComment? (s : Source) (i : Nat) : Option Nat :=
  if _h : i < s.limit then
    if s.is i '-' && s.is (i + 1) '-' && s.is (i + 2) '>' then some (i + 3)
    else skipComment? s (i + 1)
  else none
termination_by s.limit - i

/-- Passes over the rest of an instruction. -/
def skipInstruction? (s : Source) (i : Nat) : Option Nat :=
  if _h : i < s.limit then
    if s.is i '?' && s.is (i + 1) '>' then some (i + 2) else skipInstruction? s (i + 1)
  else none
termination_by s.limit - i

/-- Passes over a comment, character data section or declaration whose content after
the exclamation mark begins at position `i`. -/
def markupDeclaration? (s : Source) (i : Nat) : Option Nat :=
  match s.get? i with
  | some '-' =>
    if s.is (i + 1) '-' then s.skipComment? i
    else none
  | some '[' =>
    if s.startsWith (i + 1) "CDATA[".toList then
      let j := s.skipWhile (· != ']') (i + 7)
      let k := s.skipWhile (· == ']') j
      if j < k && s.is k '>' then some (k + 1) else none
    else none
  | some c =>
    if c.isAlpha then (s.find? '>' (i + 1)).map (· + 1) else none
  | none => none

/-- Passes over the raw HTML whose content after `<` begins at position `i`. -/
def inlineHtml? (s : Source) (newLine : Nat → Nat) (i : Nat) : Option Nat :=
  match s.get? i with
  | some '!' => s.markupDeclaration? (i + 1)
  | some '?' => s.skipInstruction? (i + 1)
  | _ => s.tag? (some newLine) (i - 1)

end Source

end LiveMarkdown.Markdown
