import LiveMarkdown.Yaml.Layout

/-!
# Documents of YAML

A document is a tree of scalars, lists of items and lists of entries.  A node may be given
a name, and an alias stands for a node by its name.  Names are numbered by how many
different names there were before, and an alias stands for the last node of the document
whose name has its number.

A document is read from tokens by recursive descent.  A node that is missing is an empty
plain scalar.  Of the stream, at most one document is read.
-/

namespace LiveMarkdown.Yaml

/-- A node of a document. -/
inductive Node where
  /-- A text. -/
  | scalar (name : Option Nat) (tag : Option String) (style : ScalarStyle) (text : String)
  /-- A list of nodes. -/
  | sequence (name : Option Nat) (tag : Option String) (items : List Node)
  /-- A list of keys with values. -/
  | mapping (name : Option Nat) (tag : Option String) (entries : List (Node × Node))
  /-- A node that is written elsewhere. -/
  | alias (number : Nat)
deriving Inhabited

namespace Node

/-- A node that is missing. -/
def missing : Node :=
  .scalar none none .plain ""

/-- The number of the name of a node. -/
def name? : Node → Option Nat
  | .scalar name .. => name
  | .sequence name .. => name
  | .mapping name .. => name
  | .alias _ => none

mutual

/-- The last node of a tree whose name has a number.  A node comes before those in it. -/
def find? (number : Nat) : Node → Option Node
  | .scalar name tag style text =>
    if name = some number then some (.scalar name tag style text) else none
  | .sequence name tag items =>
    (findInItems? number items).or
      (if name = some number then some (.sequence name tag items) else none)
  | .mapping name tag entries =>
    (findInEntries? number entries).or
      (if name = some number then some (.mapping name tag entries) else none)
  | .alias _ => none

/-- The last node of some trees whose name has a number. -/
def findInItems? (number : Nat) : List Node → Option Node
  | [] => none
  | n :: rest => (findInItems? number rest).or (find? number n)

/-- The last node of some keys and values whose name has a number. -/
def findInEntries? (number : Nat) : List (Node × Node) → Option Node
  | [] => none
  | (key, value) :: rest =>
    (findInEntries? number rest).or ((find? number value).or (find? number key))

end

/-! ## Reading a document -/

/-- What is known while a document is read. -/
structure Progress where
  /-- The tokens that have not been read. -/
  tokens : List Token
  /-- The numbers of the names so far, the last ones first. -/
  names : List (String × Nat) := []

/-- The number of a new name: how many different names there were before. -/
def Progress.nextNumber (p : Progress) : Nat :=
  (p.names.map Prod.fst).eraseDups.length

/-- A reader of a part of a document. -/
abbrev Parse :=
  StateT Progress Option

/-- The next token. -/
def peek : Parse (Option Token) :=
  return (← get).tokens.head?

/-- Passes over a token. -/
def advance : Parse Unit :=
  modify fun p => { p with tokens := p.tokens.tail }

/-- Passes over a token if it is next, and tells whether it was. -/
def take? (t : Token) : Parse Bool := do
  if (← peek) = some t then
    advance
    return true
  else return false

/-- Whether one of some tokens is next. -/
def isNext (ts : List Token) : Parse Bool :=
  return (← peek).any ts.contains

/-- What handles stand for, and how a tag is written in full with them. -/
def fullTag? (handles : List (String × String)) (handle rest : String) : Option String :=
  if handle.isEmpty then some rest else (handles.lookup handle).map (· ++ rest)

/-- Reads a name, if one is next. -/
def anchor? : Parse (Option Nat) := do
  match ← peek with
  | some (.anchor name) =>
    advance
    modifyGet fun p =>
      (some p.nextNumber, { p with names := (name, p.nextNumber) :: p.names })
  | _ => return none

/-- Reads a tag, if one is next. -/
def tag? (handles : List (String × String)) : Parse (Option String) := do
  match ← peek with
  | some (.tag handle rest) =>
    advance
    let tag ← StateT.lift (fullTag? handles handle rest)
    return some tag
  | _ => return none

/-- Reads a name and a tag in any order, if they are next. -/
def properties (handles : List (String × String)) : Parse (Option Nat × Option String) := do
  match ← anchor? with
  | some name => return (some name, ← tag? handles)
  | none =>
    match ← tag? handles with
    | some tag => return (← anchor?, some tag)
    | none => return (none, none)

/-- Where a node is read. -/
inductive Place where
  /-- In a block. -/
  | block
  /-- As a key or value in a block, where items need not start a block of their own. -/
  | entry
  /-- Inside brackets. -/
  | flow
deriving DecidableEq, Repr

mutual

/-- Reads a node. -/
def parseNode (handles : List (String × String)) (place : Place) : Nat → Parse Node
  | 0 => failure
  | fuel + 1 => do
    match ← peek with
    | some (.alias name) =>
      advance
      match (← get).names.lookup name with
      | some number => return .alias number
      | none => failure
    | _ =>
      let (name, tag) ← properties handles
      match ← peek with
      | some .item =>
        if place = .entry then return .sequence name tag (← parseBareItems handles fuel)
        else if name.isSome || tag.isSome then return .scalar name tag .plain ""
        else failure
      | some (.scalar style text) =>
        advance
        return .scalar name tag style text
      | some .openItems =>
        advance
        return .sequence name tag (← parseFlowItems handles true fuel)
      | some .openEntries =>
        advance
        return .mapping name tag (← parseFlowEntries handles true fuel)
      | some .blockItems =>
        if place = .flow then failure
        advance
        return .sequence name tag (← parseBlockItems handles fuel)
      | some .blockEntries =>
        if place = .flow then failure
        advance
        return .mapping name tag (← parseBlockEntries handles fuel)
      | _ =>
        if name.isSome || tag.isSome then return .scalar name tag .plain ""
        else failure

/-- Reads a node, unless one of some tokens is next. -/
def parseUnless (handles : List (String × String)) (place : Place) (ts : List Token) :
    Nat → Parse Node
  | 0 => failure
  | fuel + 1 => do
    if ← isNext ts then return missing else parseNode handles place fuel

/-- Reads the rest of the items of a block. -/
def parseBlockItems (handles : List (String × String)) : Nat → Parse (List Node)
  | 0 => failure
  | fuel + 1 => do
    if ← take? .item then
      let n ← parseUnless handles .block [.item, .blockEnd] fuel
      return n :: (← parseBlockItems handles fuel)
    else if ← take? .blockEnd then return []
    else failure

/-- Reads the rest of the items that are not in a block of their own. -/
def parseBareItems (handles : List (String × String)) : Nat → Parse (List Node)
  | 0 => failure
  | fuel + 1 => do
    if ← take? .item then
      let n ← parseUnless handles .block [.item, .key, .value, .blockEnd] fuel
      return n :: (← parseBareItems handles fuel)
    else return []

/-- Reads the rest of the entries of a block. -/
def parseBlockEntries (handles : List (String × String)) : Nat → Parse (List (Node × Node))
  | 0 => failure
  | fuel + 1 => do
    if ← take? .key then
      let key ← parseUnless handles .entry [.key, .value, .blockEnd] fuel
      let value ←
        if ← take? .value then parseUnless handles .entry [.key, .value, .blockEnd] fuel
        else pure missing
      return (key, value) :: (← parseBlockEntries handles fuel)
    else if ← take? .blockEnd then return []
    else failure

/-- Reads the rest of the items in brackets.  An item may be an entry that stands alone. -/
def parseFlowItems (handles : List (String × String)) (first : Bool) : Nat → Parse (List Node)
  | 0 => failure
  | fuel + 1 => do
    if ← take? .closeItems then return []
    if !first then
      if !(← take? .comma) then failure
    if ← take? .key then
      let key ← parseSingleKey handles fuel
      let value ←
        if ← take? .value then parseUnless handles .flow [.comma, .closeItems] fuel
        else pure missing
      return .mapping none none [(key, value)] :: (← parseFlowItems handles false fuel)
    else if ← take? .closeItems then return []
    else
      let n ← parseNode handles .flow fuel
      return n :: (← parseFlowItems handles false fuel)

/-- Reads the key of an entry that stands alone.  If it is missing, the next token is
passed over. -/
def parseSingleKey (handles : List (String × String)) : Nat → Parse Node
  | 0 => failure
  | fuel + 1 => do
    if ← isNext [.value, .comma, .closeItems] then
      advance
      return missing
    else parseNode handles .flow fuel

/-- Reads the rest of the entries in braces. -/
def parseFlowEntries (handles : List (String × String)) (first : Bool) :
    Nat → Parse (List (Node × Node))
  | 0 => failure
  | fuel + 1 => do
    if ← take? .closeEntries then return []
    if !first then
      if !(← take? .comma) then failure
    if ← take? .key then
      let key ← parseUnless handles .flow [.value, .comma, .closeEntries] fuel
      let value ←
        if ← take? .value then parseUnless handles .flow [.comma, .closeEntries] fuel
        else pure missing
      return (key, value) :: (← parseFlowEntries handles false fuel)
    else if ← take? .closeEntries then return []
    else
      let key ← parseNode handles .flow fuel
      return (key, missing) :: (← parseFlowEntries handles false fuel)

end

/-- The handles that always have a meaning. -/
def standardHandles : List (String × String) :=
  [("!", "!"), ("!!", "tag:yaml.org,2002:")]

/-- Reads the directives before a document: whether there is a version among them, and what
handles stand for.  A version must be 1.1 or 1.2; neither it nor a handle may be given
twice. -/
def parseDirectives (hasVersion : Bool) (handles : List (String × String)) :
    List Token → Option (List (String × String) × List Token)
  | .versionDirective major minor :: ts =>
    if hasVersion ∨ major ≠ 1 ∨ (minor ≠ 1 ∧ minor ≠ 2) then none
    else parseDirectives true handles ts
  | .handleDirective name expansion :: ts =>
    if (handles.lookup name).isSome then none
    else parseDirectives hasVersion ((name, expansion) :: handles) ts
  | ts => some (handles, ts)

/-- Reads the root of a document, and gives the tokens after it. -/
def parseRoot? (handles : List (String × String)) (ts : List Token) :
    Option (Node × List Token) :=
  ((parseNode handles .block (3 * ts.length + 3)).run { tokens := ts }).map fun (n, p) =>
    (n, p.tokens)

/-- Whether a token cannot belong to a document. -/
def isOutside : Token → Bool
  | .versionDirective .. | .handleDirective .. | .documentStart | .documentEnd => true
  | _ => false

/-- Reads the document that some tokens begin with.  Unless there are directives, three
hyphens need not precede it. -/
def parseDocument? (ts : List Token) : Option (Node × List Token) :=
  match ts with
  | [] => some (missing, [])
  | t :: _ =>
    match parseDirectives false [] ts with
    | none => none
    | some (handles, .documentStart :: ts) =>
      if ts.head?.all isOutside then some (missing, ts)
      else parseRoot? (handles ++ standardHandles) ts
    | some (_, _) =>
      match t with
      | .versionDirective .. | .handleDirective .. => none
      | _ => parseRoot? standardHandles ts

/-- The document of a stream. -/
def ofTokens? (ts : List Token) : Option Node :=
  (parseDocument? ts).bind fun (n, rest) =>
    if rest.all (· == .documentEnd) then some n else none

/-- The document that a text writes. -/
def ofText? (text : String) : Option Node :=
  (Token.ofText? text.toList).bind ofTokens?

end Node

end LiveMarkdown.Yaml
