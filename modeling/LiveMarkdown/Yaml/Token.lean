import LiveMarkdown.Yaml.Scalar

/-!
# Tokens of YAML

The tokens of a stream, and how the tokens that are names are read: aliases, anchors, tags
and directives.  A tag is a handle, which stands for the beginning of the tag, and the
rest of the tag; a tag that is written in full has an empty handle.
-/

namespace LiveMarkdown.Yaml

/-- A token.  The start and the end of a block are not written, but follow from the
columns. -/
inductive Token where
  /-- The version that the next document asks for. -/
  | versionDirective (major minor : Nat)
  /-- What a handle stands for in the next document. -/
  | handleDirective (name expansion : String)
  /-- Three hyphens. -/
  | documentStart
  /-- Three dots. -/
  | documentEnd
  /-- The start of a block of items. -/
  | blockItems
  /-- The start of a block of entries. -/
  | blockEntries
  /-- The end of a block. -/
  | blockEnd
  /-- A bracket. -/
  | openItems
  /-- A bracket. -/
  | closeItems
  /-- A brace. -/
  | openEntries
  /-- A brace. -/
  | closeEntries
  /-- A hyphen before an item. -/
  | item
  /-- A comma. -/
  | comma
  /-- The start of a key, with or without a question mark. -/
  | key
  /-- A colon before a value. -/
  | value
  /-- A node that has been given a name. -/
  | alias (name : String)
  /-- The name of the next node. -/
  | anchor (name : String)
  /-- The tag of the next node. -/
  | tag (handle rest : String)
  /-- A scalar. -/
  | scalar (style : ScalarStyle) (text : String)
deriving DecidableEq, Repr, Inhabited

namespace Token

/-- A token that has been read and the place after it. -/
abbrev Scanned :=
  Token × Reader

/-! ## Names -/

/-- Whether a name may end before some characters. -/
def endsName (cs : List Char) : Bool :=
  endsWord cs || (cs.head?.any fun c =>
    c == '?' || c == ':' || c == ',' || c == ']' || c == '\x7d' || c == '%' || c == '@' ||
      c == '\x60')

/-- Reads a name from behind its mark. -/
def scanName? (r : Reader) : Option (String × Reader) :=
  let name := r.rest.takeWhile isNameChar
  let after := r.skipWhile isNameChar
  if name.isEmpty || !endsName after.rest then none else some (String.ofList name, after)

/-! ## Tags -/

/-- The characters of tags.  Inside angle brackets there are more of them. -/
def isTagChar (inBrackets : Bool) (c : Char) : Bool :=
  isNameChar c || c == ';' || c == '/' || c == '?' || c == ':' || c == '@' || c == '&' ||
    c == '=' || c == '+' || c == '$' || c == '.' || c == '!' || c == '~' || c == '*' ||
    c == '\x27' || c == '(' || c == ')' ||
    (inBrackets && (c == ',' || c == '[' || c == ']'))

/-- The number of bytes that follow the first byte of an encoded character. -/
def trailingBytes? (n : Nat) : Option Nat :=
  if n < 0x80 then some 0
  else if n / 0x20 = 6 then some 1
  else if n / 0x10 = 14 then some 2
  else if n / 0x08 = 30 then some 3
  else none

/-- Reads on in a tag, where a percent sign and two digits stand for a byte.  `expected` is
the number of bytes that an encoded character still needs. -/
def scanTagText (inBrackets : Bool) (p : Position) (bytes : List UInt8) (expected : Nat) :
    List Char → Option (List UInt8 × Reader)
  | '%' :: a :: b :: cs =>
    match readDigits? 16 [a, b] with
    | none => none
    | some n =>
      match expected with
      | 0 =>
        (trailingBytes? n).bind fun expected =>
          scanTagText inBrackets (p.advance 3) (n.toUInt8 :: bytes) expected cs
      | expected + 1 =>
        if n / 0x40 = 2 then
          scanTagText inBrackets (p.advance 3) (n.toUInt8 :: bytes) expected cs
        else none
  | c :: cs =>
    if expected ≠ 0 ∨ c = '%' then none
    else if isTagChar inBrackets c then
      scanTagText inBrackets p.next (c.toNat.toUInt8 :: bytes) 0 cs
    else some (bytes, ⟨p, c :: cs⟩)
  | [] => if expected ≠ 0 then none else some (bytes, ⟨p, []⟩)

/-- Reads the text of a tag. -/
def scanTagText? (inBrackets : Bool) (r : Reader) : Option (String × Reader) :=
  (scanTagText inBrackets r.position [] 0 r.rest).map fun (bytes, r) =>
    ((String.fromUTF8? ⟨bytes.reverse.toArray⟩).getD "", r)

/-- Reads the text of a tag, which must not be empty. -/
def scanNonemptyTagText? (inBrackets : Bool) (r : Reader) : Option (String × Reader) :=
  (scanTagText? inBrackets r).bind fun (text, after) =>
    if after.position = r.position then none else some (text, after)

/-- Reads a handle: an exclamation mark, and perhaps a name and another one. -/
def scanHandle? (r : Reader) : Option (String × Reader) :=
  if r.isAt '!' then
    let name := (r.skip 1).rest.takeWhile isNameChar
    let after := (r.skip 1).skipWhile isNameChar
    if after.isAt '!' then some (String.ofList ('!' :: name ++ ['!']), after.skip 1)
    else some (String.ofList ('!' :: name), after)
  else none

/-- Whether a handle ends with an exclamation mark of its own. -/
def isClosedHandle (handle : String) : Bool :=
  handle.toList.getLast? == some '!' && handle != "!"

/-- Reads the handle and the rest of a tag from its exclamation mark on. -/
def scanTagParts? (r : Reader) : Option (String × String × Reader) :=
  if (r.skip 1).isAt '<' then
    (scanNonemptyTagText? true (r.skip 2)).bind fun (text, after) =>
      if after.isAt '>' then some ("", text, after.skip 1) else none
  else
    (scanHandle? r).bind fun (handle, after) =>
      if isClosedHandle handle then
        (scanNonemptyTagText? false after).map fun (text, after) => (handle, text, after)
      else
        (scanTagText? false after).map fun (text, after) =>
          let rest := String.ofList (handle.toList.drop 1) ++ text
          if rest.isEmpty then ("", "!", after) else ("!", rest, after)

/-- Reads a tag from its exclamation mark on. -/
def scanTag? (inFlow : Bool) (r : Reader) : Option Scanned :=
  (scanTagParts? r).bind fun (handle, rest, after) =>
    if endsWord after.rest || (inFlow && after.isAt ',') then some (.tag handle rest, after)
    else none

/-! ## Directives -/

/-- Reads a number of at most nine digits. -/
def scanVersionNumber? (r : Reader) : Option (Nat × Reader) :=
  let digits := r.rest.takeWhile Char.isDigit
  if digits.isEmpty || 9 < digits.length then none
  else (readDigits? 10 digits).map fun n => (n, r.skipWhile Char.isDigit)

/-- Reads a version. -/
def scanVersion? (r : Reader) : Option Scanned :=
  (scanVersionNumber? r.skipSeparators).bind fun (major, r) =>
    if r.isAt '.' then
      (scanVersionNumber? (r.skip 1)).map fun (minor, r) => (.versionDirective major minor, r)
    else none

/-- Reads a handle and what it stands for. -/
def scanHandleMeaning? (r : Reader) : Option Scanned :=
  (scanHandle? r.skipSeparators).bind fun (handle, r) =>
    if (isClosedHandle handle || handle == "!") && r.rest.head?.any isSeparator then
      (scanNonemptyTagText? true r.skipSeparators).bind fun (text, r) =>
        if endsWord r.rest then some (.handleDirective handle text, r) else none
    else none

/-- Reads a directive from behind its percent sign. -/
def scanDirective? (r : Reader) : Option Scanned :=
  let name := String.ofList (r.rest.takeWhile isNameChar)
  let after := r.skipWhile isNameChar
  let scanned :=
    if !endsWord after.rest then none
    else if name == "YAML" then scanVersion? after
    else if name == "TAG" then scanHandleMeaning? after
    else none
  scanned.bind fun (token, r) => r.finishLine?.map fun r => (token, r)

end Token

end LiveMarkdown.Yaml
