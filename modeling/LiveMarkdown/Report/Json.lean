/-!
# JSON

Values of JSON, and their text with one item or field to a line, indented by two spaces
for each list or object around it.  Fields keep their order.
-/

namespace LiveMarkdown

/-- A value of JSON.  A number is given as it is written. -/
inductive JsonValue where
  /-- Nothing. -/
  | null
  /-- A truth value. -/
  | bool (value : Bool)
  /-- A number. -/
  | number (text : String)
  /-- A text. -/
  | text (value : String)
  /-- A list. -/
  | list (items : List JsonValue)
  /-- An object. -/
  | object (fields : List (String × JsonValue))
deriving Inhabited

namespace JsonValue

/-- A natural number. -/
def nat (n : Nat) : JsonValue :=
  .number (toString n)

/-- A character of a text. -/
def escape (c : Char) : List Char :=
  match c with
  | '"' => ['\\', '"']
  | '\\' => ['\\', '\\']
  | '\x08' => ['\\', 'b']
  | '\x0c' => ['\\', 'f']
  | '\n' => ['\\', 'n']
  | '\r' => ['\\', 'r']
  | '\t' => ['\\', 't']
  | c =>
    let n := c.toNat
    if n < 0x20 then ['\\', 'u', '0', '0', Nat.digitChar (n / 16), Nat.digitChar (n % 16)]
    else [c]

/-- A text between quotation marks. -/
def quoteText (s : String) : String :=
  String.ofList ('"' :: (s.toList.flatMap escape ++ ['"']))

/-- The start of a line inside some number of lists and objects. -/
def newline (depth : Nat) : String :=
  String.ofList ('\n' :: List.replicate (2 * depth) ' ')

mutual

/-- The text of a value inside some number of lists and objects. -/
def render (depth : Nat) : JsonValue → String
  | .null => "null"
  | .bool true => "true"
  | .bool false => "false"
  | .number written => written
  | .text value => quoteText value
  | .list [] => "[]"
  | .list (item :: rest) =>
    "[" ++ newline (depth + 1) ++ render (depth + 1) item ++ renderItems (depth + 1) rest ++
      newline depth ++ "]"
  | .object [] => "\x7b\x7d"
  | .object ((name, value) :: rest) =>
    "\x7b" ++ newline (depth + 1) ++ quoteText name ++ ": " ++ render (depth + 1) value ++
      renderFields (depth + 1) rest ++ newline depth ++ "\x7d"

/-- The text of the items after the first one. -/
def renderItems (depth : Nat) : List JsonValue → String
  | [] => ""
  | item :: rest => "," ++ newline depth ++ render depth item ++ renderItems depth rest

/-- The text of the fields after the first one. -/
def renderFields (depth : Nat) : List (String × JsonValue) → String
  | [] => ""
  | (name, value) :: rest =>
    "," ++ newline depth ++ quoteText name ++ ": " ++ render depth value ++
      renderFields depth rest

end

end JsonValue

end LiveMarkdown
