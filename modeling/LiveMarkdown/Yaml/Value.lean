import LiveMarkdown.Number.Reading
import LiveMarkdown.Yaml.Node

/-!
# Values of YAML

What a plain scalar stands for follows from its text: nothing, a truth value, a whole
number, a real number, or the text itself.  The readers of this module say what is asked
for, and a node either gives it or does not.  A literal scalar gives what a plain one
would if its tag says so.
-/

namespace LiveMarkdown.Yaml

/-! ## Plain text -/

/-- Whether a text stands for nothing. -/
def isNull (text : String) : Bool :=
  ["~", "null", "Null", "NULL"].contains text

/-- The truth value that a text stands for. -/
def truth? (text : String) : Option Bool :=
  if ["true", "True", "TRUE"].contains text then some true
  else if ["false", "False", "FALSE"].contains text then some false
  else none

/-- Some characters without the plus sign that they may begin with. -/
def withoutPlus (cs : List Char) : List Char :=
  if cs.head? = some '+' then cs.tail else cs

/-- Whether some characters are digits with a zero in front, perhaps after a sign.  Such a
text is no number. -/
def hasLeadingZero (cs : List Char) : Bool :=
  let digits := if cs.head? = some '-' ∨ cs.head? = some '+' then cs.tail else cs
  1 < digits.length && digits.head? == some '0' && digits.all Char.isDigit

/-- The size of a whole number: in base sixteen, eight or two behind a mark, or else in base
ten. -/
def size? (cs : List Char) : Option Nat :=
  match cs with
  | '0' :: 'x' :: digits => readNumber? 16 digits
  | '0' :: 'o' :: digits => readNumber? 8 digits
  | '0' :: 'b' :: digits => readNumber? 2 digits
  | digits => if hasLeadingZero digits then none else readNumber? 10 digits

/-- The number below `bound` that a text stands for. -/
def natural? (bound : Nat) (text : String) : Option Nat :=
  (size? (withoutPlus text.toList)).filter (· < bound)

/-- Whether a text stands for a whole number of at most 128 bits. -/
def isInteger (text : String) : Bool :=
  (natural? (Nat.pow 2 128) text).isSome ||
    match text.toList with
    | '-' :: cs => (size? cs).any (· ≤ Nat.pow 2 127)
    | _ => false

/-- The real number that a text stands for. -/
def real? (text : String) : Option Float :=
  let cs := text.toList
  let body := withoutPlus cs
  if [".inf", ".Inf", ".INF"].contains (String.ofList body) then some (1 / 0)
  else if ["-.inf", "-.Inf", "-.INF"].contains text then some (-1 / 0)
  else if [".nan", ".NaN", ".NAN"].contains text then some (0 / 0)
  else if cs.head? = some '+' ∧ (body.head? = some '+' ∨ body.head? = some '-') then none
  else readSignedDecimal? body

/-- Whether a plain text would stand for something else than itself. -/
def isAmbiguous (text : String) : Bool :=
  text.isEmpty || isNull text || (truth? text).isSome || isInteger text ||
    hasLeadingZero text.toList || (real? text).isSome

/-! ## Nodes -/

/-- A document, whose root is needed to find what an alias stands for. -/
structure Document where
  /-- The root. -/
  root : Node

namespace Document

/-- The document that a text writes. -/
def ofText? (text : String) : Option Document :=
  (Node.ofText? text).map Document.mk

variable (d : Document)

/-- A node, or what it stands for if it is an alias. -/
def target? : Node → Option Node
  | .alias number => d.root.find? number
  | n => some n

/-- The text of a scalar of any style. -/
def text? (n : Node) : Option String :=
  match d.target? n with
  | some (.scalar _ _ _ text) => some text
  | _ => none

/-- The text of a scalar that stands for a value of a kind. -/
def valueText? (kind : String) (n : Node) : Option String :=
  match d.target? n with
  | some (.scalar _ tag style text) =>
    if style = .plain ∨ (style = .literal ∧ tag = some ("tag:yaml.org,2002:" ++ kind)) then
      some text
    else none
  | _ => none

/-- The number below `bound` that a node gives. -/
def naturalOf? (bound : Nat) (n : Node) : Option Nat :=
  (d.valueText? "int" n).bind (natural? bound)

/-- The real number that a node gives, in single precision. -/
def realOf? (n : Node) : Option Float32 :=
  ((d.valueText? "float" n).bind real?).map Float.toFloat32

/-- The truth value that a node gives. -/
def truthOf? (n : Node) : Option Bool :=
  (d.valueText? "bool" n).bind truth?

/-- The name that a node gives: the text of a scalar, or a tag of its own with nothing
behind it. -/
def nameOf? (n : Node) : Option String :=
  match d.target? n with
  | some (.scalar _ tag style text) =>
    match (tag.getD "").toList with
    | '!' :: name =>
      if style = .plain ∧ (text.isEmpty ∨ isNull text) then
        some (if name.isEmpty then "!" else String.ofList name)
      else none
    | _ => some text
  | _ => none

/-- The entries that a node gives.  A node that is missing has none. -/
def entriesOf? (n : Node) : Option (List (Node × Node)) :=
  match d.target? n with
  | some (.mapping _ _ entries) => some entries
  | some (.scalar _ _ .plain "") => some []
  | _ => none

/-- The values of the fields that a node gives, for some known fields.  All keys must be
texts, and a known field must not be given twice. -/
def fieldsOf? (known : List String) (n : Node) : Option (List (String × Node)) := do
  let named ← (← d.entriesOf? n).mapM fun (key, value) => do return (← d.text? key, value)
  let fields := named.filter fun (name, _) => known.contains name
  guard (fields.map Prod.fst).Nodup
  return fields

end Document

/-- The value of a field that must be given. -/
def required {α : Type} (fields : List (String × Node)) (name : String)
    (read : Node → Option α) : Option α :=
  (fields.lookup name).bind read

/-- The value of a field that need not be given. -/
def optional {α : Type} (fields : List (String × Node)) (name : String) (default : α)
    (read : Node → Option α) : Option α :=
  match fields.lookup name with
  | some n => read n
  | none => some default

end LiveMarkdown.Yaml
