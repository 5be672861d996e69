import LiveMarkdown.Url.Domain

/-!
# Hosts

A host is a name or an address.  An address of version four is written with up to four
numbers, each in base eight, ten or sixteen, of which the last one fills all places
that are left.  An address of version six is written in brackets, with up to eight
numbers in base sixteen; two colons stand for a run of zeros, and the last two numbers
may be written as an address of version four.
-/

namespace LiveMarkdown.Url

/-- The number that a part of an address of version four writes. -/
def addressNumber? (cs : List Char) : Option Nat :=
  match cs with
  | [] => none
  | '0' :: 'x' :: rest => readDigits? 16 rest
  | '0' :: 'X' :: rest => readDigits? 16 rest
  | '0' :: c :: rest => readDigits? 8 (c :: rest)
  | cs => readDigits? 10 cs

/-- The parts of a name, without an empty part at the end. -/
def addressParts (cs : List Char) : List (List Char) :=
  let parts := pieces (· == '.') cs
  if parts.getLast? = some [] then parts.dropLast else parts

/-- Whether a name must be an address because its last part is a number. -/
def endsInNumber (cs : List Char) : Bool :=
  match (addressParts cs).getLast? with
  | none => false
  | some last => (!last.isEmpty && last.all Char.isDigit) || (addressNumber? last).isSome

/-- The address of version four that a name writes. -/
def address4? (cs : List Char) : Option Nat := do
  let parts := addressParts cs
  guard (parts.length ≤ 4)
  let numbers ← parts.mapM addressNumber?
  let last ← numbers.getLast?
  let front := numbers.dropLast
  guard (front.all (· < 256) && last < Nat.pow 256 (4 - front.length))
  return (front.foldl (fun n m => 256 * n + m) 0) * Nat.pow 256 (4 - front.length) + last

/-- A natural number in base ten. -/
def decimal (n : Nat) : List Char :=
  Nat.toDigits 10 n

/-- The text of an address of version four. -/
def address4Text (n : Nat) : List Char :=
  List.intercalate ['.']
    [decimal (n / 0x1000000 % 256), decimal (n / 0x10000 % 256), decimal (n / 0x100 % 256),
      decimal (n % 256)]

/-- A byte in base ten without leading zeros. -/
def byte? (cs : List Char) : Option Nat := do
  guard (!cs.isEmpty && cs.all Char.isDigit && (cs.length == 1 || cs.head? != some '0'))
  let n ← readDigits? 10 cs
  guard (n < 256)
  return n

/-- The groups that a part of an address of version six writes between two colons, where
only the last one may be an address of version four. -/
def group? (last : Bool) (cs : List Char) : Option (List Nat) :=
  if cs.contains '.' then do
    guard last
    match ← (pieces (· == '.') cs).mapM byte? with
    | [a, b, c, d] => return [256 * a + b, 256 * c + d]
    | _ => none
  else do
    guard (!cs.isEmpty && cs.length ≤ 4)
    return [← readDigits? 16 cs]

/-- The groups of a list of parts. -/
def groupList? (last : Bool) : List (List Char) → Option (List Nat)
  | [] => some []
  | [part] => group? last part
  | part :: parts => do
    return (← group? false part) ++ (← groupList? last parts)

/-- The groups that a text writes; there may be none. -/
def groups? (last : Bool) (cs : List Char) : Option (List Nat) :=
  if cs.isEmpty then some [] else groupList? last (pieces (· == ':') cs)

/-- Cuts a text at the first two colons in a row. -/
def cutAtRun? (reversed : List Char) : List Char → Option (List Char × List Char)
  | ':' :: ':' :: rest => some (reversed.reverse, rest)
  | c :: rest => cutAtRun? (c :: reversed) rest
  | [] => none

/-- The eight groups of an address of version six. -/
def address6? (cs : List Char) : Option (List Nat) := do
  match cutAtRun? [] cs with
  | none =>
    let groups ← groups? true cs
    guard (groups.length = 8)
    return groups
  | some (left, right) =>
    let left ← groups? false left
    let right ← groups? true right
    guard (left.length + right.length < 8)
    return left ++ List.replicate (8 - left.length - right.length) 0 ++ right

/-- The longest run of at least two zeros and the first one of that length: where it
starts and how long it is.  The arguments are the best run so far, the position, and the
length of the run that ends there. -/
def longestZeros (best : Nat × Nat) (i run : Nat) : List Nat → Nat × Nat
  | [] => best
  | n :: rest =>
    let run := if n = 0 then run + 1 else 0
    let best := if best.2 < run ∧ 2 ≤ run then (i + 1 - run, run) else best
    longestZeros best (i + 1) run rest

/-- The text of an address of version six, without brackets. -/
def address6Text (groups : List Nat) : List Char :=
  let write (groups : List Nat) : List Char :=
    List.intercalate [':'] (groups.map (Nat.toDigits 16))
  let (start, length) := longestZeros (0, 0) 0 0 groups
  if length = 0 then write groups
  else write (groups.take start) ++ [':', ':'] ++ write (groups.drop (start + length))

/-- The host of a URL with a common scheme: an address or a domain name. -/
def host? (cs : List Char) : Option (List Char) :=
  match cs with
  | '[' :: rest => bracketed? rest
  | _ => do
    let name ← normalDomain? (← decode? cs)
    guard (!name.isEmpty)
    if endsInNumber name then return address4Text (← address4? name)
    else return name
where
  /-- An address of version six that lacks its first bracket. -/
  bracketed? (rest : List Char) : Option (List Char) := do
    guard (rest.getLast? = some ']')
    return '[' :: address6Text (← address6? rest.dropLast) ++ [']']

/-- The characters that the host of a URL with any other scheme must not hold. -/
def isForbiddenInHost (c : Char) : Bool :=
  c == '\x00' || c == '\t' || c == '\n' || c == '\r' || c == ' ' || c == '#' || c == '/' ||
    c == ':' || c == '<' || c == '>' || c == '?' || c == '@' || c == '[' || c == '\\' ||
    c == ']' || c == '^' || c == '|'

/-- The host of a URL with any other scheme; it may be empty. -/
def opaqueHost? (cs : List Char) : Option (List Char) :=
  match cs with
  | '[' :: rest => host?.bracketed? rest
  | _ => if cs.any isForbiddenInHost then none else some (encode (fun _ => false) cs)

end LiveMarkdown.Url
