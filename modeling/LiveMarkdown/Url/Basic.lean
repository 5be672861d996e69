import LiveMarkdown.Buffer.Attributes
import LiveMarkdown.Url.Host
import LiveMarkdown.Url.Path

/-!
# URLs

An absolute URL begins with a scheme.  The common schemes have a host, except that a
file URL need not have one; the others have a host if two slashes follow the scheme,
and otherwise either a path or a text that is not taken apart.  A URL is brought into
its normal form part by part.
-/

namespace LiveMarkdown

namespace Url

/-- The three families of schemes. -/
inductive SchemeKind where
  /-- Files. -/
  | file
  /-- The other common schemes, with the port that goes without saying. -/
  | special (port : Nat)
  /-- All other schemes. -/
  | other
deriving DecidableEq, Repr

namespace SchemeKind

/-- The family of a scheme. -/
def ofScheme (scheme : String) : SchemeKind :=
  if scheme = "file" then .file
  else if scheme = "http" ∨ scheme = "ws" then .special 80
  else if scheme = "https" ∨ scheme = "wss" then .special 443
  else if scheme = "ftp" then .special 21
  else .other

/-- Whether a scheme is a common one. -/
def isSpecial : SchemeKind → Bool
  | .other => false
  | _ => true

end SchemeKind

/-- A scheme in lower case and the text after its colon. -/
def scheme? (cs : List Char) : Option (List Char × List Char) :=
  let name := cs.takeWhile fun c => c.isAlphanum || c == '+' || c == '-' || c == '.'
  match name, cs.drop name.length with
  | first :: _, ':' :: rest =>
    if first.isAlpha then some (name.map Char.toLower, rest) else none
  | _, _ => none

/-- Whether a character ends the part of a URL that names the host. -/
def endsAuthority (special : Bool) (c : Char) : Bool :=
  c == '/' || c == '?' || c == '#' || (special && c == '\\')

/-- The text of a user name and a password, which a colon separates, together with the
at sign.  An empty password is left out together with its colon. -/
def credentials (cs : List Char) : List Char :=
  let name := cs.takeWhile (· ≠ ':')
  let password := (cs.drop name.length).drop 1
  let text := encode inUserSet name ++
    (if password.isEmpty then [] else ':' :: encode inUserSet password)
  if text.isEmpty then [] else text ++ ['@']

/-- The normal form of the user name and the password, and the text after them.  The
last at sign ends them.  Without a user name and a password the host must not be empty. -/
def userInfo? (special : Bool) (cs : List Char) : Option (List Char × List Char) :=
  let authority := cs.takeWhile fun c => !endsAuthority special c
  if authority.contains '@' then
    let host := (authority.reverse.takeWhile (· ≠ '@')).reverse
    let user := authority.take (authority.length - host.length - 1)
    let rest := host ++ cs.drop authority.length
    if user.isEmpty && rest.head?.any (endsAuthority special) then none
    else some (credentials user, rest)
  else some ([], cs)

/-- The host at the start of a text, and the text after it.  A colon inside brackets
does not end it. -/
def cutHost (special : Bool) (inside : Bool) (reversed : List Char) :
    List Char → List Char × List Char
  | [] => (reversed.reverse, [])
  | c :: cs =>
    if endsAuthority special c || (c == ':' && !inside) then (reversed.reverse, c :: cs)
    else cutHost special (if c = '[' then true else if c = ']' then false else inside)
      (c :: reversed) cs

/-- The normal form of a port, and the text after it.  A port that goes without saying is
left out together with its colon. -/
def port? (kind : SchemeKind) (cs : List Char) : Option (List Char × List Char) :=
  let digits := cs.takeWhile Char.isDigit
  let rest := cs.drop digits.length
  match readDigits? 10 digits with
  | none => none
  | some n =>
    if n > 0xFFFF || !(rest.head?.all (endsAuthority true)) then none
    else if digits.isEmpty || kind = .special n then some ([], rest)
    else some (':' :: decimal n, rest)

/-- The normal form of the path of a URL with a host, and the text after it. -/
def pathAfterHost (kind : SchemeKind) (cs : List Char) : PathReading × List Char :=
  let special := kind.isSpecial
  let file := kind = .file
  match cs with
  | [] => if special then PathReading.start.read special file [] else (.start, [])
  | c :: rest =>
    if c = '/' ∨ (special ∧ c = '\\') then PathReading.start.read special file rest
    else if special ∨ !(c = '?' ∨ c = '#') then PathReading.start.read special file cs
    else (.start, cs)

/-- The normal form of a query and a fragment. -/
def tail (special : Bool) (cs : List Char) : List Char :=
  match cs with
  | '?' :: rest =>
    let query := rest.takeWhile (· ≠ '#')
    let set (c : Char) : Bool := inQuerySet c || (special && c == '\'')
    '?' :: encode set query ++ fragment (rest.drop query.length)
  | cs => fragment cs
where
  /-- The normal form of a fragment. -/
  fragment : List Char → List Char
    | '#' :: rest => '#' :: encode inFragmentSet rest
    | _ => []

/-- The normal form of what follows the two slashes after the scheme of a URL that is no
file URL. -/
def afterSlashes? (kind : SchemeKind) (cs : List Char) : Option (List Char) := do
  let special := kind.isSpecial
  let (user, rest) ← userInfo? special cs
  let (hostText, rest) := cutHost special false [] rest
  guard (!(special && hostText.isEmpty))
  let host ← if special then host? hostText else opaqueHost? hostText
  guard (!(host.isEmpty && (rest.head? == some ':' || !user.isEmpty)))
  let (port, rest) ← match rest with
    | ':' :: rest => port? kind rest
    | _ => some ([], rest)
  let (path, rest) := pathAfterHost kind rest
  return '/' :: '/' :: user ++ host ++ port ++ path.text ++ tail special rest

/-- The normal form of what follows the scheme of a file URL.  The local host is left
out, and a text that names a drive is not a host. -/
def file? (cs : List Char) : Option (List Char) :=
  let isSlash (c : Char) : Bool := c == '/' || c == '\\'
  let finish (host : List Char) (p : PathReading × List Char) : List Char :=
    '/' :: '/' :: (if p.1.drive then [] else host) ++ filePath p.1.text ++ tail true p.2
  let read := PathReading.start.read true true
  match cs with
  | a :: b :: rest =>
    if isSlash a && isSlash b then
      let hostText := rest.takeWhile fun c => !endsAuthority true c
      if hostText.isEmpty || isDrive hostText then some (finish [] (read rest))
      else
        (host? hostText).map fun host =>
          let rest := rest.drop hostText.length
          if host = "localhost".toList then finish [] (read rest)
          else finish host (pathAfterHost .file rest)
    else some (finish [] (read (if isSlash a then b :: rest else cs)))
  | [a] => some (finish [] (read (if isSlash a then [] else cs)))
  | [] => some (finish [] (read []))

/-- The normal form of what follows the scheme of a URL of another family, unless two
slashes do. -/
def withoutHost (cs : List Char) : List Char :=
  match cs with
  | '/' :: rest =>
    let (path, rest) := PathReading.start.read false false rest
    let text := path.text
    let text := if ['/', '/'].isPrefixOf text then '/' :: '.' :: text else text
    text ++ tail false rest
  | cs =>
    let body := cs.takeWhile fun c => c ≠ '?' ∧ c ≠ '#'
    encode (fun _ => false) body ++ tail false (cs.drop body.length)

/-- The normal form of an absolute URL.  Control characters and spaces around it and line
ends and tabs inside it are dropped. -/
def normal? (cs : List Char) : Option (List Char) := do
  let isOuter (c : Char) : Bool := c ≤ ' '
  let trimmed := ((cs.dropWhile isOuter).reverse.dropWhile isOuter).reverse
  let text := trimmed.filter fun c => c ≠ '\t' ∧ c ≠ '\n' ∧ c ≠ '\r'
  let (scheme, rest) ← scheme? text
  let kind := SchemeKind.ofScheme (String.ofList scheme)
  let body ← match kind, rest with
    | .file, _ => file? rest
    | .special _, _ => afterSlashes? kind (rest.dropWhile fun c => c == '/' || c == '\\')
    | .other, '/' :: '/' :: rest => afterSlashes? kind rest
    | .other, _ => some (withoutHost rest)
  return scheme ++ ':' :: body

end Url

/-- The target of a link with a given destination, if that is an absolute URL but for the
white space around it. -/
def LinkTarget.ofText? (destination : String) : Option LinkTarget :=
  let trimmed := ((destination.toList.dropWhile isBlank).reverse.dropWhile isBlank).reverse
  (Url.normal? trimmed).map fun cs => ⟨String.ofList cs⟩

end LiveMarkdown
