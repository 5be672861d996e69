import LiveMarkdown.Text.Direction
import LiveMarkdown.Text.Normal
import LiveMarkdown.Text.Split
import LiveMarkdown.Url.DomainTable
import LiveMarkdown.Url.Percent
import LiveMarkdown.Url.Punycode

/-!
# Domain names

A domain name is brought into its normal form: its characters are mapped, the result
is composed, and each of the labels between its full stops is checked and written in
ASCII.  A label that is already written in ASCII is checked by what it stands for.
-/

namespace LiveMarkdown.Url

/-- The ASCII characters that a domain name must not hold. -/
def isForbiddenInDomain (c : Char) : Bool :=
  isControl c || c == ' ' || c == '#' || c == '%' || c == '/' || c == ':' || c == '<' ||
    c == '>' || c == '?' || c == '@' || c == '[' || c == '\\' || c == ']' || c == '^' || c == '|'

/-- Whether a character stands for itself in a domain name. -/
def isValidInDomain (c : Char) : Bool :=
  inIntervals validIntervals c.toNat 0 validIntervals.size

/-- What a character of a domain name stands for, unless it is refused. -/
def mapDomainChar? (c : Char) : Option (List Char) :=
  if isValidInDomain c then some [c]
  else
    match mappedChars[c.toNat]? with
    | some cs => some cs
    | none => if inIntervals ignoredIntervals c.toNat 0 ignoredIntervals.size then some [] else none

/-- The class of the marks that take away the vowel of a letter. -/
def viramaClass : Nat := 9

/-- Whether a character that joins or separates letters may stand between the characters
`before`, the nearest first, and `after`. -/
def joinerAllowed (before : List Char) (c : Char) (after : List Char) : Bool :=
  let afterVirama := before.head?.any (Normal.combiningClass · == viramaClass)
  let next (cs : List Char) : Joining :=
    match cs.find? (joining · ≠ .transparent) with
    | some c => joining c
    | none => .none
  if c = '\u200D' then afterVirama
  else if c = '\u200C' then
    let backward := next before
    let forward := next after
    afterVirama || ((backward == .left || backward == .dual) &&
      (forward == .right || forward == .dual))
  else true

/-- Whether all characters that join or separate letters may stand where they do, where
the characters `before` precede the text, the nearest first. -/
def joinersAllowed (before : List Char) : List Char → Bool
  | [] => true
  | c :: cs => joinerAllowed before c cs && joinersAllowed (c :: before) cs

/-- Whether a label that is not in ASCII is in order. -/
def isValidLabel (label : List Char) : Bool :=
  label.all isValidInDomain && !label.head?.any Normal.isMark && joinersAllowed [] label

/-- Whether a character makes a name one that is written in both directions. -/
def isRightward (c : Char) : Bool :=
  direction c == .right || direction c == .arabicDigit

/-- Whether a label may be part of a name that is written in both directions. -/
def isOneDirectional (label : List Char) : Bool :=
  let ds := label.map direction
  let last := (ds.reverse.dropWhile (· == .mark)).head?
  match ds.head? with
  | none => true
  | some .left =>
    (ds.all fun d => d != .right && d != .arabicDigit && d != .control) &&
      (last == some .left || last == some .digit)
  | some .right =>
    (ds.all fun d => d != .left && d != .control) &&
      (last == some .right || last == some .digit || last == some .arabicDigit) &&
      !(ds.contains .digit && ds.contains .arabicDigit)
  | some _ => false

/-- How labels in ASCII begin that stand for others. -/
def asciiMark : List Char := ['x', 'n', '-', '-']

/-- A label, with the characters it stands for and its form in ASCII. -/
structure Label where
  /-- The characters it stands for. -/
  meaning : List Char
  /-- Its form in ASCII. -/
  ascii : List Char

namespace Label

/-- The label that some characters write, if it is in order. -/
def ofChars? (cs : List Char) : Option Label :=
  if asciiMark.isPrefixOf cs then
    match Punycode.decode? (cs.drop asciiMark.length) with
    | none => none
    | some meaning =>
      if cs.all (·.val < 0x80) && meaning.any (0x80 ≤ ·.val) && isValidLabel meaning &&
          Normal.composed meaning == meaning && !asciiMark.isPrefixOf meaning then
        some ⟨meaning, cs⟩
      else none
  else if cs.all (·.val < 0x80) then some ⟨cs, cs⟩
  else if isValidLabel cs then some ⟨cs, asciiMark ++ Punycode.encode cs⟩
  else none

end Label

/-- The normal form of a domain name, if it has one. -/
def normalDomain? (cs : List Char) : Option (List Char) := do
  let mapped ← cs.mapM mapDomainChar?
  let name := Normal.composed mapped.flatten
  guard (!name.any isForbiddenInDomain)
  let labels ← (pieces (· == '.') name).mapM Label.ofChars?
  let mixed := labels.any fun l => l.meaning.any isRightward
  guard (!mixed || labels.all fun l => isOneDirectional l.meaning)
  return List.intercalate ['.'] (labels.map Label.ascii)

end LiveMarkdown.Url
