import LiveMarkdown.Text.Hidden

/-!
# Quoted text

A text between double quotation marks, on one line, in which every character can be seen.
A hidden character is written as its code in braces, or as a letter if it is one of the
most frequent ones.
-/

namespace LiveMarkdown

/-- A quoted character. -/
def quoteChar (c : Char) : List Char :=
  match c with
  | '\x00' => ['\\', '0']
  | '\t' => ['\\', 't']
  | '\r' => ['\\', 'r']
  | '\n' => ['\\', 'n']
  | '\\' => ['\\', '\\']
  | '"' => ['\\', '"']
  | c =>
    if isHidden c then '\\' :: 'u' :: '\x7b' :: (Nat.toDigits 16 c.toNat ++ ['\x7d']) else [c]

/-- A quoted text. -/
def quoted (cs : List Char) : String :=
  String.ofList ('"' :: (cs.flatMap quoteChar ++ ['"']))

end LiveMarkdown
