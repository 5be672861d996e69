import LiveMarkdown.Text.Split
import LiveMarkdown.Url.Percent

/-!
# Paths

A path is a list of segments, each after a slash.  A segment of one full stop stands
for nothing, and one of two full stops takes away the segment before it, where a full
stop may be encoded.  A segment that names a drive, a letter and a colon, is never
taken away; in a file URL it may be written with a vertical bar, ends where the colon
does, and makes the host meaningless.
-/

namespace LiveMarkdown.Url

/-- Whether some characters name a drive. -/
def isDrive (cs : List Char) : Bool :=
  match cs with
  | [c, d] => c.isAlpha && (d == ':' || d == '|')
  | _ => false

/-- A segment with encoded full stops decoded, as far as it starts with full stops. -/
def plainDots : List Char → List Char
  | '%' :: '2' :: 'e' :: rest => '.' :: plainDots rest
  | '%' :: '2' :: 'E' :: rest => '.' :: plainDots rest
  | '.' :: rest => '.' :: plainDots rest
  | cs => cs

/-- A path that is being read. -/
structure PathReading where
  /-- The segments that are complete, the last one first. -/
  done : List (List Char)
  /-- The segment that is being read, in reverse and encoded. -/
  segment : List Char
  /-- Whether the segment follows a drive without a slash between them. -/
  glued : Bool
  /-- Whether the path has named a drive, which makes the host meaningless. -/
  drive : Bool

namespace PathReading

/-- An empty path. -/
def start : PathReading :=
  ⟨[], [], false, false⟩

/-- Takes the last segment away, unless it names a drive. -/
def up (done : List (List Char)) : List (List Char) :=
  match done with
  | [] => []
  | last :: rest => if isDrive last then last :: rest else rest

/-- Ends a segment, which is followed by a slash if `slash` holds. -/
def close (file slash : Bool) (p : PathReading) : PathReading :=
  let segment := p.segment.reverse
  let dots := if p.glued then [] else plainDots segment
  if dots = ['.', '.'] then { p with done := if slash then up p.done else [] :: up p.done, segment := [] }
  else if dots = ['.'] then
    { p with done := if slash then p.done else [] :: p.done, segment := [] }
  else
    let names := file && !p.glued && p.done.isEmpty && isDrive segment
    let segment := if names then segment.take 1 ++ [':'] else segment
    ⟨segment :: p.done, [], false, p.drive || names⟩

/-- Reads a character other than a slash. -/
def push (file : Bool) (p : PathReading) (c : Char) : PathReading :=
  let p :=
    match p.segment with
    | [':', letter] =>
      if file && p.done.isEmpty && letter.isAlpha && !p.glued then
        { p with done := [p.segment.reverse], segment := [], glued := true }
      else p
    | _ => p
  { p with segment := (encodeChar inPathSet c).reverseAux p.segment }

/-- Reads a path up to its end, which is at a question mark or a number sign.  The
result comes with the rest of the text. -/
def read (special file : Bool) (p : PathReading) : List Char → PathReading × List Char
  | [] => (p.close file false, [])
  | c :: cs =>
    if c = '/' ∨ (special ∧ c = '\\') then (p.close file true).read special file cs
    else if c = '?' ∨ c = '#' then (p.close file false, c :: cs)
    else (p.push file c).read special file cs

/-- The text of the segments, each after a slash. -/
def text (p : PathReading) : List Char :=
  (p.done.reverse.map fun segment => '/' :: segment).flatten

end PathReading

/-- The path of a file URL: slashes at its start are one slash. -/
def filePath (cs : List Char) : List Char :=
  '/' :: cs.dropWhile (· == '/')

end LiveMarkdown.Url
