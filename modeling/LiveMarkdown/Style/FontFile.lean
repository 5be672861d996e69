import LiveMarkdown.Files.Basic
import LiveMarkdown.Style.Font

/-!
# Font files

A font file is a directory of tables, or a collection of several such directories, of
which the first one counts.  Three tables are required; they give the number of units of
the em, the vertical metrics, and the number of glyphs.  A fourth one may give other
metrics, which are used if it says so, or if the first ones are missing.
-/

namespace LiveMarkdown

/-- Why a file is no font. -/
inductive FontFileError where
  /-- It does not begin as one. -/
  | unknownFormat
  /-- The directory is cut short. -/
  | malformed
  /-- The collection is empty. -/
  | emptyCollection
  /-- The table with the units of the em is missing or malformed. -/
  | noHead
  /-- The table with the vertical metrics is missing or malformed. -/
  | noMetrics
  /-- The table with the number of glyphs is missing or malformed. -/
  | noProfile
deriving DecidableEq, Repr

/-- The wording of a cause. -/
def FontFileError.message : FontFileError → String
  | .unknownFormat =>
    "Face data must start with 0x00010000, 0x74727565, 0x4F54544F or 0x74746366."
  | .malformed => "An attempt to read out of bounds detected."
  | .emptyCollection => "The face index is larger than the number of faces in the font."
  | .noHead => "The head table is missing or malformed."
  | .noMetrics => "The hhea table is missing or malformed."
  | .noProfile => "The maxp table is missing or malformed."

namespace FontFile

/-- The unsigned number of two bytes at a position, the high one first. -/
def word? (data : ByteArray) (i : Nat) : Option Nat :=
  match data[i]?, data[i + 1]? with
  | some high, some low => some (256 * high.toNat + low.toNat)
  | _, _ => none

/-- The signed number of two bytes at a position. -/
def signedWord? (data : ByteArray) (i : Nat) : Option Int :=
  (word? data i).map fun n => if n < 0x8000 then n else (n : Int) - 0x10000

/-- The unsigned number of four bytes at a position. -/
def long? (data : ByteArray) (i : Nat) : Option Nat :=
  match word? data i, word? data (i + 2) with
  | some high, some low => some (0x10000 * high + low)
  | _, _ => none

/-- A part of some data, if it lies inside. -/
def part? (data : ByteArray) (start length : Nat) : Option ByteArray :=
  if start + length ≤ data.size then some (data.extract start (start + length)) else none

/-- How a directory begins. -/
def isDirectory (magic : Nat) : Bool :=
  magic == 0x00010000 || magic == 0x74727565 || magic == 0x4F54544F

/-- How a collection begins. -/
def collectionMagic : Nat := 0x74746366

/-- The position of the directory that counts, behind its first four bytes. -/
def directory (data : ByteArray) : Except FontFileError Nat :=
  match long? data 0 with
  | none => .error .unknownFormat
  | some magic =>
    if isDirectory magic then .ok 4
    else if magic = collectionMagic then
      match long? data 8 with
      | none => .error .malformed
      | some faces =>
        if data.size < 12 + 4 * faces then .error .malformed
        else if faces = 0 then .error .emptyCollection
        else
          match long? data 12 with
          | none => .error .malformed
          | some start =>
            if start < 12 + 4 * faces ∨ data.size < start then .error .malformed
            else
              match long? data start with
              | none => .error .unknownFormat
              | some magic =>
                if isDirectory magic then .ok (start + 4) else .error .unknownFormat
    else .error .unknownFormat

/-- An entry of a directory: the name of a table, given as a number, and its data, which
are empty if they are out of bounds. -/
structure Entry where
  /-- The name. -/
  name : Nat
  /-- The data. -/
  data : ByteArray

/-- The entry at a position. -/
def entry? (data : ByteArray) (i : Nat) : Option Entry :=
  match long? data i, long? data (i + 8), long? data (i + 12) with
  | some name, some start, some length => some ⟨name, (part? data start length).getD .empty⟩
  | _, _, _ => none

/-- The entries of the directory that counts. -/
def entries (data : ByteArray) : Except FontFileError (List Entry) :=
  match directory data with
  | .error e => .error e
  | .ok i =>
    match word? data i with
    | none => .error .malformed
    | some count =>
      if data.size < i + 8 + 16 * count then .error .malformed
      else .ok ((List.range count).filterMap fun k => entry? data (i + 8 + 16 * k))

/-- The data of a table: the last one of that name. -/
def table? (entries : List Entry) (name : Nat) : Option ByteArray :=
  (entries.reverse.find? (·.name == name)).map (·.data)

/-- The number of units of the em. -/
def unitsPerEm? (head : ByteArray) : Option Nat := do
  guard (54 ≤ head.size)
  let n ← word? head 18
  let format ← word? head 50
  guard (16 ≤ n && n ≤ 16384 && format ≤ 1)
  return n

/-- Vertical metrics in units of the em. -/
structure UnitMetrics where
  /-- How far the font reaches above the base line. -/
  ascender : Int
  /-- Where the font ends below the base line. -/
  descender : Int
  /-- The gap between two lines. -/
  leading : Int
deriving DecidableEq, Repr

/-- The metrics of the required table. -/
def unitMetrics? (hhea : ByteArray) : Option UnitMetrics := do
  guard (36 ≤ hhea.size)
  return ⟨← signedWord? hhea 4, ← signedWord? hhea 6, ← signedWord? hhea 8⟩

/-- The number of glyphs; there must be one. -/
def glyphCount? (maxp : ByteArray) : Option Nat := do
  let version ← long? maxp 0
  guard (version == 0x00005000 || version == 0x00010000)
  let n ← word? maxp 4
  guard (n != 0)
  return n

/-- The metrics of the fourth table. -/
structure OtherMetrics where
  /-- Whether they are used in any case. -/
  preferred : Bool
  /-- The metrics that are to be used. -/
  typographic : UnitMetrics
  /-- How far clipping reaches above the base line. -/
  clipAscender : Int
  /-- Where clipping ends below the base line. -/
  clipDescender : Int
deriving DecidableEq, Repr

/-- The metrics of the fourth table, whose least size depends on its version. -/
def otherMetrics? (os2 : ByteArray) : Option OtherMetrics := do
  let version ← word? os2 0
  let size ← [78, 86, 96, 96, 96, 100][version]?
  guard (size ≤ os2.size)
  let selection ← word? os2 62
  return {
    preferred := 4 ≤ version && selection / 128 % 2 == 1
    typographic := ⟨← signedWord? os2 68, ← signedWord? os2 70, ← signedWord? os2 72⟩
    clipAscender := ← signedWord? os2 74
    clipDescender := -(← signedWord? os2 76) }

/-- The first number that is not zero, or zero. -/
def firstNonzero (a b c : Int) : Int :=
  if a ≠ 0 then a else if b ≠ 0 then b else c

/-- The metrics that count. -/
def combine (required : UnitMetrics) (other : Option OtherMetrics) : UnitMetrics :=
  match other with
  | none => required
  | some other =>
    if other.preferred then other.typographic
    else
      ⟨firstNonzero required.ascender other.typographic.ascender other.clipAscender,
        firstNonzero required.descender other.typographic.descender other.clipDescender,
        if required.ascender = 0 ∨ required.descender = 0 then other.typographic.leading
        else required.leading⟩

end FontFile

/-- A font that was read from a file. -/
structure FontFace where
  /-- The number of units of the em. -/
  unitsPerEm : Nat
  /-- The metrics in those units. -/
  metrics : FontFile.UnitMetrics
deriving DecidableEq, Repr

namespace FontFace

open FontFile in
/-- The font in a file. -/
def ofBytes (data : ByteArray) : Except FontFileError FontFace := do
  let entries ← entries data
  let required {α : Type} (name : Nat) (read : ByteArray → Option α) (e : FontFileError) :
      Except FontFileError α :=
    match (table? entries name).bind read with
    | some a => .ok a
    | none => .error e
  let unitsPerEm ← required 0x68656164 unitsPerEm? .noHead
  let metrics ← required 0x68686561 unitMetrics? .noMetrics
  let _ ← required 0x6D617870 glyphCount? .noProfile
  return ⟨unitsPerEm, combine metrics ((table? entries 0x4F532F32).bind otherMetrics?)⟩

/-- An integer as a single precision number. -/
def real (n : Int) : Float32 :=
  if n < 0 then -n.natAbs.toFloat32 else n.natAbs.toFloat32

/-- The metrics at a size in points. -/
def metricsAt (f : FontFace) (size : Float32) : FontMetrics :=
  let scale := size / f.unitsPerEm.toFloat32
  ⟨real f.metrics.ascender * scale, real f.metrics.descender * scale,
    real f.metrics.leading * scale⟩

end FontFace

/-- Fonts read from files, by their families. -/
abbrev FaceList :=
  List (FontFamily × FontFace)

namespace FaceList

/-- Sets the font of a family. -/
def insert (faces : FaceList) (family : FontFamily) (face : FontFace) : FaceList :=
  (family, face) :: faces

/-- The title of a family. -/
def title : FontFamily → String
  | .sansSerif => "SansSerif"
  | .serif => "Serif"
  | .monospace => "Monospace"

/-- Sets the font of a family to the one in a file. -/
def insertFile (faces : FaceList) (family : FontFamily) (data : ByteArray) : Result FaceList :=
  match FontFace.ofBytes data with
  | .ok face => .ok (faces.insert family face)
  | .error e => Result.fail ("Failed to load font for " ++ title family ++ ": " ++ e.message)

/-- Whether there is a font of a family. -/
def has (faces : FaceList) (family : FontFamily) : Bool :=
  (faces.lookup family).isSome

/-- The metrics of the fonts, and estimates for other families. -/
def metrics (faces : FaceList) : MetricsSource := fun f =>
  match faces.lookup f.family with
  | some face => face.metricsAt f.size
  | none => MetricsSource.estimated f

end FaceList

end LiveMarkdown
