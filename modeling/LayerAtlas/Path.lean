import LayerAtlas.Text.RawText
import LayerAtlas.Text.Split

/-!
# File paths

A path is its raw text, and it is compared and taken apart by its parts: repeated and trailing slashes
count for nothing, neither does a `.` unless it begins a relative path, and `..` is a part like any
other, never resolved.

Embeds the operations on paths that the Module Path Resolver and the Source Reader use: taking a path apart,
joining, and the name, the stem and the extension of a file.
-/
namespace LayerAtlas

open RawText (slash dot)

/-- A file path, kept as it was written. -/
structure Path where
  text : RawText
  deriving DecidableEq, Repr, Inhabited

namespace Path

inductive Part where
  /-- The slash that begins an absolute path. -/
  | root
  /-- The `.` that begins a relative path. -/
  | here
  | up
  | name (text : RawText)
  deriving DecidableEq, Repr

/-- A piece between slashes as a part; empty pieces and `.` are none. -/
def bodyPart? (piece : List UInt8) : Option Part :=
  if piece = [] ∨ piece = [dot] then none
  else if piece = [dot, dot] then some .up
  else some (.name ⟨piece⟩)

/-- The part that stands for the beginning of an absolute path or of one that begins with a dot. -/
def lead (text : List UInt8) : List Part :=
  if text.head? = some slash then [.root]
  else if (splitPieces slash text).head? = some [dot] then [.here]
  else []

/-- What stands between the slashes. -/
def pieces (path : Path) : List RawText :=
  (splitPieces slash path.text.bytes).map .mk

def parts (path : Path) : List Part :=
  lead path.text.bytes ++ (splitPieces slash path.text.bytes).filterMap bodyPart?

/-- The path as it is shown. -/
def display (path : Path) : String :=
  path.text.lossy

def isAbsolute (path : Path) : Bool :=
  path.text.bytes.head? = some slash

/-- The second path seen from the first: itself when absolute, else behind one slash. -/
def join (base tail : Path) : Path :=
  if tail.isAbsolute then tail
  else if base.text.bytes = [] ∨ base.text.bytes.getLast? = some slash then ⟨base.text ++ tail.text⟩
  else ⟨base.text ++ "/" ++ tail.text⟩

def child (base : Path) (name : RawText) : Path :=
  base.join ⟨name⟩

/-- The parts of `path` after those of `base`, if it begins with them. -/
def below? (base path : Path) : Option (List Part) :=
  base.parts.isPrefixOf? path.parts

/-- Whether `path` is `base` or lies under it, whole parts compared. -/
def isUnder (path base : Path) : Bool :=
  (base.below? path).isSome

/-- The names of the parts when all of them are names; a leading `.` is passed over. -/
def names? : List Part → Option (List RawText)
  | [] => some []
  | .name text :: rest => (names? rest).map (text :: ·)
  | .here :: rest => names? rest
  | .root :: _ => none
  | .up :: _ => none

/-- The names that lead from `base` down to `path`; none when the path is not below, or climbs. -/
def namesBelow? (base path : Path) : Option (List RawText) :=
  (base.below? path).bind names?

/-- The same names as they are shown. -/
def segmentsBelow? (base path : Path) : Option (List String) :=
  (base.namesBelow? path).map fun names => names.map RawText.lossy

def fileName? (path : Path) : Option RawText :=
  match path.parts.getLast? with
  | some (.name text) => some text
  | _ => none

/-- Stem and extension of a file name. A dot that begins the name separates nothing. -/
def splitName (name : RawText) : RawText × Option RawText :=
  match splitLast? dot name.bytes with
  | some ([], _) => (name, none)
  | some (stem, extension) => (⟨stem⟩, some ⟨extension⟩)
  | none => (name, none)

def stem? (path : Path) : Option RawText :=
  path.fileName?.map fun name => (splitName name).1

def extension? (path : Path) : Option RawText :=
  path.fileName?.bind fun name => (splitName name).2

/-- Drops trailing slashes and trailing `.` pieces from a reversed text, never the first byte. -/
def trimTail : List UInt8 → List UInt8
  | last :: before :: rest =>
    if last = slash ∨ (last = dot ∧ before = slash ∧ rest ≠ []) then trimTail (before :: rest)
    else last :: before :: rest
  | text => text

/-- The text up to the end of its last part, reversed. -/
def reversedBody (path : Path) : List UInt8 :=
  trimTail path.text.bytes.reverse

/-- The path with the extension of its file name replaced; unchanged without a file name. -/
def withExtension (path : Path) (extension : RawText) : Path :=
  match path.fileName? with
  | none => path
  | some name =>
    let directory : RawText := ⟨(path.reversedBody.drop name.size).reverse⟩
    ⟨directory ++ (splitName name).1 ++ "." ++ extension⟩

/-- The path without its last part, if that part is not the root. -/
def parent? (path : Path) : Option Path :=
  match path.parts.getLast? with
  | none | some .root => none
  | some last =>
    let width :=
      match last with
      | .name text => text.size
      | .up => 2
      | _ => 1
    some ⟨⟨(trimTail (path.reversedBody.drop width)).reverse⟩⟩

end Path

end LayerAtlas
