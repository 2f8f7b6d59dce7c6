import LayerAtlas.SourceText.Layout
import LayerAtlas.SourceText.Tree
import LayerAtlas.Text.Blank

/-!
# Import statements of Python

Readers of the two kinds of import statement. A dotted name is the text from its first word to its last
one without blanks.
-/
namespace LayerAtlas.SourceText

/-- The text between two places without blanks. -/
def Cursor.nameUpTo (start finish : Cursor) : String :=
  dropBlanks (String.ofList (start.slice finish))

/-- The segments of a dotted name behind its first word. The answer is the place behind the last one. -/
def segmentsEnd (follow : Follow) : Nat → Reader Cursor
  | 0 => stuck
  | fuel + 1 => do
    let finish ← get
    gap follow false
    if ← lookingAt "." then do
      advance 1
      innerGap
      let _ ← takeWord
      segmentsEnd follow fuel
    else return finish

/-- Words joined by dots. -/
def dottedName (follow : Follow) (fuel : Nat) : Reader String := do
  let start ← get
  let _ ← takeWord
  let finish ← segmentsEnd follow fuel
  return start.nameUpTo finish

/-- A dotted name, and the name it gets here, which is passed over. -/
def importedName (follow : Follow) (fuel : Nat) : Reader String := do
  let name ← dottedName follow fuel
  if (← word) = "as" then do
    keyword "as"
    innerGap
    let _ ← takeWord
    gap follow false
  return name

/-- Imported names separated by commas; one more comma may end them. -/
def importedNames (follow : Follow) : Nat → Reader (List String)
  | 0 => stuck
  | fuel + 1 => do
    let name ← importedName follow fuel
    if ← lookingAt "," then do
      advance 1
      gap follow false
      if (← word) = "" then return [name]
      else do
        let names ← importedNames follow fuel
        return name :: names
    else return [name]

/-- Imported names in parentheses or without. -/
def importedList (fuel : Nat) : Reader (List String) := do
  if ← lookingAt "(" then do
    advance 1
    innerGap
    let names ← importedNames Follow.more.bracket fuel
    symbol ")"
    gap .line false
    return names
  else importedNames .line fuel

def plainImport (fuel : Nat) : Reader Statement := do
  let row := (← get).row
  keyword "import"
  innerGap
  let modules ← importedNames .line fuel
  return .plainImport row modules

/-- Dots in front of a relative origin. The answer is the place behind the last one. -/
def leadingDots : Nat → Reader Cursor
  | 0 => stuck
  | fuel + 1 => do
    symbol "."
    let finish ← get
    innerGap
    if ← lookingAt "." then leadingDots fuel else return finish

/-- Where names are imported from. -/
def importOrigin (fuel : Nat) : Reader ImportOrigin := do
  if ← lookingAt "." then do
    let start ← get
    let finish ← leadingDots fuel
    let level := (start.slice finish).count '.'
    if (← word) = "import" then return .relative level ""
    else do
      let suffix ← dottedName .more fuel
      return .relative level suffix
  else do
    let module ← dottedName .more fuel
    return .absolute module

def fromImport (fuel : Nat) : Reader Statement := do
  let row := (← get).row
  keyword "from"
  innerGap
  if (← word) = "__future__" then do
    keyword "__future__"
    innerGap
    keyword "import"
    innerGap
    let _ ← importedList fuel
    return .futureImport row
  else do
    let origin ← importOrigin fuel
    keyword "import"
    innerGap
    if ← lookingAt "*" then do
      advance 1
      gap .line false
      return .fromImport row origin .everything
    else do
      let names ← importedList fuel
      return .fromImport row origin (.listed names)

end LayerAtlas.SourceText
