import LayerAtlas.Build
import LayerAtlas.SourceText.CompoundStatement

/-!
# Imports of a Python text

The statements of a text, tied together over their suites, and the records of its imports. A text that
does not parse as a whole has none.

Embeds `parse` of the Import Parser (specification, 4.2), with the grammar of the language as far as it
decides what is refused.
-/
namespace LayerAtlas.SourceText

/-- The statements of a block up to its end. -/
def block (statements : Reader (List Statement)) : Nat → List Statement → Reader (List Statement)
  | 0, _ => stuck
  | fuel + 1, found => do
    if ← closesBlock then return found.reverse
    else do
      let next ← statements
      block statements fuel (next.reverse ++ found)

/-- The statements behind a header, from the colon on. -/
def suite (read : TermReader) (statements : Reader (List Statement)) (fuel : Nat) :
    Reader (List Statement) := do
  symbol ":"
  match ← suiteStart with
  | .line => simpleLine read fuel
  | .block => block statements fuel []
  | .empty => return []

/-- The statements of one line, or one compound statement, with at most so many levels of nesting. -/
def statements : Nat → Reader (List Statement)
  | 0 => stuck
  | fuel + 1 =>
    let read := expression fuel
    compoundStatement read (suite read (statements fuel) fuel) fuel

/-- The statements of a text up to its end. -/
def allStatements (fuel : Nat) : Nat → List Statement → Reader (List Statement)
  | 0, _ => stuck
  | steps + 1, found => do
    let _ ← closesBlock
    if (← peek).isNone then return found.reverse
    else do
      let next ← statements fuel
      allStatements fuel steps (next.reverse ++ found)

/-- The statements of a whole text. Each level of nesting and each step of a list takes at least one
character, so the length of the text bounds them. -/
def tree (text : String) : Except Stuck (List Statement) :=
  let chars := text.toList
  let fuel := 2 * chars.length + 8
  (allStatements fuel fuel [] (Cursor.start chars)).map Prod.fst

/-- The imports of a text. Relative ones are anchored at the module with this name. -/
def readImports : ImportReader := fun text path name =>
  if Language.ofPath? path = some .python then
    match tree text with
    | .ok statements =>
      .ok (Importer.visit ⟨name, path.isPackageInitializer⟩ statements)
    | .error stuck => .error (.invalidText path (stuck.row + 1) stuck.reason)
  else .error (.unsupportedFile path)

end LayerAtlas.SourceText
