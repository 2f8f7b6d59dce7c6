import LayerAtlas.Dotted
import LayerAtlas.ImportRecord

/-!
# Trees of import statements

The statements of a text as far as imports depend on them, and the records of their imports in the
order of the text. The records are collected twice: by recursion from left to right, and by a walk that
keeps the statements still to be visited on a stack.

Embeds the walk of the Import Parser (specification, 4.2): `collect_plain_import`,
`collect_from_import` and the loop of `parse` over the nodes of a tree.
-/
namespace LayerAtlas.SourceText

/-- Where a `from` import takes its names from. -/
inductive ImportOrigin where
  | absolute (module : String)
  | relative (level : Nat) (suffix : String)
  deriving DecidableEq, Repr

/-- What a `from` import takes: every name or the listed ones, by the names they have at their origin. -/
inductive Selection where
  | everything
  | listed (names : List String)
  deriving DecidableEq, Repr

def Selection.names : Selection → List String
  | everything => [ImportRecord.wildcard]
  | listed names => names

/-- A statement. Rows count from zero; only statements without imports of their own have parts. -/
inductive Statement where
  | plainImport (row : Nat) (modules : List String)
  | fromImport (row : Nat) (origin : ImportOrigin) (selection : Selection)
  | futureImport (row : Nat)
  | other (parts : List Statement)

/-- The module whose text is read, as relative imports depend on it. -/
structure Importer where
  name : String
  isPackage : Bool
  deriving DecidableEq, Repr

/-- The record of a `from` import. A relative origin is anchored at the importer. -/
def Importer.fromRecord (importer : Importer) (row : Nat) (origin : ImportOrigin)
    (selection : Selection) : ImportRecord :=
  let record :=
    match origin with
    | .absolute module => ImportRecord.whole module (row + 1) false
    | .relative level suffix =>
      ImportRecord.whole (Dotted.anchor importer.name level importer.isPackage suffix) (row + 1) true
  record.addNames selection.names

/-- The records of one import statement. -/
def Importer.records (importer : Importer) : Statement → List ImportRecord
  | .plainImport row modules => modules.map fun module => .whole module (row + 1) false
  | .fromImport row origin selection => [importer.fromRecord row origin selection]
  | .futureImport _ | .other _ => []

mutual

/-- The records of a statement and its parts, from left to right. -/
def Importer.collect (importer : Importer) : Statement → List ImportRecord
  | .other parts => Importer.collectAll importer parts
  | .plainImport row modules => importer.records (.plainImport row modules)
  | .fromImport row origin selection => importer.records (.fromImport row origin selection)
  | .futureImport _ => []

def Importer.collectAll (importer : Importer) : List Statement → List ImportRecord
  | [] => []
  | statement :: later => Importer.collect importer statement ++ Importer.collectAll importer later

end

mutual

/-- The number of statements in a statement, itself included. -/
def Statement.size : Statement → Nat
  | .other parts => Statement.sizeAll parts + 1
  | _ => 1

def Statement.sizeAll : List Statement → Nat
  | [] => 0
  | statement :: later => Statement.size statement + Statement.sizeAll later

end

/-- Visits the statement on top of the stack and puts its parts in its place. Every step takes one
statement off, so as many steps as there are statements are enough. -/
def Importer.walk (importer : Importer) : (steps : Nat) → (stack : List Statement) →
    List ImportRecord
  | 0, _ | _, [] => []
  | steps + 1, .other parts :: stack => importer.walk steps (parts ++ stack)
  | steps + 1, statement :: stack => importer.records statement ++ importer.walk steps stack

/-- The records of a whole text. -/
def Importer.visit (importer : Importer) (statements : List Statement) : List ImportRecord :=
  importer.walk (Statement.sizeAll statements) statements

end LayerAtlas.SourceText
