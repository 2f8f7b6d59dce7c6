import LayerAtlas.Path

/-!
# Source files

What a scan yields for each file: its text, or why there is none. Files in the analysed language
become modules, and the file that stands for its own directory is a package initializer.

Embeds the source file of the data model (specification, 3) and the detection of its language: `from_path`,
`is_primary_source` and `is_package_initializer`.
-/
namespace LayerAtlas

/-- A file with its text or the reason why it could not be read. -/
structure SourceFile where
  path : Path
  content : Option String
  fault : Option String
  deriving DecidableEq, Repr

namespace SourceFile

def readable (path : Path) (content : String) : SourceFile :=
  ⟨path, some content, none⟩

def unreadable (path : Path) (reason : String) : SourceFile :=
  ⟨path, none, some reason⟩

def isReadable (file : SourceFile) : Bool :=
  file.content.isSome && file.fault.isNone

end SourceFile

/-- Languages whose files become modules. -/
inductive Language where
  | python
  deriving DecidableEq, Repr

namespace Language

def name : Language → String
  | python => "Python"

def ofPath? (path : Path) : Option Language :=
  if path.extension? = some (.ofString "py") then some .python else none

end Language

namespace Path

/-- The stem of the file that stands for its directory. -/
def initializerStem : String := "__init__"

/-- Files that are parsed, whatever their size. -/
def isPrimarySource (path : Path) : Bool :=
  path.extension? = some (.ofString "py")

def isPackageInitializer (path : Path) : Bool :=
  path.isPrimarySource && path.stem? = some (.ofString initializerStem)

end Path

end LayerAtlas
