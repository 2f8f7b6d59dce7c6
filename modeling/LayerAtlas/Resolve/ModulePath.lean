import LayerAtlas.Dotted
import LayerAtlas.FileTree
import LayerAtlas.SourceFile

/-!
# Module names and files

How the files below a source root are named as modules, and which file a module name stands for. The
initializer of a package has the package's name, and that of the root the empty one.

Embeds the Module Path Resolver (specification, 4.3): `forward` and `reverse`.
-/
namespace LayerAtlas.ModulePath

/-- A file name without what follows its last dot; a dot that begins the name separates nothing. -/
def moduleStem (fileName : String) : String :=
  match splitLast? '.' fileName.toList with
  | some (stem, _) => if stem = [] then fileName else String.ofList stem
  | none => fileName

/-- The dotted name of a file; none when it does not lie below the root. -/
def nameOf? (root path : Path) : Option String :=
  (root.segmentsBelow? path).bind fun segments =>
    segments.getLast?.map fun fileName =>
      let stem := moduleStem fileName
      Dotted.join
        (if stem = Path.initializerStem then segments.dropLast else segments.dropLast ++ [stem])

/-- Whether a segment can name an entry of a directory. -/
def isPlain (segment : String) : Bool :=
  !(segment.toList.contains '/' || segment.toList.contains '\\')

/-- The paths a module's file may have: the initializer of a package comes first. -/
def spellings (root : Path) (name : String) : List Path :=
  let segments := Dotted.segments name
  if segments.all isPlain then
    let base := segments.foldl (fun base segment => base.child segment) root
    let initializer := base.child (.ofString (Path.initializerStem ++ ".py"))
    if name = "" then [initializer] else [initializer, base.withExtension "py"]
  else []

/-- The file that a module name stands for among the files that `isFile` tells. -/
def fileAmong? (isFile : Path → Bool) (root : Path) (name : String) : Option Path :=
  (spellings root name).find? isFile

/-- The file on the disk that a module name stands for. -/
def fileOf? (disk : FileSystem) (root : Path) (name : String) : Option Path :=
  fileAmong? disk.isFileAt root name

end LayerAtlas.ModulePath
