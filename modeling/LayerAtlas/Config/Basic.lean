import LayerAtlas.Passport.Vocabulary
import LayerAtlas.Path
import LayerAtlas.Text.Quoted

/-!
# Configuration

What a project may set for the scan, for its layout and for the view, the value that holds where
nothing is set, and which settings are refused.

Embeds the configuration (specification, 12): its sections with their `effective_` values, `source_root`,
`root_package_name` and `validate`.
-/
namespace LayerAtlas

/-- What to do with a source file that does not parse: stop, or go on without its imports. -/
inductive ParsePolicy where
  | abort | skip
  deriving DecidableEq, Repr

instance : Naming ParsePolicy where
  all := [.abort, .skip]
  name
    | .abort => "abort"
    | .skip => "skip"

namespace ParsePolicy

/-- Reads a policy whatever its case and the blanks around it. -/
def parse (text : String) : Except String ParsePolicy :=
  let word := asciiLower (trimBlank text)
  match Naming.ofName? word with
  | some policy => .ok policy
  | none => .error ("unknown parse failure policy: " ++ word)

end ParsePolicy

structure ScanConfig where
  /-- Names of directories that a scan leaves out; none means the usual ones. -/
  excludedDirs : List String := []
  /-- Names of files that a scan leaves out; none means the usual ones. -/
  ignoredFiles : List String := []
  /-- The largest size in bytes of a file that is not parsed. -/
  maxFileSize : Option Nat := none
  onParseError : Option ParsePolicy := none
  deriving DecidableEq, Repr

namespace ScanConfig

def defaultMaxFileSize : Nat := 1048576

def defaultExcludedDirs : List String :=
  ["__pycache__", "node_modules", "venv", ".venv", "build", "dist", "site-packages"]

def defaultIgnoredFiles : List String :=
  [".DS_Store", "Thumbs.db"]

def effectiveExcludedDirs (config : ScanConfig) : List String :=
  if config.excludedDirs.isEmpty then defaultExcludedDirs else config.excludedDirs

def effectiveIgnoredFiles (config : ScanConfig) : List String :=
  if config.ignoredFiles.isEmpty then defaultIgnoredFiles else config.ignoredFiles

def effectiveMaxFileSize (config : ScanConfig) : Nat :=
  config.maxFileSize.getD defaultMaxFileSize

def effectiveOnParseError (config : ScanConfig) : ParsePolicy :=
  config.onParseError.getD .abort

end ScanConfig

/-- Where sources, tests and documents lie below the project's root. -/
structure LayoutConfig where
  sourceDir : Option String := none
  testsDir : Option String := none
  docsDir : Option String := none
  /-- The name by which modules import the source root. -/
  rootPackage : Option String := none
  deriving DecidableEq, Repr

namespace LayoutConfig

def defaultSourceDir : String := "src"
def defaultTestsDir : String := "tests"
def defaultDocsDir : String := "docs"

def effectiveSourceDir (config : LayoutConfig) : String :=
  config.sourceDir.getD defaultSourceDir

def effectiveTestsDir (config : LayoutConfig) : String :=
  config.testsDir.getD defaultTestsDir

def effectiveDocsDir (config : LayoutConfig) : String :=
  config.docsDir.getD defaultDocsDir

def sourceRoot (config : LayoutConfig) (project : Path) : Path :=
  project.join ⟨config.effectiveSourceDir⟩

/-- The name of the root package: the one set, else the last name of the source root. -/
def rootPackageName? (config : LayoutConfig) (project : Path) : Option String :=
  match config.rootPackage with
  | some name => some name
  | none => (config.sourceRoot project).fileName?.map RawText.lossy

end LayoutConfig

structure ViewConfig where
  /-- Hops along imports by which a view grows. -/
  depth : Option Nat := none
  includeAssets : Option Bool := none
  contexts : List String := []
  /-- Names of layers. -/
  layers : List String := []
  deriving DecidableEq, Repr

namespace ViewConfig

def defaultDepth : Nat := 0

def effectiveDepth (config : ViewConfig) : Nat :=
  config.depth.getD defaultDepth

def effectiveIncludeAssets (config : ViewConfig) : Bool :=
  config.includeAssets.getD true

end ViewConfig

structure Config where
  scan : ScanConfig := {}
  layout : LayoutConfig := {}
  view : ViewConfig := {}
  deriving DecidableEq, Repr

instance : Inhabited Config := ⟨{}⟩

/-- Settings of which a value must be more than nothing. -/
inductive ConfigField where
  | maxFileSize | sourceDir
  deriving DecidableEq, Repr

instance : Naming ConfigField where
  all := [.maxFileSize, .sourceDir]
  name
    | .maxFileSize => "scan.max_file_size"
    | .sourceDir => "layout.source_dir"

/-- Why there is no configuration, or no text of one. -/
inductive ConfigError where
  /-- A configuration file is there but could not be read. -/
  | unreadable (path : Path) (cause : String)
  /-- The text from this origin is no configuration. -/
  | malformed (origin reason : String)
  | unwritable (reason : String)
  | zeroLimit (field : ConfigField)
  | emptyDirectory (field : ConfigField)
  | unknownLayer (layer : String)
  deriving DecidableEq, Repr

namespace ConfigError

def message : ConfigError → String
  | unreadable path cause => "cannot read config layer " ++ path.display ++ ": " ++ cause
  | malformed origin reason => "malformed TOML in " ++ origin ++ ": " ++ reason
  | unwritable reason => "cannot serialize config: " ++ reason
  | zeroLimit field => Naming.name field ++ " must be greater than 0"
  | emptyDirectory field => Naming.name field ++ " must name a directory, got an empty string"
  | unknownLayer layer => "view.layers names unknown layer " ++ quoted layer

end ConfigError

namespace Config

/-- Refuses a size limit of zero, a blank source directory and a layer that is none, in this order. -/
def validate (config : Config) : Except ConfigError Unit :=
  if config.scan.maxFileSize = some 0 then .error (.zeroLimit .maxFileSize)
  else if config.layout.sourceDir.any allBlank then .error (.emptyDirectory .sourceDir)
  else
    match config.view.layers.find? fun layer => (Layer.ofName? layer).isNone with
    | some layer => .error (.unknownLayer layer)
    | none => .ok ()

end Config

end LayerAtlas
