import LayerAtlas.Config.Reading
import LayerAtlas.FileTree
import LayerAtlas.Text.Utf8

/-!
# Layers of configuration

The configuration of a project from its layers: the user's file, the project's file, the environment,
and the values that the caller sets. A later layer wins wherever it carries a value; a list carries
one when it is not empty.

Embeds `load` of the configuration (specification, 12) with its steps `merge_toml_file`, `merge`,
`apply_env_overrides` and `apply_overrides`.
-/
namespace LayerAtlas

/-- The variables that are looked at. -/
structure Environment where
  home : Option RawText := none
  userProfile : Option RawText := none
  maxFileSize : Option RawText := none
  onParseError : Option RawText := none
  sourceDir : Option RawText := none
  viewDepth : Option RawText := none
  deriving DecidableEq, Repr

/-- Values that the caller sets. -/
structure Overrides where
  maxFileSize : Option Nat := none
  sourceDir : Option String := none
  viewDepth : Option Nat := none
  onParseError : Option ParsePolicy := none
  deriving DecidableEq, Repr

namespace Config

/-- The later list unless it is empty. -/
def laterList (base other : List String) : List String :=
  if other.isEmpty then base else other

/-- Both layers as one; `other` wins wherever it carries a value. -/
def merge (base other : Config) : Config where
  scan := {
    excludedDirs := laterList base.scan.excludedDirs other.scan.excludedDirs
    ignoredFiles := laterList base.scan.ignoredFiles other.scan.ignoredFiles
    maxFileSize := other.scan.maxFileSize.or base.scan.maxFileSize
    onParseError := other.scan.onParseError.or base.scan.onParseError }
  layout := {
    sourceDir := other.layout.sourceDir.or base.layout.sourceDir
    testsDir := other.layout.testsDir.or base.layout.testsDir
    docsDir := other.layout.docsDir.or base.layout.docsDir
    rootPackage := other.layout.rootPackage.or base.layout.rootPackage }
  view := {
    depth := other.view.depth.or base.view.depth
    includeAssets := other.view.includeAssets.or base.view.includeAssets
    contexts := laterList base.view.contexts other.view.contexts
    layers := laterList base.view.layers other.view.layers }

/-- A number from zero to `most`, in ASCII digits with an optional plus sign. -/
def readNat? (most : Nat) (text : String) : Option Nat :=
  let digits :=
    match text.toList with
    | '+' :: rest => rest
    | chars => chars
  if digits.isEmpty ∨ !digits.all Char.isDigit then none
  else
    let value := digits.foldl (fun value c => value * 10 + (c.toNat - '0'.toNat)) 0
    if value ≤ most then some value else none

/-- The text to which a variable is set; none when it is not set, or not to text. -/
def variableText? (setting : Option RawText) : Option String :=
  setting.bind RawText.toString?

/-- The layer that variables make. What is no text, or does not read as a value, counts as not set. -/
def ofEnvironment (env : Environment) : Config where
  scan := {
    maxFileSize := (variableText? env.maxFileSize).bind (readNat? maxSize)
    onParseError := (variableText? env.onParseError).bind fun text =>
      (ParsePolicy.parse text).toOption }
  layout := { sourceDir := (variableText? env.sourceDir).filter fun text => !allBlank text }
  view := { depth := (variableText? env.viewDepth).bind (readNat? maxDepth) }

def ofOverrides (overrides : Overrides) : Config where
  scan := { maxFileSize := overrides.maxFileSize, onParseError := overrides.onParseError }
  layout := { sourceDir := overrides.sourceDir }
  view := { depth := overrides.viewDepth }

/-- The path of the user's file, if the environment names a home. -/
def userPath? (env : Environment) : Option Path :=
  (env.home.or env.userProfile).map fun home => ((⟨home⟩ : Path).child ".stratum").child "config.toml"

def projectPath (project : Path) : Path :=
  project.child "stratum.toml"

/-- The text of a file, which must be UTF-8. -/
def fileText (disk : FileSystem) (path : Path) : Except FileFault String := do
  let bytes ← disk.read path
  (Utf8.decode bytes).mapError fun _ => .notUtf8

/-- The layer that a file makes, an empty one when there is no file. -/
def ofFile (reader : TextReader) (disk : FileSystem) (path : Path) : Except ConfigError Config :=
  if disk.existsAt path then do
    let text ← (fileText disk path).mapError fun fault => .unreadable path fault.message
    read reader path.display text
  else .ok {}

/-- The user's layer; a file that cannot be read is passed over, one that is malformed is not. -/
def userLayer (reader : TextReader) (disk : FileSystem) (env : Environment) :
    Except ConfigError Config :=
  match userPath? env with
  | none => .ok {}
  | some path =>
    match ofFile reader disk path with
    | .error (.unreadable _ _) => .ok {}
    | result => result

/-- The valid configuration of the project at `project`. -/
def load (reader : TextReader) (disk : FileSystem) (project : Path) (env : Environment)
    (overrides : Overrides) : Except ConfigError Config := do
  let user ← userLayer reader disk env
  let own ← ofFile reader disk (projectPath project)
  let config := (((merge {} user).merge own).merge (ofEnvironment env)).merge (ofOverrides overrides)
  config.validate
  .ok config

end Config

end LayerAtlas
