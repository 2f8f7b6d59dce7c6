import LayerAtlas.Config.Basic
import LayerAtlas.Toml.Quoting

/-!
# Writing configurations

A configuration as the text of a TOML document: the three sections in order, in each the fields that
are set, and lists of several texts with one text on a line.

Embeds `to_toml` of the configuration (specification, 12).
-/
namespace LayerAtlas.Config

/-- A list of texts: on one line up to one text, else a line for each. -/
def listText (texts : List String) : String :=
  match texts with
  | [] => "[]"
  | [text] => "[" ++ Toml.quote text ++ "]"
  | texts => "[\n" ++ String.join (texts.map fun text => "    " ++ Toml.quote text ++ ",\n") ++ "]"

/-- The line of a field, none when it is not set. -/
def fieldLine (name : String) (value : Option String) : String :=
  match value with
  | some value => name ++ " = " ++ value ++ "\n"
  | none => ""

def boolText (value : Bool) : String :=
  if value then "true" else "false"

def scanText (config : ScanConfig) : String :=
  "[scan]\n" ++
    fieldLine "excluded_dirs" (some (listText config.excludedDirs)) ++
    fieldLine "ignored_files" (some (listText config.ignoredFiles)) ++
    fieldLine "max_file_size" (config.maxFileSize.map toString) ++
    fieldLine "on_parse_error" (config.onParseError.map fun policy =>
      Toml.quote (Naming.name policy))

def layoutText (config : LayoutConfig) : String :=
  "[layout]\n" ++
    fieldLine "source_dir" (config.sourceDir.map Toml.quote) ++
    fieldLine "tests_dir" (config.testsDir.map Toml.quote) ++
    fieldLine "docs_dir" (config.docsDir.map Toml.quote) ++
    fieldLine "root_package" (config.rootPackage.map Toml.quote)

def viewText (config : ViewConfig) : String :=
  "[view]\n" ++
    fieldLine "depth" (config.depth.map toString) ++
    fieldLine "include_assets" (config.includeAssets.map boolText) ++
    fieldLine "contexts" (some (listText config.contexts)) ++
    fieldLine "layers" (some (listText config.layers))

/-- The largest number that a document can hold. -/
def maxWritten : Nat := 0x7FFFFFFFFFFFFFFF

/-- The text of the configuration. A size beyond the largest number cannot be written. -/
def toText (config : Config) : Except ConfigError String :=
  if config.scan.maxFileSize.any (maxWritten < ·) then
    .error (.unwritable "out-of-range value for u64 type")
  else
    .ok (scanText config.scan ++ "\n" ++ layoutText config.layout ++ "\n" ++ viewText config.view)

end LayerAtlas.Config
