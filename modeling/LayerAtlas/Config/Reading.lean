import LayerAtlas.Config.Basic
import LayerAtlas.Toml.Parser

/-!
# Reading configurations

A configuration from the text of a TOML document. Keys that mean nothing are passed over. A section
may also be written as a list of its fields in order, and missing fields keep their defaults.

Embeds `from_toml` of the configuration (specification, 12).
-/
namespace LayerAtlas

/-- Why a text is no configuration. -/
inductive ConfigFault where
  | document (fault : TomlFault)
  /-- The value of this field or section is none that it can have. -/
  | badValue (field : String)
  deriving DecidableEq, Repr

namespace ConfigFault

def message : ConfigFault → String
  | document fault => fault.message
  | badValue field => "invalid value for " ++ field

end ConfigFault

namespace TomlValue

/-- The fields of a section, found by place or by name. A date has no fields, but is no fault. -/
def fields? : TomlValue → Option (Nat → String → Option TomlValue)
  | table _ entries => some fun _ name => TomlEntries.get? entries name
  | list items => some fun place _ => items[place]?
  | tables members => some fun place _ => members[place]?.map (table .header)
  | date => some fun _ _ => none
  | _ => none

def text? : TomlValue → Option String
  | text value => some value
  | _ => none

def boolean? : TomlValue → Option Bool
  | boolean value => some value
  | _ => none

/-- A number from zero to `most`. -/
def natUpTo? (most : Nat) : TomlValue → Option Nat
  | integer value => if 0 ≤ value ∧ value ≤ most then some value.toNat else none
  | _ => none

def texts? : TomlValue → Option (List String)
  | list items => items.mapM text?
  | _ => none

def isEmptyCollection : TomlValue → Bool
  | list items => items.isEmpty
  | table _ entries => entries.isEmpty
  | tables members => members.isEmpty
  | _ => false

/-- A policy by its name, or as a table whose only key is the name, with nothing below. -/
def policy? : TomlValue → Option ParsePolicy
  | text name => Naming.ofName? name
  | table _ [(name, value)] => if value.isEmptyCollection then Naming.ofName? name else none
  | _ => none

end TomlValue

namespace Config

/-- The largest values of sizes and of depths. -/
def maxSize : Nat := 0xFFFFFFFFFFFFFFFF
def maxDepth : Nat := 0xFFFFFFFF

/-- The fields of a section that is being read. -/
structure Section where
  field : Nat → String → Option TomlValue

namespace Section

def ofValue (name : String) (value : TomlValue) : Except ConfigFault Section :=
  match value.fields? with
  | some field => .ok ⟨field⟩
  | none => .error (.badValue name)

/-- The value of a field that may be missing. -/
def optional {α : Type} (fields : Section) (place : Nat) (name : String)
    (read : TomlValue → Option α) : Except ConfigFault (Option α) :=
  match fields.field place name with
  | none => .ok none
  | some value =>
    match read value with
    | some value => .ok (some value)
    | none => .error (.badValue name)

/-- The texts of a list, none when it is missing. -/
def texts (fields : Section) (place : Nat) (name : String) : Except ConfigFault (List String) := do
  .ok ((← fields.optional place name TomlValue.texts?).getD [])

def scan (fields : Section) : Except ConfigFault ScanConfig := do
  .ok {
    excludedDirs := ← fields.texts 0 "excluded_dirs"
    ignoredFiles := ← fields.texts 1 "ignored_files"
    maxFileSize := ← fields.optional 2 "max_file_size" (TomlValue.natUpTo? maxSize)
    onParseError := ← fields.optional 3 "on_parse_error" TomlValue.policy? }

def layout (fields : Section) : Except ConfigFault LayoutConfig := do
  .ok {
    sourceDir := ← fields.optional 0 "source_dir" TomlValue.text?
    testsDir := ← fields.optional 1 "tests_dir" TomlValue.text?
    docsDir := ← fields.optional 2 "docs_dir" TomlValue.text?
    rootPackage := ← fields.optional 3 "root_package" TomlValue.text? }

def view (fields : Section) : Except ConfigFault ViewConfig := do
  .ok {
    depth := ← fields.optional 0 "depth" (TomlValue.natUpTo? maxDepth)
    includeAssets := ← fields.optional 1 "include_assets" TomlValue.boolean?
    contexts := ← fields.texts 2 "contexts"
    layers := ← fields.texts 3 "layers" }

end Section

/-- One section of a document, its defaults when it is missing. -/
def readSection {α : Type} (entries : TomlEntries) (name : String) (default : α)
    (read : Section → Except ConfigFault α) : Except ConfigFault α :=
  match entries.get? name with
  | none => .ok default
  | some value => do read (← Section.ofValue name value)

def ofEntries (entries : TomlEntries) : Except ConfigFault Config := do
  .ok {
    scan := ← readSection entries "scan" {} Section.scan
    layout := ← readSection entries "layout" {} Section.layout
    view := ← readSection entries "view" {} Section.view }

/-- What reads the text of a configuration, or tells why it is none. -/
abbrev TextReader := String → Except String Config

/-- The reader of TOML documents. -/
def readToml : TextReader := fun text =>
  match Toml.parse text with
  | .error fault => .error (ConfigFault.document fault).message
  | .ok entries => (ofEntries entries).mapError ConfigFault.message

/-- The configuration that a text from `origin` holds, not yet validated. -/
def read (reader : TextReader) (origin text : String) : Except ConfigError Config :=
  (reader text).mapError (.malformed origin)

/-- The origin of a text that comes from no file. -/
def inlineOrigin : String := "<inline>"

/-- The valid configuration that a text holds. -/
def ofText (text : String) : Except ConfigError Config := do
  let config ← read readToml inlineOrigin text
  config.validate
  .ok config

end Config

end LayerAtlas
