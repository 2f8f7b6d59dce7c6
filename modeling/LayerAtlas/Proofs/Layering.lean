import LayerAtlas.Config.Layering
import LayerAtlas.Proofs.RawText
import Mathlib.Data.Nat.Digits.Defs

/-!
# Which layer a setting comes from

A configuration is twelve settings, and each of them comes from the highest layer that sets it: the caller's
values, the environment, the project's file, the user's file. Merging two layers decides every setting by
itself, so a chain of merges does. Only the outcome is validated, and only files that are malformed, or the
project's when it cannot be read, keep it from coming about.
-/
namespace LayerAtlas

namespace Config

/-- What a configuration can set. -/
inductive Setting where
  | excludedDirs | ignoredFiles | maxFileSize | onParseError
  | sourceDir | testsDir | docsDir | rootPackage
  | depth | includeAssets | contexts | layers
  deriving DecidableEq, Repr

namespace Setting

/-- What a setting is set to. -/
abbrev Value : Setting → Type
  | excludedDirs | ignoredFiles | contexts | layers => List String
  | maxFileSize | depth => Nat
  | onParseError => ParsePolicy
  | sourceDir | testsDir | docsDir | rootPackage => String
  | includeAssets => Bool

/-- A list sets something when it is not empty. -/
def filled? (list : List String) : Option (List String) :=
  if list = [] then none else some list

theorem filled?_laterList (base other : List String) :
    filled? (laterList base other) = (filled? other).or (filled? base) := by
  cases other <;> rfl

theorem filled?_injective {list other : List String} (same : filled? list = filled? other) :
    list = other := by
  cases list <;> cases other <;> simp_all [filled?]

/-- What a configuration sets a setting to, if it does. -/
def ofConfig? (config : Config) : (setting : Setting) → Option setting.Value
  | excludedDirs => filled? config.scan.excludedDirs
  | ignoredFiles => filled? config.scan.ignoredFiles
  | maxFileSize => config.scan.maxFileSize
  | onParseError => config.scan.onParseError
  | sourceDir => config.layout.sourceDir
  | testsDir => config.layout.testsDir
  | docsDir => config.layout.docsDir
  | rootPackage => config.layout.rootPackage
  | depth => config.view.depth
  | includeAssets => config.view.includeAssets
  | contexts => filled? config.view.contexts
  | layers => filled? config.view.layers

/-- What the caller sets a setting to. -/
def ofOverrides? (overrides : Overrides) : (setting : Setting) → Option setting.Value
  | maxFileSize => overrides.maxFileSize
  | onParseError => overrides.onParseError
  | sourceDir => overrides.sourceDir
  | depth => overrides.viewDepth
  | excludedDirs | ignoredFiles | testsDir | docsDir | rootPackage | includeAssets | contexts | layers =>
    none

variable {setting : Setting}

/-- A merge decides each setting by itself. -/
theorem ofConfig?_merge (base other : Config) (setting : Setting) :
    ofConfig? (merge base other) setting =
      (ofConfig? other setting).or (ofConfig? base setting) := by
  cases setting
  case excludedDirs | ignoredFiles | contexts | layers => exact filled?_laterList _ _
  all_goals rfl

theorem ofConfig?_empty (setting : Setting) : ofConfig? {} setting = none := by
  cases setting <;> rfl

theorem ofConfig?_ofOverrides (overrides : Overrides) (setting : Setting) :
    ofConfig? (ofOverrides overrides) setting = ofOverrides? overrides setting := by
  cases setting <;> rfl

/-- The settings are all there is to a configuration. -/
theorem config_ext {config other : Config}
    (same : ∀ setting, ofConfig? config setting = ofConfig? other setting) : config = other := by
  obtain ⟨⟨_, _, _, _⟩, ⟨_, _, _, _⟩, ⟨_, _, _, _⟩⟩ := config
  obtain ⟨⟨_, _, _, _⟩, ⟨_, _, _, _⟩, ⟨_, _, _, _⟩⟩ := other
  simp only [Config.mk.injEq, ScanConfig.mk.injEq, LayoutConfig.mk.injEq, ViewConfig.mk.injEq]
  exact ⟨⟨filled?_injective (same excludedDirs), filled?_injective (same ignoredFiles),
      same maxFileSize, same onParseError⟩,
    ⟨same sourceDir, same testsDir, same docsDir, same rootPackage⟩,
    same depth, same includeAssets, filled?_injective (same contexts), filled?_injective (same layers)⟩

end Setting

/-! ## Variables -/

/-- The number that digits stand for. -/
def numberOf (digits : List Char) : Nat :=
  Nat.ofDigits 10 (digits.map fun c => c.toNat - '0'.toNat).reverse

/-- A number in ASCII digits, perhaps behind a plus sign. -/
def IsNumeral (text : String) (value : Nat) : Prop :=
  ∃ digits : List Char, digits ≠ [] ∧ (∀ c ∈ digits, c.isDigit = true) ∧
    (text.toList = digits ∨ text.toList = '+' :: digits) ∧ numberOf digits = value

theorem foldl_digits (digits : List Char) :
    digits.foldl (fun value c => value * 10 + (c.toNat - '0'.toNat)) 0 = numberOf digits := by
  rw [numberOf, Nat.ofDigits_eq_foldr, ← List.map_reverse, List.foldr_map, List.foldr_reverse]
  congr 1
  funext value c
  rw [Nat.cast_id]
  omega

/-- What is left of a text without its sign is read as a number if it is one. -/
theorem readNat?_of_spelled {most : Nat} {text : String} {digits : List Char}
    (spelled : (text.toList = digits ∧ digits.head? ≠ some '+') ∨ text.toList = '+' :: digits) :
    readNat? most text =
      if digits.isEmpty ∨ !digits.all Char.isDigit then none
      else if numberOf digits ≤ most then some (numberOf digits) else none := by
  rw [← foldl_digits]
  unfold readNat?
  rcases spelled with ⟨bare, unsigned⟩ | signed
  · rw [bare]
    dsimp only
    split
    · next signed => exact absurd rfl unsigned
    · rfl
  · rw [signed]
    rfl

theorem refused_iff {digits : List Char} :
    (digits.isEmpty = true ∨ (!digits.all Char.isDigit) = true) ↔
      ¬ (digits ≠ [] ∧ ∀ c ∈ digits, c.isDigit = true) := by
  rw [not_and_or, Bool.not_eq_true', Bool.eq_false_iff, Ne, List.all_eq_true, List.isEmpty_iff, not_not]

theorem readNat?_eq_some_iff {most value : Nat} {text : String} :
    readNat? most text = some value ↔ IsNumeral text value ∧ value ≤ most := by
  constructor
  · intro success
    obtain ⟨digits, spelled⟩ : ∃ digits, (text.toList = digits ∧ digits.head? ≠ some '+') ∨
        text.toList = '+' :: digits := by
      by_cases signed : text.toList.head? = some '+'
      · exact (List.head?_eq_some_iff.1 signed).imp fun _ => .inr
      · exact ⟨_, .inl ⟨rfl, signed⟩⟩
    rw [readNat?_of_spelled spelled, Option.ite_none_left_eq_some, refused_iff, not_not,
      Option.ite_none_right_eq_some] at success
    obtain ⟨numeral, bounded, own⟩ := success
    cases own
    exact ⟨⟨digits, numeral.1, numeral.2, spelled.imp_left And.left, rfl⟩, bounded⟩
  · rintro ⟨⟨digits, begun, digital, spelled, rfl⟩, bounded⟩
    have unsigned : digits.head? ≠ some '+' := fun signed =>
      absurd (digital '+' (List.mem_of_mem_head? signed)) (by decide)
    rw [readNat?_of_spelled (spelled.imp_left fun bare => ⟨bare, unsigned⟩),
      if_neg fun refused => refused_iff.1 refused ⟨begun, digital⟩, if_pos bounded]

/-- A policy is read where its name stands, in whatever case and between whatever blanks. -/
theorem parse_eq_some_iff {text : String} {policy : ParsePolicy} :
    (ParsePolicy.parse text).toOption = some policy ↔
      asciiLower (trimBlank text) = Naming.name policy := by
  have named : (ParsePolicy.parse text).toOption = Naming.ofName? (asciiLower (trimBlank text)) := by
    unfold ParsePolicy.parse
    dsimp only
    cases Naming.ofName? (α := ParsePolicy) (asciiLower (trimBlank text)) <;> rfl
  rw [named]
  constructor
  · exact fun found => (Naming.name_of_ofName? found).symm
  · intro same
    rw [same]
    cases policy <;> decide

end Config

open Config in
/-- A variable sets its setting to what it reads as, and to nothing where it does not read as a value. No
variable is about any other setting. -/
def Environment.Sets (env : Environment) : (setting : Setting) → setting.Value → Prop
  | .maxFileSize, value =>
    ∃ text, env.maxFileSize = some (.ofString text) ∧ IsNumeral text value ∧ value ≤ maxSize
  | .onParseError, policy =>
    ∃ text, env.onParseError = some (.ofString text) ∧ asciiLower (trimBlank text) = Naming.name policy
  | .sourceDir, directory => env.sourceDir = some (.ofString directory) ∧ allBlank directory = false
  | .depth, value =>
    ∃ text, env.viewDepth = some (.ofString text) ∧ IsNumeral text value ∧ value ≤ maxDepth
  | _, _ => False

namespace Config

theorem variableText?_eq_some_iff {setting : Option RawText} {text : String} :
    variableText? setting = some text ↔ setting = some (.ofString text) := by
  rw [variableText?, Option.bind_eq_some_iff]
  simp only [RawText.toString?_eq_some_iff, exists_eq_right]

/-- The layer of the environment sets what the variables set. -/
theorem ofConfig?_ofEnvironment (env : Environment) (setting : Setting) (value : setting.Value) :
    setting.ofConfig? (ofEnvironment env) = some value ↔ env.Sets setting value := by
  cases setting
  case maxFileSize => exact Option.bind_eq_some_iff.trans (by
    simp [Environment.Sets, variableText?_eq_some_iff, readNat?_eq_some_iff])
  case depth => exact Option.bind_eq_some_iff.trans (by
    simp [Environment.Sets, variableText?_eq_some_iff, readNat?_eq_some_iff])
  case onParseError => exact Option.bind_eq_some_iff.trans (by
    simp [Environment.Sets, variableText?_eq_some_iff, parse_eq_some_iff])
  case sourceDir => exact Option.filter_eq_some_iff.trans (by
    simp [Environment.Sets, variableText?_eq_some_iff])
  all_goals exact ⟨nofun, False.elim⟩

/-! ## Files -/

/-- What stands in the place of a configuration file. -/
inductive FileState where
  | absent
  | unreadable (fault : ConfigError)
  | malformed (fault : ConfigError)
  | holds (layer : Config)

namespace FileState

/-- The layer that a file holds; any other file sets nothing. -/
def layer : FileState → Config
  | holds layer => layer
  | absent | unreadable _ | malformed _ => {}

def IsUnreadable (state : FileState) : Prop :=
  ∃ fault, state = unreadable fault

def IsMalformed (state : FileState) : Prop :=
  ∃ fault, state = malformed fault

end FileState

def fileState (reader : TextReader) (disk : FileSystem) (path : Path) : FileState :=
  if disk.existsAt path then
    match fileText disk path with
    | .error fault => .unreadable (.unreadable path fault.message)
    | .ok text =>
      match read reader path.display text with
      | .error fault => .malformed fault
      | .ok layer => .holds layer
  else .absent

/-- What stands in the place of the user's file, which is absent without a home. -/
def userState (reader : TextReader) (disk : FileSystem) (env : Environment) : FileState :=
  ((userPath? env).map (fileState reader disk)).getD .absent

def projectState (reader : TextReader) (disk : FileSystem) (project : Path) : FileState :=
  fileState reader disk (projectPath project)

theorem ofFile_eq (reader : TextReader) (disk : FileSystem) (path : Path) :
    ofFile reader disk path =
      match fileState reader disk path with
      | .unreadable fault | .malformed fault => .error fault
      | state => .ok state.layer := by
  unfold ofFile fileState
  by_cases there : disk.existsAt path = true
  · rw [if_pos there, if_pos there]
    cases fileText disk path with
    | error fault => rfl
    | ok text =>
      change read reader path.display text = _
      dsimp only
      cases read reader path.display text <;> rfl
  · rw [if_neg there, if_neg there]
    rfl

/-- A text that has been read is at most malformed. -/
theorem read_error {reader : TextReader} {origin text : String} {fault : ConfigError}
    (fails : read reader origin text = .error fault) : ∃ reason, fault = .malformed origin reason := by
  unfold read at fails
  cases told : reader text with
  | error reason =>
    rw [told] at fails
    cases fails
    exact ⟨reason, rfl⟩
  | ok config =>
    rw [told] at fails
    cases fails

/-- The faults of a file tell which kind they are. -/
theorem fault_of_fileState (reader : TextReader) (disk : FileSystem) (path : Path) :
    match fileState reader disk path with
    | .unreadable fault => ∃ cause, fault = .unreadable path cause
    | .malformed fault => ∃ reason, fault = .malformed path.display reason
    | .absent | .holds _ => True := by
  unfold fileState
  by_cases there : disk.existsAt path = true
  · rw [if_pos there]
    cases fileText disk path with
    | error fault => exact ⟨_, rfl⟩
    | ok text =>
      dsimp only
      cases outcome : read reader path.display text with
      | error fault => exact read_error outcome
      | ok layer => trivial
  · rw [if_neg there]
    trivial

theorem userLayer_eq (reader : TextReader) (disk : FileSystem) (env : Environment) :
    userLayer reader disk env =
      match userState reader disk env with
      | .malformed fault => .error fault
      | state => .ok state.layer := by
  unfold userLayer userState
  cases userPath? env with
  | none => rfl
  | some path =>
    have told := fault_of_fileState reader disk path
    rw [Option.map_some, Option.getD_some]
    dsimp only
    rw [ofFile_eq]
    cases state : fileState reader disk path with
    | absent => rfl
    | holds layer => rfl
    | unreadable fault =>
      rw [state] at told
      obtain ⟨cause, rfl⟩ := told
      rfl
    | malformed fault =>
      rw [state] at told
      obtain ⟨reason, rfl⟩ := told
      rfl

/-! ## The outcome -/

/-- The value of the highest layer that sets a setting, from the caller's values down to the user's file; none
when no layer does. -/
inductive Highest (overrides : Overrides) (env : Environment) (own user : Config) (setting : Setting) :
    Option setting.Value → Prop where
  | overrides {value : setting.Value} (sets : setting.ofOverrides? overrides = some value) :
      Highest overrides env own user setting (some value)
  | environment {value : setting.Value} (above : setting.ofOverrides? overrides = none)
      (sets : env.Sets setting value) : Highest overrides env own user setting (some value)
  | project {value : setting.Value} (above : setting.ofOverrides? overrides = none)
      (unread : ∀ value, ¬ env.Sets setting value) (sets : setting.ofConfig? own = some value) :
      Highest overrides env own user setting (some value)
  | user {value : setting.Value} (above : setting.ofOverrides? overrides = none)
      (unread : ∀ value, ¬ env.Sets setting value) (silent : setting.ofConfig? own = none)
      (sets : setting.ofConfig? user = some value) : Highest overrides env own user setting (some value)
  | unset (above : setting.ofOverrides? overrides = none) (unread : ∀ value, ¬ env.Sets setting value)
      (silent : setting.ofConfig? own = none) (last : setting.ofConfig? user = none) :
      Highest overrides env own user setting none

/-- The layers merged one after another, the lowest first. -/
def layered (overrides : Overrides) (env : Environment) (own user : Config) : Config :=
  (((merge {} user).merge own).merge (ofEnvironment env)).merge (ofOverrides overrides)

variable {overrides : Overrides} {env : Environment} {own user : Config} {setting : Setting}

/-- A chain of merges decides each setting by its highest layer. -/
theorem highest_iff {value : Option setting.Value} :
    Highest overrides env own user setting value ↔
      setting.ofConfig? (layered overrides env own user) = value := by
  have unset : setting.ofConfig? (ofEnvironment env) = none ↔ ∀ value, ¬ env.Sets setting value := by
    simp only [← ofConfig?_ofEnvironment, Option.eq_none_iff_forall_not_mem, Option.mem_def]
  simp only [layered, Setting.ofConfig?_merge, Setting.ofConfig?_empty, Setting.ofConfig?_ofOverrides,
    Option.or_none]
  constructor
  · intro highest
    cases highest with
    | overrides sets => rw [sets, Option.some_or]
    | environment above sets =>
      rw [above, (ofConfig?_ofEnvironment env setting _).2 sets, Option.none_or, Option.some_or]
    | project above unread sets =>
      rw [above, unset.2 unread, sets, Option.none_or, Option.none_or, Option.some_or]
    | user above unread silent sets =>
      rw [above, unset.2 unread, silent, sets, Option.none_or, Option.none_or, Option.none_or]
    | unset above unread silent last =>
      rw [above, unset.2 unread, silent, last, Option.none_or, Option.none_or, Option.none_or]
  · rintro rfl
    cases above : setting.ofOverrides? overrides with
    | some value => exact .overrides above
    | none =>
      rw [Option.none_or]
      cases read : setting.ofConfig? (ofEnvironment env) with
      | some value => exact .environment above ((ofConfig?_ofEnvironment env setting value).1 read)
      | none =>
        rw [Option.none_or]
        have unread := unset.1 read
        cases mine : setting.ofConfig? own with
        | some value => exact .project above unread mine
        | none =>
          rw [Option.none_or]
          cases last : setting.ofConfig? user with
          | some value => exact .user above unread mine last
          | none => exact .unset above unread mine last

/-- The configuration in which every setting comes from its highest layer. -/
theorem eq_layered_iff {config : Config} :
    (∀ setting, Highest overrides env own user setting (setting.ofConfig? config)) ↔
      config = layered overrides env own user := by
  constructor
  · exact fun highest => Setting.config_ext fun setting => (highest_iff.1 (highest setting)).symm
  · rintro rfl setting
    exact highest_iff.2 rfl

/-- The files let a configuration come about. -/
def FilesAllow (reader : TextReader) (disk : FileSystem) (project : Path) (env : Environment) : Prop :=
  ¬ (userState reader disk env).IsMalformed ∧ ¬ (projectState reader disk project).IsUnreadable ∧
    ¬ (projectState reader disk project).IsMalformed

variable {reader : TextReader} {disk : FileSystem} {project : Path}

theorem load_of_filesAllow (allow : FilesAllow reader disk project env) :
    load reader disk project env overrides =
      (layered overrides env (projectState reader disk project).layer
        (userState reader disk env).layer).validate.map
        fun _ => layered overrides env (projectState reader disk project).layer
          (userState reader disk env).layer := by
  obtain ⟨userFits, ownRead, ownFits⟩ := allow
  have validated (config : Config) : (do config.validate; Except.ok config) =
      config.validate.map fun _ => config := by
    cases config.validate <;> rfl
  unfold load
  rw [userLayer_eq, ofFile_eq, ← projectState]
  cases userFile : userState reader disk env with
  | malformed fault => exact absurd ⟨fault, userFile⟩ userFits
  | absent | unreadable _ | holds _ =>
    cases ownFile : projectState reader disk project with
    | unreadable fault => exact absurd ⟨fault, ownFile⟩ ownRead
    | malformed fault => exact absurd ⟨fault, ownFile⟩ ownFits
    | absent | holds _ => exact validated _

theorem load_of_not_filesAllow (overrides : Overrides) (refused : ¬ FilesAllow reader disk project env) :
    ∃ fault, load reader disk project env overrides = .error fault := by
  unfold load
  rw [userLayer_eq, ofFile_eq, ← projectState]
  cases userFile : userState reader disk env with
  | malformed fault => exact ⟨fault, rfl⟩
  | absent | unreadable _ | holds _ =>
    cases ownFile : projectState reader disk project with
    | unreadable fault | malformed fault => exact ⟨fault, rfl⟩
    | absent | holds _ =>
      refine absurd ⟨?_, ?_, ?_⟩ refused
      · rw [userFile]
        rintro ⟨_, ⟨⟩⟩
      all_goals
        rw [ownFile]
        rintro ⟨_, ⟨⟩⟩

/-- Where a configuration comes from, and when there is none, whatever reads the texts of the files. Loading
gives a configuration exactly when the user's file is not malformed, the project's file is not there or is
read, and the configuration in which every setting comes from its highest layer is valid; then it gives that
one. Otherwise it fails. Lower layers are not validated, and a user's file that cannot be read sets
nothing. -/
theorem load_by_layers (reader : TextReader) (disk : FileSystem) (project : Path) (env : Environment)
    (overrides : Overrides) :
    (∀ config, load reader disk project env overrides = .ok config ↔
      FilesAllow reader disk project env ∧
      (∀ setting, Highest overrides env (projectState reader disk project).layer
        (userState reader disk env).layer setting (setting.ofConfig? config)) ∧
      config.validate = .ok ()) ∧
    ((∃ fault, load reader disk project env overrides = .error fault) ↔
      (userState reader disk env).IsMalformed ∨ (projectState reader disk project).IsUnreadable ∨
      (projectState reader disk project).IsMalformed ∨
      ∃ merged, (∀ setting, Highest overrides env (projectState reader disk project).layer
        (userState reader disk env).layer setting (setting.ofConfig? merged)) ∧
        ∃ fault, merged.validate = .error fault) := by
  have kinds : (userState reader disk env).IsMalformed ∨ (projectState reader disk project).IsUnreadable ∨
      (projectState reader disk project).IsMalformed ↔ ¬ FilesAllow reader disk project env := by
    rw [FilesAllow, not_and_or, not_and_or, not_not, not_not, not_not]
  rw [← or_assoc, ← or_assoc, or_assoc (a := (userState reader disk env).IsMalformed), kinds]
  simp only [eq_layered_iff, exists_eq_left]
  by_cases allow : FilesAllow reader disk project env
  · rw [load_of_filesAllow allow]
    generalize layered overrides env (projectState reader disk project).layer
      (userState reader disk env).layer = merged
    cases valid : merged.validate with
    | error fault =>
      refine ⟨fun config => ⟨nofun, ?_⟩, ⟨fun _ => .inr ⟨fault, rfl⟩, fun _ => ⟨fault, rfl⟩⟩⟩
      rintro ⟨_, rfl, passes⟩
      rw [valid] at passes
      cases passes
    | ok passed =>
      refine ⟨fun config => ⟨?_, ?_⟩, ⟨nofun, ?_⟩⟩
      · rintro ⟨⟩
        exact ⟨allow, rfl, valid⟩
      · rintro ⟨_, rfl, _⟩
        rfl
      · rintro (refused | ⟨_, ⟨⟩⟩)
        exact absurd allow refused
  · obtain ⟨fault, fails⟩ := load_of_not_filesAllow overrides allow
    simp [fails, allow]

/-- A home whose file names no directory for the sources and sets a limit of nothing, and a project that
sets the limit anew. -/
def layeredDisk : FileSystem where
  top := .dir [("home", .dir [("anna", .dir [(".stratum", .dir [("config.toml", .file
      "[scan]\nmax_file_size = 0\nignored_files = [\"a.txt\"]\n[layout]\nsource_dir = \" \"\n".toUTF8)]),
    ("shop", .dir [("stratum.toml", .file
      "[scan]\nmax_file_size = 7\n[view]\ndepth = 2\nlayers = []\n".toUTF8)])])])]
  workingDir := ["home", "anna"]

/-- The name of the policy is no text, so that its variable sets nothing. -/
def layeredVariables : Environment :=
  { home := some "/home/anna", sourceDir := some "lib", maxFileSize := some "many",
    onParseError := some ⟨[0xff]⟩, viewDepth := some "+3" }

/-- What the user's file sets wrongly is set anew by the project's file and by a variable. -/
example : load readToml layeredDisk ⟨"shop"⟩ layeredVariables { onParseError := some .skip } =
    .ok { scan := { ignoredFiles := ["a.txt"], maxFileSize := some 7, onParseError := some .skip },
          layout := { sourceDir := some "lib" }, view := { depth := some 3 } } := by
  decide +kernel

end Config

end LayerAtlas
