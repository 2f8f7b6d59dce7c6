import LayerAtlas.Config.Reading
import LayerAtlas.Config.Writing
import LayerAtlas.Proofs.Toml.Document

/-!
# Configurations that read back

The text of a configuration is a document of three sections with an entry for every field that is set. What
these entries say is the configuration again.
-/
namespace LayerAtlas.Config

open Toml (Shows IsBare)
open Toml.Draft (within)

/-! ## The entries that are written -/

def textList (texts : List String) : TomlValue :=
  .list (texts.map .text)

def scanEntries (config : ScanConfig) : TomlEntries :=
  [("excluded_dirs", textList config.excludedDirs)] ++ [("ignored_files", textList config.ignoredFiles)] ++
    (config.maxFileSize.map fun size : Nat => ("max_file_size", TomlValue.integer size)).toList ++
    (config.onParseError.map fun policy => ("on_parse_error", .text (Naming.name policy))).toList

def layoutEntries (config : LayoutConfig) : TomlEntries :=
  (config.sourceDir.map fun text => ("source_dir", .text text)).toList ++
    (config.testsDir.map fun text => ("tests_dir", .text text)).toList ++
    (config.docsDir.map fun text => ("docs_dir", .text text)).toList ++
    (config.rootPackage.map fun text => ("root_package", .text text)).toList

def viewEntries (config : ViewConfig) : TomlEntries :=
  (config.depth.map fun depth : Nat => ("depth", TomlValue.integer depth)).toList ++
    (config.includeAssets.map fun value => ("include_assets", .boolean value)).toList ++
    [("contexts", textList config.contexts)] ++ [("layers", textList config.layers)]

def entries (config : Config) : TomlEntries :=
  [("scan", .table .header (scanEntries config.scan)),
    ("layout", .table .header (layoutEntries config.layout)),
    ("view", .table .header (viewEntries config.view))]

/-! ## The text shows the entries -/

section Writing

variable {draft : Toml.Draft}

theorem toList_listText_lines (texts : List String) :
    ("[\n" ++ String.join (texts.map fun text => "    " ++ Toml.quote text ++ ",\n") ++ "]").toList =
      '[' :: ('\n' :: Toml.itemLines (fun text => (Toml.quote text).toList) texts ++ [']']) := by
  simp only [String.toList_append, String.toList_join, List.flatMap_map, Toml.itemLines]
  rfl

theorem shows_listText (texts : List String) : Shows 1 (listText texts).toList (textList texts) := by
  match texts with
  | [] => exact Toml.shows_emptyList
  | [text] =>
    have bracketed : (listText [text]).toList = '[' :: ((Toml.quote text).toList ++ [']']) := by
      simp only [listText, String.toList_append]
      rfl
    rw [bracketed]
    exact Toml.shows_singleton (Toml.shows_quote text)
  | first :: second :: more =>
    rw [listText]
    · rw [toList_listText_lines]
      exact Toml.shows_lines Toml.shows_quote (first :: second :: more)
    · simp
    · simp

theorem shows_boolText (value : Bool) : Shows 0 (boolText value).toList (.boolean value) := by
  cases value with
  | true => exact Toml.shows_true
  | false => exact Toml.shows_false

section Fields

variable {before fields : TomlEntries} {name : String} (field : String)

theorem takes_fieldLine {α : Type} {levels : Nat} {write : α → String} {item : α → TomlValue}
    (value : Option α) (bare : IsBare field) (newSection : before.get? name = none)
    (newField : fields.get? field = none) (shows : ∀ a ∈ value, Shows levels (write a).toList (item a))
    (shallow : levels < Toml.maxDepth) :
    (within before name fields).Takes (fieldLine field (value.map write)).toList
      (within before name (fields ++ (value.map fun a => (field, item a)).toList)) := by
  have line : (fieldLine field (value.map write)).toList =
      value.elim [] fun a => field.toList ++ (" = ".toList ++ ((write a).toList ++ ['\n'])) := by
    cases value with
    | none => rfl
    | some a =>
      simp only [fieldLine, Option.map_some, String.toList_append, List.append_assoc, Option.elim_some]
      rfl
  rw [line]
  exact Toml.Draft.takes_optional bare value shows shallow newSection newField

theorem takes_listLine (texts : List String) (bare : IsBare field) (newSection : before.get? name = none)
    (newField : fields.get? field = none) :
    (within before name fields).Takes (fieldLine field (some (listText texts))).toList
      (within before name (fields ++ [(field, textList texts)])) :=
  takes_fieldLine field (some texts) bare newSection newField (fun list _ => shows_listText list)
    (by decide)

theorem takes_textLine (text : Option String) (bare : IsBare field) (newSection : before.get? name = none)
    (newField : fields.get? field = none) :
    (within before name fields).Takes (fieldLine field (text.map Toml.quote)).toList
      (within before name (fields ++ (text.map fun text => (field, .text text)).toList)) :=
  takes_fieldLine field text bare newSection newField (fun text _ => Toml.shows_quote text) (by decide)

theorem takes_numberLine (number : Option Nat) (fits : ∀ n ∈ number, n ≤ maxWritten) (bare : IsBare field)
    (newSection : before.get? name = none) (newField : fields.get? field = none) :
    (within before name fields).Takes (fieldLine field (number.map toString)).toList
      (within before name (fields ++ (number.map fun n : Nat => (field, TomlValue.integer n)).toList)) :=
  takes_fieldLine field number bare newSection newField (fun n set => Toml.shows_number (fits n set))
    (by decide)

end Fields

theorem takes_scanText (config : ScanConfig) (fits : ∀ size ∈ config.maxFileSize, size ≤ maxWritten)
    (absent : draft.entries.get? "scan" = none) :
    draft.Takes (scanText config).toList (within draft.entries "scan" (scanEntries config)) := by
  have opened : draft.Takes "[scan]\n".toList (within draft.entries "scan" []) :=
    Toml.Draft.takes_header (by decide) absent
  have excluded := opened.trans (takes_listLine "excluded_dirs" config.excludedDirs (by decide) absent
    (by simp))
  have ignored := excluded.trans (takes_listLine "ignored_files" config.ignoredFiles (by decide) absent
    (by simp))
  have sized := ignored.trans (takes_numberLine "max_file_size" config.maxFileSize fits (by decide) absent
    (by simp))
  have decided := sized.trans (takes_fieldLine "on_parse_error" config.onParseError (by decide) absent
    (by simp) (fun policy _ => Toml.shows_quote (Naming.name policy)) (by decide))
  simpa only [scanText, scanEntries, String.toList_append, List.append_assoc, List.nil_append] using decided

theorem takes_layoutText (config : LayoutConfig) (absent : draft.entries.get? "layout" = none) :
    draft.Takes (layoutText config).toList (within draft.entries "layout" (layoutEntries config)) := by
  have opened : draft.Takes "[layout]\n".toList (within draft.entries "layout" []) :=
    Toml.Draft.takes_header (by decide) absent
  have sources := opened.trans (takes_textLine "source_dir" config.sourceDir (by decide) absent (by simp))
  have tests := sources.trans (takes_textLine "tests_dir" config.testsDir (by decide) absent (by simp))
  have docs := tests.trans (takes_textLine "docs_dir" config.docsDir (by decide) absent (by simp))
  have rooted := docs.trans (takes_textLine "root_package" config.rootPackage (by decide) absent (by simp))
  simpa only [layoutText, layoutEntries, String.toList_append, List.append_assoc, List.nil_append] using
    rooted

theorem takes_viewText (config : ViewConfig) (fits : ∀ depth ∈ config.depth, depth ≤ maxDepth)
    (absent : draft.entries.get? "view" = none) :
    draft.Takes (viewText config).toList (within draft.entries "view" (viewEntries config)) := by
  have writable : ∀ depth ∈ config.depth, depth ≤ maxWritten := fun depth set =>
    Nat.le_trans (fits depth set) (by decide)
  have opened : draft.Takes "[view]\n".toList (within draft.entries "view" []) :=
    Toml.Draft.takes_header (by decide) absent
  have deep := opened.trans (takes_numberLine "depth" config.depth writable (by decide) absent (by simp))
  have assets := deep.trans (takes_fieldLine "include_assets" config.includeAssets (by decide) absent
    (by simp) (fun value _ => shows_boolText value) (by decide))
  have contexts := assets.trans (takes_listLine "contexts" config.contexts (by decide) absent (by simp))
  have layers := contexts.trans (takes_listLine "layers" config.layers (by decide) absent (by simp))
  simpa only [viewText, viewEntries, String.toList_append, List.append_assoc, List.nil_append] using layers

/-- The text of a configuration is a document of its entries. -/
theorem parse_toText {config : Config} (sizeFits : ∀ size ∈ config.scan.maxFileSize, size ≤ maxWritten)
    (depthFits : ∀ depth ∈ config.view.depth, depth ≤ maxDepth) :
    Toml.parse (scanText config.scan ++ "\n" ++ layoutText config.layout ++ "\n" ++
      viewText config.view) = .ok (entries config) := by
  have scanned : Toml.Draft.Takes ⟨[], []⟩ (scanText config.scan).toList _ :=
    takes_scanText config.scan sizeFits rfl
  have parted := scanned.trans (Toml.Draft.takes_blankLine _)
  have laidOut := parted.trans (takes_layoutText config.layout (by simp [within]))
  have partedAgain := laidOut.trans (Toml.Draft.takes_blankLine _)
  have viewed := partedAgain.trans (takes_viewText config.view depthFits (by simp [within]))
  have pieces : (scanText config.scan ++ "\n" ++ layoutText config.layout ++ "\n" ++
      viewText config.view).toList = (scanText config.scan).toList ++ ['\n'] ++
        (layoutText config.layout).toList ++ ['\n'] ++ (viewText config.view).toList := by
    simp only [String.toList_append]
    rfl
  have unmarked : (scanText config.scan ++ "\n" ++ layoutText config.layout ++ "\n" ++
      viewText config.view).toList.head? ≠ some '\ufeff' := by
    simp only [scanText, String.toList_append, List.append_assoc]
    change some '[' ≠ some '\ufeff'
    decide
  rw [← pieces] at viewed
  exact Toml.parse_of_takes viewed unmarked

end Writing

/-! ## The entries say the configuration -/

section Reading

/-- The fields of a section that a header has opened. -/
def headed (entries : TomlEntries) : Section :=
  ⟨fun _ name => entries.get? name⟩

variable {fields : Section} {place : Nat} {name : String}

theorem optional_of_field {α : Type} {read : TomlValue → Option α} {value : Option α}
    (item : α → TomlValue) (found : fields.field place name = value.map item)
    (reads : ∀ a ∈ value, read (item a) = some a) : fields.optional place name read = .ok value := by
  rw [Section.optional, found]
  cases value with
  | none => rfl
  | some a => simp only [Option.map_some, reads a rfl]

theorem text_of_field {text : Option String} (found : fields.field place name = text.map .text) :
    fields.optional place name TomlValue.text? = .ok text :=
  optional_of_field .text found fun _ _ => rfl

theorem texts?_textList (texts : List String) : (textList texts).texts? = some texts := by
  change (texts.map TomlValue.text).mapM TomlValue.text? = some texts
  induction texts with
  | nil => rfl
  | cons text rest ih => simp [List.mapM_cons, ih, TomlValue.text?]

theorem texts_of_field {texts : List String} (found : fields.field place name = some (textList texts)) :
    fields.texts place name = .ok texts := by
  have read : fields.optional place name TomlValue.texts? = .ok (some texts) :=
    optional_of_field textList found fun list _ => texts?_textList list
  rw [Section.texts, read]
  rfl

theorem natUpTo?_integer {most n : Nat} (fits : n ≤ most) :
    TomlValue.natUpTo? most (.integer n) = some n := by
  have bounded : (0 : Int) ≤ n ∧ (n : Int) ≤ most := ⟨by omega, by omega⟩
  rw [TomlValue.natUpTo?, if_pos bounded, Int.toNat_natCast]

theorem number_of_field {most : Nat} {number : Option Nat}
    (found : fields.field place name = number.map fun n : Nat => TomlValue.integer n)
    (fits : ∀ n ∈ number, n ≤ most) :
    fields.optional place name (TomlValue.natUpTo? most) = .ok number :=
  optional_of_field _ found fun n set => natUpTo?_integer (fits n set)

theorem policy?_name (policy : ParsePolicy) : TomlValue.policy? (.text (Naming.name policy)) = some policy := by
  cases policy <;> decide

theorem readSection_of_header {α : Type} {document fields : TomlEntries} {default : α}
    {read : Section → Except ConfigFault α}
    (found : document.get? name = some (.table .header fields)) :
    readSection document name default read = read (headed fields) := by
  rw [readSection, found]
  rfl

theorem scan_scanEntries (config : ScanConfig) (fits : ∀ size ∈ config.maxFileSize, size ≤ maxWritten) :
    (headed (scanEntries config)).scan = .ok config := by
  have readable : ∀ size ∈ config.maxFileSize, size ≤ maxSize := fun size set =>
    Nat.le_trans (fits size set) (by decide)
  have excluded : (headed (scanEntries config)).texts 0 "excluded_dirs" = .ok config.excludedDirs :=
    texts_of_field (by simp [headed, scanEntries])
  have ignored : (headed (scanEntries config)).texts 1 "ignored_files" = .ok config.ignoredFiles :=
    texts_of_field (by simp [headed, scanEntries])
  have sized : (headed (scanEntries config)).optional 2 "max_file_size" (TomlValue.natUpTo? maxSize) =
      .ok config.maxFileSize := number_of_field (by simp [headed, scanEntries]) readable
  have decided : (headed (scanEntries config)).optional 3 "on_parse_error" TomlValue.policy? =
      .ok config.onParseError :=
    optional_of_field (fun policy => .text (Naming.name policy)) (by simp [headed, scanEntries])
      fun policy _ => policy?_name policy
  simp only [Section.scan, excluded, ignored, sized, decided, bind, Except.bind]

theorem layout_layoutEntries (config : LayoutConfig) :
    (headed (layoutEntries config)).layout = .ok config := by
  have sources : (headed (layoutEntries config)).optional 0 "source_dir" TomlValue.text? =
      .ok config.sourceDir := text_of_field (by simp [headed, layoutEntries])
  have tests : (headed (layoutEntries config)).optional 1 "tests_dir" TomlValue.text? =
      .ok config.testsDir := text_of_field (by simp [headed, layoutEntries])
  have docs : (headed (layoutEntries config)).optional 2 "docs_dir" TomlValue.text? =
      .ok config.docsDir := text_of_field (by simp [headed, layoutEntries])
  have rooted : (headed (layoutEntries config)).optional 3 "root_package" TomlValue.text? =
      .ok config.rootPackage := text_of_field (by simp [headed, layoutEntries])
  simp only [Section.layout, sources, tests, docs, rooted, bind, Except.bind]

theorem view_viewEntries (config : ViewConfig) (fits : ∀ depth ∈ config.depth, depth ≤ maxDepth) :
    (headed (viewEntries config)).view = .ok config := by
  have deep : (headed (viewEntries config)).optional 0 "depth" (TomlValue.natUpTo? maxDepth) =
      .ok config.depth := number_of_field (by simp [headed, viewEntries]) fits
  have assets : (headed (viewEntries config)).optional 1 "include_assets" TomlValue.boolean? =
      .ok config.includeAssets :=
    optional_of_field .boolean (by simp [headed, viewEntries]) fun _ _ => rfl
  have contexts : (headed (viewEntries config)).texts 2 "contexts" = .ok config.contexts :=
    texts_of_field (by simp [headed, viewEntries])
  have layers : (headed (viewEntries config)).texts 3 "layers" = .ok config.layers :=
    texts_of_field (by simp [headed, viewEntries])
  simp only [Section.view, deep, assets, contexts, layers, bind, Except.bind]

theorem ofEntries_entries {config : Config}
    (sizeFits : ∀ size ∈ config.scan.maxFileSize, size ≤ maxWritten)
    (depthFits : ∀ depth ∈ config.view.depth, depth ≤ maxDepth) :
    ofEntries (entries config) = .ok config := by
  have scanned : readSection (entries config) "scan" {} Section.scan = .ok config.scan :=
    (readSection_of_header (by simp [entries])).trans (scan_scanEntries config.scan sizeFits)
  have laidOut : readSection (entries config) "layout" {} Section.layout = .ok config.layout :=
    (readSection_of_header (by simp [entries])).trans (layout_layoutEntries config.layout)
  have viewed : readSection (entries config) "view" {} Section.view = .ok config.view :=
    (readSection_of_header (by simp [entries])).trans (view_viewEntries config.view depthFits)
  simp only [ofEntries, scanned, laidOut, viewed, bind, Except.bind]

end Reading

/-- Configurations read back. One whose size limit, if it has one, can be written has a text, and reading the
text gives the same configuration where it is valid, and else the fault for which it is not. One with a
larger limit has no text. A depth is a number of 32 bits, and so is never too large to be read back. -/
theorem ofText_toText (config : Config) (depthFits : ∀ depth ∈ config.view.depth, depth ≤ maxDepth) :
    ((∀ size ∈ config.scan.maxFileSize, size ≤ maxWritten) →
      ∃ text, config.toText = .ok text ∧ (config.validate = .ok () → ofText text = .ok config) ∧
        ∀ fault, config.validate = .error fault → ofText text = .error fault) ∧
    ∀ size ∈ config.scan.maxFileSize, maxWritten < size →
      config.toText = .error (.unwritable "out-of-range value for u64 type") := by
  constructor
  · intro sizeFits
    have small : ¬ config.scan.maxFileSize.any (maxWritten < ·) = true := by
      simpa [Option.any_eq_true] using sizeFits
    have reads : ∀ origin, read readToml origin (scanText config.scan ++ "\n" ++
        layoutText config.layout ++ "\n" ++ viewText config.view) = .ok config := by
      intro origin
      simp only [read, readToml, parse_toText sizeFits depthFits, ofEntries_entries sizeFits depthFits]
      rfl
    refine ⟨_, if_neg small, fun valid => ?_, fun fault refused => ?_⟩
    · simp only [ofText, reads, valid, bind, Except.bind]
    · simp only [ofText, reads, refused, bind, Except.bind]
  · intro size set large
    have beyond : config.scan.maxFileSize.any (maxWritten < ·) = true := by
      rw [Option.mem_def.1 set, Option.any_some]
      simpa using large
    exact if_pos beyond

/-- Texts that need each of the forms of a string, in lists of every length. -/
def toughConfig : Config where
  scan := { excludedDirs := ["plain", "it's \"quoted\"", "\nlines\nof 'text'\\", "bell \x07 and \"\"\"\"\""]
            ignoredFiles := ["C:\\new \"\"\"three\"\"\" and ''"], maxFileSize := some 9223372036854775807
            onParseError := some .skip }
  layout := { sourceDir := some "src/\u00e9 \t\r", rootPackage := some "" }
  view := { depth := some 4294967295, includeAssets := some false, layers := ["domain"] }

theorem ofText_toText_tough :
    (∃ text, toughConfig.toText = .ok text ∧ ofText text = .ok toughConfig) ∧
      { toughConfig with scan.maxFileSize := some 9223372036854775808 }.toText =
        .error (.unwritable "out-of-range value for u64 type") := by
  have depthFits : ∀ depth ∈ toughConfig.view.depth, depth ≤ maxDepth := by decide
  constructor
  · obtain ⟨text, written, reads, _⟩ := (ofText_toText toughConfig depthFits).1 (by decide)
    exact ⟨text, written, reads (by decide)⟩
  · exact (ofText_toText { toughConfig with scan.maxFileSize := some 9223372036854775808 } depthFits).2
      9223372036854775808 rfl (by decide)

end LayerAtlas.Config
