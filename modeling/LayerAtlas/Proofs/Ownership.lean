import LayerAtlas.Proofs.Anchoring
import LayerAtlas.Proofs.FileOrder
import LayerAtlas.Proofs.SourceRoot
import LayerAtlas.Proofs.Walk

/-!
# Who owns a module name

Two places prefer a package to a module file of its name: registering, where files come in the order of a
walk, and looking a name up, which asks for the initializer of the package first. They agree. Whatever the
order, the module that is left under a key stands for a file that keeps the key among all files; and the
files of a walk are those that a name can be looked up to. So the file of a node is the one that its id
leads to.
-/
namespace LayerAtlas

/-! ## The file that is left under a key -/

namespace Registration

variable {reader : ImportReader} {root : Path} {rootPackage : Option String} {policy : ParsePolicy}
  {state next : Registration} {file : SourceFile} {files : List SourceFile}

/-- Every module stands for a file that keeps its key among the files registered so far. -/
structure Owned (root : Path) (rootPackage : Option String) (files : List SourceFile)
    (state : Registration) : Prop where
  registered : Registered root rootPackage files state.registry
  kept : ∀ key module, state.registry.modules.get? key = some module →
    ∃ file, Keeps root rootPackage files key file ∧ module.path = file.path

theorem owned_start (root : Path) (rootPackage : Option String) :
    Owned root rootPackage [] (start rootPackage) where
  registered := registered_start root rootPackage
  kept := by
    intro key module found
    cases found

/-- Where no package stands under a key, none of the files is a package of that key. -/
theorem Owned.not_isPackageInitializer {key : String} (done : Owned root rootPackage files state)
    (none : (state.registry.modules.get? key).any (·.isPackage) = false)
    (listed : file ∈ files) (keyed : keyOf? root rootPackage file = some key) :
    file.path.isPackageInitializer = false := by
  have present := (done.registered.keys key).2 ⟨file, listed, keyed⟩
  obtain ⟨standing, found⟩ := Keyed.contains_iff.1 present
  obtain ⟨owner, keeps, path⟩ := done.kept key standing found
  rw [found, Option.any_some, ScannedModule.isPackage, path] at none
  rcases keeps.unshadowed with package | alone
  · rw [package] at none
    cases none
  · exact alone file listed keyed

theorem Owned.addFile (done : Owned root rootPackage files state)
    (success : state.addFile reader root policy file = .ok next) :
    Owned root rootPackage (files ++ [file]) next where
  registered := done.registered.addFile success
  kept := by
    intro key module found
    rw [get?_addFile done.registered success] at found
    split at found
    · next wins =>
      obtain ⟨keyed, prevails⟩ := wins
      refine ⟨file, ⟨by simp, keyed, ?_⟩, path_of_standsFor found⟩
      by_cases package : file.path.isPackageInitializer = true
      · exact .inl package
      · refine .inr fun other listed same => ?_
        rcases List.mem_append.1 listed with before | last
        · exact done.not_isPackageInitializer (Bool.eq_false_iff.2 (mt prevails package)) before same
        · rw [List.mem_singleton.1 last]
          exact Bool.eq_false_iff.2 package
    · next yields =>
      obtain ⟨owner, keeps, path⟩ := done.kept key module found
      refine ⟨owner, ?_, path⟩
      by_cases keyed : keyOf? root rootPackage file = some key
      · obtain ⟨shadowed, plain⟩ := Classical.not_imp.1 fun prevails => yields ⟨keyed, prevails⟩
        rw [found, Option.any_some, ScannedModule.isPackage, path] at shadowed
        rw [keeps_append_of_shadowed keeps.listed keeps.keyed shadowed (Bool.eq_false_iff.2 plain)]
        exact keeps
      · exact (keeps_append_of_ne keyed).2 keeps

theorem Owned.addFiles {before : List SourceFile} (done : Owned root rootPackage before state)
    (success : state.addFiles reader root policy files = .ok next) :
    Owned root rootPackage (before ++ files) next :=
  addFiles_invariant (Owned root rootPackage) Owned.addFile done success

end Registration

/-! ## Trees whose names can be segments -/

namespace FileTree

/-- What a directory or a module file gives to module names: the name of the one, the stem of the other. -/
def segment? : RawText × FileTree → Option RawText
  | (name, .dir _) => some name
  | (name, .file _) =>
    if (Path.splitName name).2 = some (.ofString "py") then some (Path.splitName name).1 else none

/-- Entries that give module names no dot and no backslash. -/
def Undotted (entries : List (RawText × FileTree)) : Prop :=
  ∀ entry ∈ entries, ∀ segment ∈ segment? entry,
    '.' ∉ segment.lossy.toList ∧ '\\' ∉ segment.lossy.toList

instance (entries : List (RawText × FileTree)) : Decidable (Undotted entries) :=
  inferInstanceAs (Decidable (∀ _ ∈ _, _))

/-- Entries that give module names text which spells them. -/
def Spelled (entries : List (RawText × FileTree)) : Prop :=
  ∀ entry ∈ entries, ∀ segment ∈ segment? entry, segment.IsText

instance (entries : List (RawText × FileTree)) : Decidable (Spelled entries) :=
  inferInstanceAs (Decidable (∀ _ ∈ _, _))

variable {root : Path} {entries : List (RawText × FileTree)} {folders : List RawText}
  {fileName : RawText} {bytes : ByteArray}

theorem isSegment_of_plain {segment : String} (full : segment ≠ "") (slashless : '/' ∉ segment.toList)
    (undotted : '.' ∉ segment.toList ∧ '\\' ∉ segment.toList) : ModulePath.IsSegment segment := by
  refine ⟨full, undotted.1, ?_⟩
  simp [ModulePath.isPlain, slashless, undotted.2]

/-- The folders above a file that is reached are segments, spelled as they are read. -/
theorem isSegment_of_reaches {target : FileTree}
    (stored : Throughout Storable root (.dir entries))
    (undotted : Throughout (fun _ => Undotted) root (.dir entries))
    (spelled : Throughout (fun _ => Spelled) root (.dir entries))
    (reached : Reaches (.dir entries) (folders ++ [fileName]) target) :
    ∀ folder ∈ folders, folder.IsText ∧ ModulePath.IsSegment folder.lossy := by
  intro folder member
  obtain ⟨front, back, rfl⟩ := List.append_of_mem member
  rw [List.append_assoc, List.cons_append] at reached
  obtain ⟨_, above, _ | ⟨listed, below⟩⟩ := reaches_append_iff.1 reached
  obtain ⟨slashless, full, _, _⟩ := Path.isEntryName_iff.1 ((stored front _ above).2 _ listed).1.1
  obtain ⟨_, down, _⟩ := reaches_concat_iff.1 below
  refine ⟨spelled front _ above _ listed folder ?_,
    isSegment_of_plain full slashless (undotted front _ above _ listed folder ?_)⟩
  all_goals cases down <;> rfl

/-- The stem of a module file that is reached is a segment, spelled as it is read. -/
theorem exists_stem_of_reaches (stored : Throughout Storable root (.dir entries))
    (undotted : Throughout (fun _ => Undotted) root (.dir entries))
    (spelled : Throughout (fun _ => Spelled) root (.dir entries))
    (reached : Reaches (.dir entries) (folders ++ [fileName]) (.file bytes))
    (source : (Path.splitName fileName).2 = some (.ofString "py")) :
    ∃ stem, fileName = .ofString (ModulePath.sourceName stem) ∧ ModulePath.IsSegment stem := by
  obtain ⟨others, above, listed⟩ := reaches_concat_iff.1 reached
  obtain ⟨plain, _, _⟩ := ((stored folders others above).2 _ listed).1
  obtain ⟨full, _, written⟩ := Path.eq_of_extension source
  have own : (Path.splitName fileName).1 ∈ segment? (fileName, .file bytes) := if_pos source
  have text : (Path.splitName fileName).1.IsText := spelled folders others above _ listed _ own
  refine ⟨(Path.splitName fileName).1.lossy, ?_, isSegment_of_plain ?_ ?_
    (undotted folders others above _ listed _ own)⟩
  · rw [ModulePath.sourceName, RawText.ofString_append, text]
    exact written
  · exact mt RawText.lossy_eq_empty_iff.1 full
  · rw [← RawText.slash_mem_iff]
    exact fun slash => plain.1 ((Path.splitName_fst fileName).1 _ slash)

end FileTree

namespace ModulePath

variable {root : Path} {folders : List String} {fileName stem : String}

theorem fileName?_descendSegments (root : Path)
    (entries : ∀ entry ∈ folders ++ [fileName], Path.IsEntryName (.ofString entry)) :
    (root.descendSegments (folders ++ [fileName])).fileName? = some (.ofString fileName) := by
  have parts := parts_descendSegments root entries
  rw [List.map_append, List.map_append, ← List.append_assoc] at parts
  exact Path.fileName?_of_parts parts

/-- Only the initializer of a package has its stem. -/
theorem isPackageInitializer_descendSegments (root : Path)
    (proper : ∀ segment ∈ folders ++ [stem], IsSegment segment) :
    (root.descendSegments (folders ++ [sourceName stem])).isPrimarySource = true ∧
      ((root.descendSegments (folders ++ [sourceName stem])).isPackageInitializer = true ↔
        stem = Path.initializerStem) := by
  have entries := isEntryName_of_sourceName proper
  have full : stem ≠ "" := (proper stem (by simp)).1
  have source : (root.descendSegments (folders ++ [sourceName stem])).isPrimarySource = true := by
    obtain ⟨extension, _⟩ := splitName_of_lossy (RawText.lossy_ofString (sourceName stem)) full
    rw [Path.isPrimarySource, Path.extension?, fileName?_descendSegments root entries,
      Option.bind_some, extension]
    rfl
  exact ⟨source, isPackageInitializer_iff (Path.segmentsBelow?_descendSegments root entries)⟩

/-- The name of a source file below a root: an initializer stands for its directory. -/
theorem nameOf?_source (root : Path) (proper : ∀ segment ∈ folders ++ [stem], IsSegment segment) :
    nameOf? root (root.descendSegments (folders ++ [sourceName stem])) = some (Dotted.join
      (if stem = Path.initializerStem then folders else folders ++ [stem])) := by
  have named := (nameOf?_descendSegments root (isEntryName_of_sourceName proper)).2
  rwa [moduleStem_sourceName (proper stem (by simp)).1] at named

theorem keyOf?_of_path (rootPackage : Option String) {file : SourceFile}
    (proper : ∀ segment ∈ folders ++ [stem], IsSegment segment)
    (path : file.path = root.descendSegments (folders ++ [sourceName stem])) :
    Registration.keyOf? root rootPackage file = some ((Registry.new rootPackage).keyFor (Dotted.join
      (if stem = Path.initializerStem then folders else folders ++ [stem]))) := by
  have source := (isPackageInitializer_descendSegments root proper).1
  rw [Registration.keyOf?, path, if_pos (of_decide_eq_true source), nameOf?_source root proper,
    Option.map_some]

/-! ## The file of a key -/

variable {disk : FileSystem} {entries : List (RawText × FileTree)} {config : ScanConfig}
  {rootPackage : Option String} {id : String} {file : SourceFile}

/-- A source file that a walk yields lies where segments lead, and can be looked up there. -/
theorem exists_of_mem_files (directory : disk.lookup root = .ok (.dir entries))
    (stored : FileTree.Throughout FileTree.Storable root (.dir entries))
    (undotted : FileTree.Throughout (fun _ => FileTree.Undotted) root (.dir entries))
    (spelled : FileTree.Throughout (fun _ => FileTree.Spelled) root (.dir entries))
    (listed : file ∈ Scan.files (Scan.dirEvents config root entries))
    (extension : file.path.extension? = some (.ofString "py")) :
    ∃ folders stem, (∀ segment ∈ folders ++ [stem], IsSegment segment) ∧
      file.path = root.descendSegments (folders ++ [sourceName stem]) ∧
      disk.isFileAt file.path = true := by
  obtain ⟨names, bytes, reached, rfl⟩ := Scan.reaches_of_mem_dirEvents (Scan.mem_files_iff.1 listed)
  rw [Scan.path_ofBytes] at extension ⊢
  have stands : disk.isFileAt (root.descend names) = true :=
    FileSystem.isFileAt_eq_true_iff.2 ⟨bytes, FileSystem.lookup_of_reaches directory stored reached⟩
  obtain ⟨folders, fileName, rfl⟩ : ∃ folders fileName, names = folders ++ [fileName] := by
    rcases List.eq_nil_or_concat' names with rfl | divided
    · cases reached
    · exact divided
  have storable := FileTree.isStorableName_of_reaches stored reached
  have below := Path.namesBelow?_descend root fun entry member => (storable entry member).1
  rw [Path.extension?, Path.fileName?_of_namesBelow? below, Option.bind_some] at extension
  obtain ⟨stem, rfl, segment⟩ :=
    FileTree.exists_stem_of_reaches stored undotted spelled reached extension
  have inner := FileTree.isSegment_of_reaches stored undotted spelled reached
  have texts : (folders.map RawText.lossy).map RawText.ofString = folders :=
    RawText.map_ofString_lossy fun folder member => (inner folder member).1
  refine ⟨folders.map RawText.lossy, stem, ?_, ?_, stands⟩
  · intro other member
    rcases List.mem_append.1 member with folder | last
    · obtain ⟨name, among, rfl⟩ := List.mem_map.1 folder
      exact (inner name among).2
    · exact List.mem_singleton.1 last ▸ segment
  · rw [Path.descendSegments, List.map_append, texts]
    rfl

/-- No initializer stands beside a module file that keeps its key: a walk would have met it, and it would
have kept the file from the key. -/
theorem not_shadowed_of_keeps (directory : disk.lookup root = .ok (.dir entries))
    (whole : Scan.LeavesOutNothing (Scan.dirEvents config root entries))
    (keeps : Registration.Keeps root rootPackage (Scan.files (Scan.dirEvents config root entries)) id file)
    (proper : ∀ segment ∈ folders ++ [stem], IsSegment segment)
    (path : file.path = root.descendSegments (folders ++ [sourceName stem]))
    (notPackage : stem ≠ Path.initializerStem) :
    disk.isFileAt (initializerBelow root (folders ++ [stem])) = false := by
  rw [Bool.eq_false_iff]
  intro shadows
  obtain ⟨bytes, led⟩ := FileSystem.isFileAt_eq_true_iff.1 shadows
  have reached := FileSystem.reaches_of_lookup directory
    (List.forall_mem_map.2 (isEntryName_of_concat proper isEntryName_initializer)) led
  have initializer : ∀ segment ∈ (folders ++ [stem]) ++ [Path.initializerStem], IsSegment segment :=
    List.forall_mem_append.2 ⟨proper, by decide⟩
  obtain ⟨source, package⟩ := isPackageInitializer_descendSegments root initializer
  have listed := Scan.mem_files_of_reaches reached whole source
  have own := keeps.keyed
  rw [keyOf?_of_path rootPackage proper path, if_neg notPackage] at own
  have shared := keyOf?_of_path rootPackage initializer
    (Scan.path_ofBytes (initializerBelow root (folders ++ [stem])) bytes)
  rw [if_pos rfl, own] at shared
  rcases keeps.unshadowed with isPackage | alone
  · rw [path] at isPackage
    exact notPackage ((isPackageInitializer_descendSegments root proper).2.1 isPackage)
  · have plain := alone _ listed shared
    rw [Scan.path_ofBytes] at plain
    exact Bool.eq_false_iff.1 plain (package.2 rfl)

/-- The file that keeps a key among those of a walk is the one that the key leads to. -/
theorem fileOf?_of_keeps (directory : disk.lookup root = .ok (.dir entries))
    (stored : FileTree.Throughout FileTree.Storable root (.dir entries))
    (undotted : FileTree.Throughout (fun _ => FileTree.Undotted) root (.dir entries))
    (spelled : FileTree.Throughout (fun _ => FileTree.Spelled) root (.dir entries))
    (whole : Scan.LeavesOutNothing (Scan.dirEvents config root entries))
    (keeps : Registration.Keeps root rootPackage (Scan.files (Scan.dirEvents config root entries)) id file)
    (inner : file.path ≠ initializerBelow root []) :
    fileOf? disk root id = some file.path := by
  obtain ⟨extension, _⟩ := Registration.keyOf?_eq_some_iff.1 keeps.keyed
  obtain ⟨folders, stem, proper, path, stands⟩ :=
    exists_of_mem_files directory stored undotted spelled keeps.listed extension
  have named := nameOf?_source root proper
  -- Only the root's initializer is without segments; the key of any other file is its name.
  have filled : Dotted.join (if stem = Path.initializerStem then folders else folders ++ [stem]) ≠ "" := by
    intro empty
    split at empty
    · next package =>
      have none := eq_nil_of_join (List.forall_mem_append.1 proper).1 empty
      rw [path, none, package] at inner
      exact inner rfl
    · exact absurd (eq_nil_of_join proper empty) (by simp)
  have key := keeps.keyed
  rw [keyOf?_of_path rootPackage proper path, Registry.keyFor_of_ne filled, Option.some.injEq] at key
  have below := Path.segmentsBelow?_descendSegments root (isEntryName_of_sourceName proper)
  rw [path] at stands ⊢
  obtain ⟨name, again, found⟩ := fileAmong?_of_nameOf? proper below stands
  rw [named, key, Option.some.injEq] at again
  rw [again, fileOf?, found, if_neg]
  rintro ⟨notPackage, shadows⟩
  rw [not_shadowed_of_keeps directory whole keeps proper path notPackage] at shadows
  cases shadows

end ModulePath

namespace Atlas

variable {reader : ImportReader} {book : RuleBook} {disk : FileSystem} {project : Path}
  {config : Config} {request : ViewRequest} {result : Recorded Atlas}
  {entries : List (RawText × FileTree)} {id : String} {node : Node}

/-- The graph and the lookup of names agree on who owns a name. Given is a source root that a file system
keeps, whose directories and module files give names text without a dot and a backslash, and a run that
leaves out nothing in it by its name. Then the id of a node leads to the file of that node: to the initializer
of a package even beside a module file of its name, and to a module file where there is no such package. The
initializer of the source root is set apart; its id may be the name of another file, or of none. -/
theorem ids_lead_to_files
    (directory : disk.lookup (config.layout.sourceRoot project) = .ok (.dir entries))
    (stored : FileTree.Throughout FileTree.Storable (config.layout.sourceRoot project) (.dir entries))
    (undotted : FileTree.Throughout (fun _ => FileTree.Undotted) (config.layout.sourceRoot project)
      (.dir entries))
    (spelled : FileTree.Throughout (fun _ => FileTree.Spelled) (config.layout.sourceRoot project)
      (.dir entries))
    (success : run reader book disk project config request = .ok result)
    (whole : result.data.scan.Whole) (found : result.data.graph.get? id = some node)
    (inner : node.path ≠ ModulePath.initializerBelow (config.layout.sourceRoot project) []) :
    ModulePath.fileOf? disk (config.layout.sourceRoot project) id = some node.path := by
  obtain ⟨root, events, state, same, scanned, counted, passed, nodes⟩ := nodes_of_run success
  rw [Build.namingRoot_of_dir directory] at same
  rw [Scan.events_of_dir directory, Except.ok.injEq] at scanned
  subst same scanned
  rw [counted] at whole
  have owned := (Registration.owned_start _ _).addFiles passed
  obtain ⟨module, standing, path, _⟩ := nodes id node found
  obtain ⟨file, keeps, own⟩ := owned.kept id module standing
  rw [List.nil_append] at keeps
  rw [path, own] at inner ⊢
  exact ModulePath.fileOf?_of_keeps directory stored undotted spelled
    (Scan.leavesOutNothing_of_whole whole) keeps inner

/-- A package that is met before a module file of its name, below a root with an initializer. -/
def ownedEntries : List (RawText × FileTree) :=
  [("__init__.py", .file "import crm\n".toUTF8),
    ("crm", .dir [("__init__.py", .file "".toUTF8), ("mail.py", .file "".toUTF8)]),
    ("crm.py", .file "import os\n".toUTF8), ("notes.old.md", .file "".toUTF8)]

/-- A machine with these entries in the source root of a project. -/
def shopWith (entries : List (RawText × FileTree)) : FileSystem where
  top := .dir [("srv", .dir [("shop", .dir [("src", .dir entries)])])]
  workingDir := ["tmp"]

theorem ids_lead_to_files_crm :
    ∃ result node, run SourceText.readImports .empty (shopWith ownedEntries) ⟨"/srv/shop"⟩ shopConfig
        shopRequest = .ok result ∧
      result.data.scan.Whole ∧ result.data.graph.get? "crm" = some node ∧
      ModulePath.fileOf? (shopWith ownedEntries) ⟨"/srv/shop/src"⟩ "crm" = some node.path := by
  have directory : (shopWith ownedEntries).lookup (shopConfig.layout.sourceRoot ⟨"/srv/shop"⟩) =
      .ok (.dir ownedEntries) := rfl
  have outcome : ((run SourceText.readImports .empty (shopWith ownedEntries) ⟨"/srv/shop"⟩ shopConfig
      shopRequest).toOption.bind fun result => (result.data.graph.get? "crm").map fun node =>
        (result.data.scan, node.path)) =
      some ({ yielded := 5 }, ⟨"/srv/shop/src/crm/__init__.py"⟩) := by decide +kernel
  obtain ⟨result, ran, held⟩ := Option.bind_eq_some_iff.1 outcome
  obtain ⟨node, found, told⟩ := Option.map_eq_some_iff.1 held
  obtain ⟨scan, path⟩ := Prod.mk.inj told
  have success : run SourceText.readImports .empty (shopWith ownedEntries) ⟨"/srv/shop"⟩ shopConfig
      shopRequest = .ok result := by
    generalize run _ _ _ _ _ _ = outcome at ran
    cases outcome with
    | error fault => cases ran
    | ok other => exact congrArg Except.ok (Option.some.inj ran)
  have whole : result.data.scan.Whole := by
    rw [scan]
    decide
  have root : shopConfig.layout.sourceRoot ⟨"/srv/shop"⟩ = ⟨"/srv/shop/src"⟩ := by decide
  have inner : node.path ≠
      ModulePath.initializerBelow (shopConfig.layout.sourceRoot ⟨"/srv/shop"⟩) [] := by
    rw [path, root]
    decide
  have leads := ids_lead_to_files directory (by decide +kernel) (by decide +kernel) (by decide +kernel)
    success whole found inner
  rw [root] at leads
  exact ⟨result, node, success, whole, found, leads⟩

/-- A module file whose stem is one letter that is no UTF-8. -/
def latinEntries : List (RawText × FileTree) :=
  [(⟨[0xe9, 0x2e, 0x70, 0x79]⟩, .file "".toUTF8)]

/-- The id of a node is text, and text leads to no such file. -/
theorem id_leads_nowhere :
    (shopWith latinEntries).lookup ⟨"/srv/shop/src"⟩ = .ok (.dir latinEntries) ∧
    FileTree.Throughout FileTree.Storable ⟨"/srv/shop/src"⟩ (.dir latinEntries) ∧
    FileTree.Throughout (fun _ => FileTree.Undotted) ⟨"/srv/shop/src"⟩ (.dir latinEntries) ∧
    ((run SourceText.readImports .empty (shopWith latinEntries) ⟨"/srv/shop"⟩ shopConfig
      shopRequest).toOption.bind fun result => (result.data.graph.get? "\ufffd").map fun node =>
        (result.data.scan, node.path)) =
      some ({ yielded := 1 }, (⟨"/srv/shop/src"⟩ : Path).child ⟨[0xe9, 0x2e, 0x70, 0x79]⟩) ∧
    ModulePath.fileOf? (shopWith latinEntries) ⟨"/srv/shop/src"⟩ "\ufffd" = none := by
  refine ⟨rfl, ?_⟩
  decide +kernel

end Atlas

end LayerAtlas
