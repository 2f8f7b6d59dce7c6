import LayerAtlas.Pipeline
import LayerAtlas.Proofs.BuildResult
import LayerAtlas.SourceText.Imports

/-!
# Files that are passed over

A run sees of a source root only the texts in the analysed language whose names are not ignored, in
directories that are entered. Cutting a tree down to these leaves the order of what remains as it is, and
the order is all that decides who keeps a key and which fault comes first. So trees with the same remainder
have the same run, but for the counters of what was passed over.
-/
namespace LayerAtlas

namespace Scan

variable {config : ScanConfig}

mutual

/-- What of an entry called `name` with this path bears on a run. -/
def keptTree? (config : ScanConfig) (path : Path) (name : RawText) : FileTree → Option FileTree
  | .file bytes =>
    if path.isPrimarySource && !config.effectiveIgnoredFiles.contains name.lossy then some (.file bytes)
    else none
  | .dir entries =>
    if excludes config name then none else some (.dir (keptEntries config path entries))

/-- The entries of a directory that bear on a run, each cut down in turn. -/
def keptEntries (config : ScanConfig) (path : Path) :
    List (RawText × FileTree) → List (RawText × FileTree)
  | [] => []
  | (name, tree) :: rest =>
    match keptTree? config (path.child name) name tree with
    | some kept => (name, kept) :: keptEntries config path rest
    | none => keptEntries config path rest

end

theorem files_append (events others : List ScanEvent) :
    files (events ++ others) = files events ++ files others :=
  List.filterMap_append

theorem path_ofBytes (path : Path) (bytes : ByteArray) :
    (SourceFile.ofBytes path bytes).path = path := by
  unfold SourceFile.ofBytes
  split <;> rfl

theorem events_of_dir {disk : FileSystem} {root : Path} {entries : List (RawText × FileTree)}
    (directory : disk.lookup root = .ok (.dir entries)) :
    events disk config root = .ok (dirEvents config root entries) := by
  rw [events, directory]

/-- The primary sources among the files of a scan. -/
def sources (events : List ScanEvent) : List SourceFile :=
  (files events).filter (·.path.isPrimarySource)

theorem sources_append (events others : List ScanEvent) :
    sources (events ++ others) = sources events ++ sources others := by
  rw [sources, files_append, List.filter_append]
  rfl

/-- A file that is cut off gives no primary source. -/
theorem sources_fileEvent (config : ScanConfig) (path : Path) (name : RawText) (bytes : ByteArray) :
    sources [fileEvent config path name bytes] =
      if path.isPrimarySource && !config.effectiveIgnoredFiles.contains name.lossy then
        [.ofBytes path bytes]
      else [] := by
  unfold fileEvent
  cases config.effectiveIgnoredFiles.contains name.lossy with
  | true => simp [sources, files, ScanEvent.file?]
  | false =>
    cases source : path.isPrimarySource with
    | true => simp [sources, files, ScanEvent.file?, path_ofBytes, source]
    | false =>
      by_cases large : config.effectiveMaxFileSize < bytes.size
      · simp [sources, files, ScanEvent.file?, large]
      · simp [sources, files, ScanEvent.file?, path_ofBytes, source, large]

/-! A scan finds the primary sources of what is kept, and no others: one case for each kind of entry,
carried over a directory entry after entry. -/

mutual

theorem sources_entryEvents (config : ScanConfig) (path : Path) (name : RawText) :
    ∀ tree : FileTree, sources (entryEvents config path name tree) =
      ((keptTree? config path name tree).map fun kept =>
        sources (entryEvents config path name kept)).getD []
  | .file bytes => by
    rw [keptTree?]
    split
    · rfl
    · next passed => rw [entryEvents, sources_fileEvent, if_neg passed]; rfl
  | .dir entries => by
    rw [keptTree?, entryEvents]
    split
    · rfl
    · next entered =>
      rw [Option.map_some, Option.getD_some, entryEvents, if_neg entered]
      exact sources_dirEvents config path entries

theorem sources_dirEvents (config : ScanConfig) (path : Path) :
    ∀ entries : List (RawText × FileTree), sources (dirEvents config path entries) =
      sources (dirEvents config path (keptEntries config path entries))
  | [] => rfl
  | (name, tree) :: rest => by
    rw [keptEntries, dirEvents, sources_append, sources_entryEvents config (path.child name) name tree,
      sources_dirEvents config path rest]
    cases keptTree? config (path.child name) name tree with
    | none => rfl
    | some kept => rw [dirEvents, sources_append]; rfl

end

end Scan

namespace Registration

theorem moduleName_of_not_isPrimarySource {file : SourceFile} (foreign : file.path.isPrimarySource = false)
    (root : Path) : moduleName? root file = none :=
  if_neg (of_decide_eq_false foreign)

/-- What files that are no primary sources do not have can be had from the others. -/
theorem filterMap_sources {α : Type} {part : SourceFile → Option α}
    (foreign : ∀ file, file.path.isPrimarySource = false → part file = none)
    (files : List SourceFile) :
    (files.filter (·.path.isPrimarySource)).filterMap part = files.filterMap part := by
  rw [List.filterMap_filter]
  congr 1
  funext file
  cases source : file.path.isPrimarySource with
  | true => rfl
  | false => exact (foreign file source).symm

theorem countP_isUnreadableModule_sources (root : Path) (files : List SourceFile) :
    (files.filter (·.path.isPrimarySource)).countP (isUnreadableModule root) =
      files.countP (isUnreadableModule root) := by
  rw [List.countP_filter]
  congr 1
  funext file
  cases source : file.path.isPrimarySource with
  | true => rw [Bool.and_true]
  | false => simp [isUnreadableModule, moduleName_of_not_isPrimarySource source]

variable (reader : ImportReader) (root : Path)

theorem parseFaults_sources (files : List SourceFile) :
    parseFaults reader root (files.filter (·.path.isPrimarySource)) =
      parseFaults reader root files := by
  refine filterMap_sources (fun file foreign => ?_) files
  rw [parseFault?, moduleName_of_not_isPrimarySource foreign, Option.bind_none]

theorem registryOf_sources (rootPackage : Option String) (files : List SourceFile) :
    registryOf reader root rootPackage (files.filter (·.path.isPrimarySource)) =
      registryOf reader root rootPackage files := by
  unfold registryOf scannedModules
  rw [filterMap_sources fun file foreign => ?_]
  rw [scannedModule?, moduleName_of_not_isPrimarySource foreign, Option.map_none]

end Registration

/-- A build without the count of the files that are no modules. -/
def BuiltGraph.modulesOnly (built : BuiltGraph) : BuiltGraph :=
  { built with stats := { built.stats with skipped := 0 } }

namespace Build

open Registration (parseFaults)

/-- Modules are named against the source root itself where it is a directory. -/
theorem namingRoot_of_dir {disk : FileSystem} {root : Path} {entries : List (RawText × FileTree)}
    (directory : disk.lookup root = .ok (.dir entries)) : namingRoot disk root = root := by
  rw [namingRoot, FileSystem.isFileAt, directory]
  rfl

variable (reader : ImportReader) (root : Path) (rootPackage : Option String)

theorem run_skip_sources (files : List SourceFile) :
    (run reader root rootPackage .skip (files.filter (·.path.isPrimarySource))).map
        (Recorded.map BuiltGraph.modulesOnly) =
      (run reader root rootPackage .skip files).map (Recorded.map BuiltGraph.modulesOnly) := by
  rw [run_skip_eq, run_skip_eq, statsOf, statsOf, Registration.registryOf_sources,
    Registration.parseFaults_sources, Registration.countP_isUnreadableModule_sources]
  rfl

/-- Whichever way a build goes on after a fault, only its primary sources bear on it. -/
theorem run_sources (policy : ParsePolicy) (files : List SourceFile) :
    (run reader root rootPackage policy (files.filter (·.path.isPrimarySource))).map
        (Recorded.map BuiltGraph.modulesOnly) =
      (run reader root rootPackage policy files).map (Recorded.map BuiltGraph.modulesOnly) := by
  cases policy with
  | skip => exact run_skip_sources reader root rootPackage files
  | abort =>
    rw [run_abort, run_abort, Registration.parseFaults_sources]
    cases parseFaults reader root files with
    | nil => exact run_skip_sources reader root rootPackage files
    | cons fault rest => rfl

end Build

namespace Atlas

variable {disk other : FileSystem} {project : Path} {config : Config}
  {entries others : List (RawText × FileTree)}

/-- What a run tells about modules: all but the counters of what it passed over. -/
def modulesOnly (atlas : Atlas) : Atlas :=
  { atlas with scan := {}, build := { atlas.build with skipped := 0 } }

/-- The stages of a run that follow the build. -/
def afterBuild (book : RuleBook) (root : Path) (request : ViewRequest)
    (built : Recorded BuiltGraph) : Except RunError (Recorded Atlas) :=
  let classified := built.data.graph.classify book root
  match classified.fault with
  | some fault => .error (.graph fault)
  | none =>
    let visible := visibleIds classified.graph (request.anchorFocus root)
    let (graph, finalized) := finalize classified.graph visible
    .ok ⟨⟨graph, visible, .ofGraph graph visible, {}, built.data.stats, classified.stats,
      finalized⟩, built.errors⟩

/-- A run over a source root that is a directory builds the files below it and knows no more of them. -/
theorem run_dir (directory : disk.lookup (config.layout.sourceRoot project) = .ok (.dir entries))
    (reader : ImportReader) (book : RuleBook) (request : ViewRequest) :
    (run reader book disk project config request).map (Recorded.map modulesOnly) =
      ((Build.run reader (config.layout.sourceRoot project) (config.layout.rootPackageName? project)
        config.scan.effectiveOnParseError
        (Scan.files (Scan.dirEvents config.scan (config.layout.sourceRoot project) entries))).map
          (Recorded.map BuiltGraph.modulesOnly)).bind
        (afterBuild book (config.layout.sourceRoot project) request) := by
  unfold run
  simp only [Scan.events_of_dir directory, Build.namingRoot_of_dir directory, bind, Except.bind,
    Except.mapError]
  cases Build.run reader (config.layout.sourceRoot project) (config.layout.rootPackageName? project)
      config.scan.effectiveOnParseError
      (Scan.files (Scan.dirEvents config.scan (config.layout.sourceRoot project) entries)) with
  | error fault => rfl
  | ok built =>
    simp only [Except.map, Recorded.map, BuiltGraph.modulesOnly, afterBuild]
    cases (built.data.graph.classify book (config.layout.sourceRoot project)).fault <;> rfl

/-- Files that are not in the analysed language or are ignored by name, and all that lies in directories
which are hidden or excluded by name, have no influence on a run: source roots that are the same without
them give the same error, or results that differ in the counters of what was passed over only. -/
theorem run_ignores_passed_over
    (directory : disk.lookup (config.layout.sourceRoot project) = .ok (.dir entries))
    (otherDirectory : other.lookup (config.layout.sourceRoot project) = .ok (.dir others))
    (same : Scan.keptEntries config.scan (config.layout.sourceRoot project) entries =
      Scan.keptEntries config.scan (config.layout.sourceRoot project) others)
    (reader : ImportReader) (book : RuleBook) (request : ViewRequest) :
    (run reader book disk project config request).map (Recorded.map modulesOnly) =
      (run reader book other project config request).map (Recorded.map modulesOnly) := by
  have sources : Scan.sources (Scan.dirEvents config.scan (config.layout.sourceRoot project) entries) =
      Scan.sources (Scan.dirEvents config.scan (config.layout.sourceRoot project) others) := by
    rw [Scan.sources_dirEvents, same, ← Scan.sources_dirEvents]
  unfold Scan.sources at sources
  rw [run_dir directory, run_dir otherDirectory, ← Build.run_sources, sources, Build.run_sources]

/-- A hidden directory, notes, an ignored file and a cache come and go beside two modules. -/
theorem run_ignores_clutter :
    let modules : List (RawText × FileTree) :=
      [("billing", .dir [("order.py", .file "import mail\n".toUTF8)]), ("mail.py", .file "".toUTF8)]
    let cluttered : List (RawText × FileTree) :=
      (".git", .dir [("hook.py", .file "import".toUTF8)]) :: ("README.md", .file "TODO".toUTF8) ::
        ("__pycache__", .dir [("mail.py", .file "".toUTF8)]) :: modules
    let disk (entries : List (RawText × FileTree)) : FileSystem :=
      ⟨.dir [("srv", .dir [("shop", .dir [("src", .dir entries)])])], ["tmp"]⟩
    (run SourceText.readImports .standard (disk modules) ⟨"/srv/shop"⟩ {} {}).map
        (Recorded.map modulesOnly) =
      (run SourceText.readImports .standard (disk cluttered) ⟨"/srv/shop"⟩ {} {}).map
        (Recorded.map modulesOnly) := by
  intro modules cluttered disk
  have directory (entries : List (RawText × FileTree)) :
      (disk entries).lookup (({} : Config).layout.sourceRoot ⟨"/srv/shop"⟩) = .ok (.dir entries) := rfl
  exact run_ignores_passed_over (directory modules) (directory cluttered) rfl _ _ _

end Atlas

end LayerAtlas
