import LayerAtlas.Proofs.Relinking
import LayerAtlas.SourceText.Imports

/-!
# A broken file harms only itself

A module whose text is not there, cannot be read or does not parse is registered as one with an empty
text would be. It keeps its key, gives way to packages and is found by others like any module, and it has
no imports. So the builds with the broken file and with an empty one differ in what they record and
count about this one file. What carries the argument is that linking never looks at a text: registries that
differ in texts only have the same graph.
-/
namespace LayerAtlas

/-- A module without its text. -/
def ScannedModule.textless (module : ScannedModule) : ScannedModule :=
  { module with content := none }

namespace Registry

/-- A registry without the texts of its modules. -/
def textless (registry : Registry) : Registry :=
  { registry with modules := registry.modules.mapValues ScannedModule.textless }

theorem keepsPlace_textless : ScannedModule.KeepsPlace ScannedModule.textless :=
  ⟨fun _ _ => rfl, fun _ => rfl⟩

/-- Linking passes over texts. -/
theorem linksAlike_textless (registry : Registry) : registry.LinksAlike ScannedModule.textless id where
  toKeepsPlace := keepsPlace_textless
  imports module := (List.map_id module.imports).symm
  names _ := rfl
  resolveModule _ _ := rfl
  resolveSubmodule _ _ _ := rfl

/-- Registries of modules that differ in their texts only differ in texts only. -/
theorem foldl_enroll_textless (modules : List ScannedModule) (registry : Registry) :
    (modules.foldl enroll registry).textless =
      (modules.map ScannedModule.textless).foldl enroll registry.textless :=
  foldl_enroll_mapModules keepsPlace_textless modules registry

theorem linkedGraph_textless (registry : Registry) :
    registry.textless.linkedGraph = registry.linkedGraph :=
  registry.linksAlike_textless.linkedGraph_eq

theorem allTargets_textless (registry : Registry) :
    registry.textless.allTargets = registry.allTargets :=
  registry.linksAlike_textless.allTargets_eq

end Registry

/-- What a reader of imports is relied on for: an empty text has none, and whether a text parses does not
depend on the name of its module. -/
structure ImportReader.Lawful (reader : ImportReader) : Prop where
  empty : ∀ path name, path.extension? = some (.ofString "py") → reader "" path name = .ok []
  faults : ∀ text path name other fault, reader text path name = .error fault →
    reader text path other = .error fault

theorem SourceText.lawful_readImports : ImportReader.Lawful readImports where
  empty := by
    intro path name extension
    have language : Language.ofPath? path = some .python := by
      rw [Language.ofPath?, if_pos extension]
    have empty : tree "" = .ok [] := rfl
    unfold readImports
    rw [if_pos language, empty]
    rfl
  faults := by
    intro text path name other fault failed
    unfold readImports at failed ⊢
    by_cases language : Language.ofPath? path = some .python
    · rw [if_pos language] at failed ⊢
      cases parsed : tree text with
      | ok statements => rw [parsed] at failed; cases failed
      | error stuck => rw [parsed] at failed; exact failed
    · rw [if_neg language] at failed ⊢
      exact failed

/-- A file whose text is not there, could not be read or does not parse. -/
def SourceFile.IsBroken (reader : ImportReader) (file : SourceFile) : Prop :=
  file.isReadable = false ∨
    ∃ text name fault, file.content = some text ∧ reader text file.path name = .error fault

namespace Registration

variable {reader : ImportReader} {root : Path} {rootPackage : Option String} {file : SourceFile}

theorem moduleName_readable (root : Path) (file : SourceFile) (text : String) :
    moduleName? root (.readable file.path text) = moduleName? root file := rfl

/-- A broken file is registered without imports. -/
theorem importsOf_of_isBroken (lawful : reader.Lawful) (broken : file.IsBroken reader) (name : String) :
    importsOf reader file name = [] := by
  unfold importsOf
  split
  · next text content readable =>
    rcases broken with unreadable | ⟨other, caller, fault, known, failed⟩
    · rw [readable] at unreadable
      cases unreadable
    · obtain rfl : text = other := Option.some.inj (content.symm.trans known)
      rw [lawful.faults _ _ _ name _ failed]
  · rfl

/-- Text apart, a broken file stands for the same module as an empty one. -/
theorem scannedModule_of_isBroken (lawful : reader.Lawful) (root : Path)
    (broken : file.IsBroken reader) :
    (scannedModule? reader root file).map ScannedModule.textless =
      (scannedModule? reader root (.readable file.path "")).map
        ScannedModule.textless := by
  unfold scannedModule?
  rw [moduleName_readable]
  cases named : moduleName? root file with
  | none => rfl
  | some name =>
    have none : importsOf reader (.readable file.path "") name = [] :=
      importsOf_of_read (lawful.empty _ name (extension_of_moduleName named))
    simp only [Option.map_some, importsOf_of_isBroken lawful broken, none]
    rfl

/-- An empty file has no fault and can be read. -/
theorem parseFault_empty (lawful : reader.Lawful) (root : Path) (file : SourceFile) :
    parseFault? reader root (.readable file.path "") = none := by
  cases named : moduleName? root (.readable file.path "") with
  | none => rw [parseFault?, named, Option.bind_none]
  | some name =>
    exact parseFault_of_read named
      (lawful.empty _ name (extension_of_moduleName named))

theorem isUnreadableModule_empty (root : Path) (file : SourceFile) :
    isUnreadableModule root (.readable file.path "") = false := by
  simp [isUnreadableModule, SourceFile.readable, SourceFile.isReadable]

/-- A broken module is counted once: as one that cannot be read, or as one that does not parse. -/
theorem count_of_isBroken (lawful : reader.Lawful) (broken : file.IsBroken reader)
    (module : (moduleName? root file).isSome = true) :
    (if isUnreadableModule root file then 1 else 0) +
      (parseFault? reader root file).toList.length = 1 := by
  obtain ⟨name, named⟩ := Option.isSome_iff_exists.1 module
  unfold isUnreadableModule parseFault?
  rw [named, Option.bind_some, Option.isSome_some, Bool.true_and]
  cases readable : file.isReadable with
  | false => cases file.content <;> rfl
  | true =>
    rcases broken with unreadable | ⟨text, caller, fault, content, failed⟩
    · rw [readable] at unreadable
      cases unreadable
    · rw [content]
      dsimp only
      rw [lawful.faults _ _ _ name _ failed]
      rfl

/-- The faults of files on both sides of one, and its own between them. -/
theorem parseFaults_insert (reader : ImportReader) (root : Path) (before after : List SourceFile)
    (file : SourceFile) :
    parseFaults reader root (before ++ file :: after) =
      parseFaults reader root before ++ (parseFault? reader root file).toList ++
        parseFaults reader root after := by
  rw [List.append_cons, parseFaults, List.filterMap_append]
  exact congrArg (· ++ _) (parseFaults_append_singleton reader root before file)

/-- With a broken file and with an empty one the registries differ in texts only. -/
theorem registryOf_of_isBroken (lawful : reader.Lawful) (root : Path) (rootPackage : Option String)
    (before after : List SourceFile) (broken : file.IsBroken reader) :
    (registryOf reader root rootPackage (before ++ file :: after)).textless =
      (registryOf reader root rootPackage
        (before ++ .readable file.path "" :: after)).textless := by
  unfold registryOf scannedModules
  rw [Registry.foldl_enroll_textless, Registry.foldl_enroll_textless, List.map_filterMap,
    List.map_filterMap, List.filterMap_append, List.filterMap_append, List.filterMap_cons,
    List.filterMap_cons, scannedModule_of_isBroken lawful root broken]

end Registration

namespace Build

open Registration (moduleName? parseFault? parseFaults isUnreadableModule registryOf)

/-- The counters with a broken file are those with an empty one, and it is counted as what it is. -/
theorem statsOf_of_isBroken {reader : ImportReader} {file : SourceFile} (lawful : reader.Lawful)
    (root : Path) (rootPackage : Option String) (before after : List SourceFile)
    (broken : file.IsBroken reader) :
    let mended := statsOf reader root rootPackage (before ++ .readable file.path "" :: after)
    statsOf reader root rootPackage (before ++ file :: after) = { mended with
      unreadable := mended.unreadable + if isUnreadableModule root file then 1 else 0
      unparsable := mended.unparsable + (parseFault? reader root file).toList.length } := by
  have registries := Registration.registryOf_of_isBroken lawful root rootPackage before after broken
  have targets := congrArg Registry.allTargets registries
  rw [Registry.allTargets_textless, Registry.allTargets_textless] at targets
  have size (registry : Registry) : registry.textless.size = registry.size :=
    Keyed.size_mapValues _ _
  have sizes := congrArg Registry.size registries
  rw [size, size] at sizes
  have readable := Registration.isUnreadableModule_empty root file
  have unreadables : (before ++ file :: after).countP (isUnreadableModule root) =
      (before ++ .readable file.path "" :: after).countP (isUnreadableModule root) +
        if isUnreadableModule root file then 1 else 0 := by
    simp [List.countP_append, List.countP_cons, readable, Nat.add_assoc]
  have unparsables : (parseFaults reader root (before ++ file :: after)).length =
      (parseFaults reader root (before ++ .readable file.path "" :: after)).length +
        (parseFault? reader root file).toList.length := by
    simp only [Registration.parseFaults_insert, Registration.parseFault_empty lawful,
      List.length_append, Option.toList_none, List.length_nil]
    omega
  have strangers : (before ++ file :: after).countP (fun file => (moduleName? root file).isNone) =
      (before ++ .readable file.path "" :: after).countP
        fun file => (moduleName? root file).isNone := by
    simp [List.countP_append, List.countP_cons, Registration.moduleName_readable]
  unfold statsOf
  simp only [sizes, targets, unreadables, unparsables, strangers]

/-- A tolerant build with a broken file in any place, and the same build with an empty file there, give
the same graph and the same counters but those of the broken file itself: a module is counted once more
as unreadable or as unparsable. The errors are the same but for the one that the file has. So it is with any
reader that is lawful, as the one for imports of a text is. -/
theorem tolerant_isolates_broken :
    ImportReader.Lawful SourceText.readImports ∧
    ∀ reader : ImportReader, reader.Lawful →
      ∀ root rootPackage before after file, file.IsBroken reader →
        ∃ flawed mended,
          tolerant reader root rootPackage (before ++ file :: after) = .ok flawed ∧
          tolerant reader root rootPackage (before ++ .readable file.path "" :: after) = .ok mended ∧
          flawed.data.graph = mended.data.graph ∧
          flawed.data.stats = { mended.data.stats with
            unreadable := mended.data.stats.unreadable + if isUnreadableModule root file then 1 else 0
            unparsable := mended.data.stats.unparsable +
              (parseFault? reader root file).toList.length } ∧
          ((moduleName? root file).isSome = true →
            (if isUnreadableModule root file then 1 else 0) +
              (parseFault? reader root file).toList.length = 1) ∧
          ∃ earlier later, mended.errors = earlier ++ later ∧
            flawed.errors = earlier ++ (parseFault? reader root file).toList.map .parse ++ later := by
  refine ⟨SourceText.lawful_readImports, ?_⟩
  intro reader lawful root rootPackage before after file broken
  have graphs := congrArg Registry.linkedGraph
    (Registration.registryOf_of_isBroken lawful root rootPackage before after broken)
  rw [Registry.linkedGraph_textless, Registry.linkedGraph_textless] at graphs
  refine ⟨_, _, run_skip_eq _ root rootPackage _, run_skip_eq _ root rootPackage _, graphs,
    statsOf_of_isBroken lawful root rootPackage before after broken,
    Registration.count_of_isBroken lawful broken, (parseFaults reader root before).map .parse,
    (parseFaults reader root after).map .parse, ?_, ?_⟩
  · dsimp only
    rw [Registration.parseFaults_insert, Registration.parseFault_empty lawful, Option.toList_none,
      List.append_nil, List.map_append]
  · dsimp only
    rw [Registration.parseFaults_insert, List.map_append, List.map_append]

/-- A package whose initializer does not parse still keeps its name against a module file. -/
theorem tolerant_isolates_package :
    let files (core : SourceFile) : List SourceFile :=
      [.readable ⟨"shop/core.py"⟩ "import main\n", core, .readable ⟨"shop/main.py"⟩ "import core\n"]
    ∃ flawed mended,
      tolerant SourceText.readImports ⟨"shop"⟩ none
        (files (.readable ⟨"shop/core/__init__.py"⟩ "def (\n")) = .ok flawed ∧
      tolerant SourceText.readImports ⟨"shop"⟩ none
        (files (.readable ⟨"shop/core/__init__.py"⟩ "")) = .ok mended ∧
      flawed.data.graph = mended.data.graph ∧
      flawed.data.stats.resolved = mended.data.stats.resolved ∧
      flawed.data.stats.unparsable = mended.data.stats.unparsable + 1 := by
  have broken : (SourceFile.readable ⟨"shop/core/__init__.py"⟩ "def (\n").IsBroken
      SourceText.readImports :=
    .inr ⟨"def (\n", "core", .invalidText ⟨"shop/core/__init__.py"⟩ 1 "unexpected (", rfl,
      by decide +kernel⟩
  have unparsable : (parseFault? SourceText.readImports ⟨"shop"⟩
      (.readable ⟨"shop/core/__init__.py"⟩ "def (\n")).toList.length = 1 := by decide +kernel
  obtain ⟨lawful, isolates⟩ := tolerant_isolates_broken
  obtain ⟨flawed, mended, flawedRun, mendedRun, graphs, stats, -⟩ :=
    isolates SourceText.readImports lawful ⟨"shop"⟩ none [.readable ⟨"shop/core.py"⟩ "import main\n"]
      [.readable ⟨"shop/main.py"⟩ "import core\n"] _ broken
  refine ⟨flawed, mended, flawedRun, mendedRun, graphs, by rw [stats], ?_⟩
  rw [stats, unparsable]

end Build

end LayerAtlas
