import LayerAtlas.Proofs.Linking
import Mathlib.Data.List.Nodup

/-!
# No module is lost

A tolerant build never fails, and it accounts for every file: it skips those that are no modules below
the root and registers the others, each node standing for one of them. Modules with different dotted
names keep different keys, with one exception: the initializer of the source root takes the name of the
root package, so where another module has that name, one of the two is lost and nothing counts it.
-/
namespace LayerAtlas

namespace Registry

/-- The initializer of the source root always has a name in place of its empty one. -/
theorem keyFor_new_ne (rootPackage : Option String) (name : String) :
    (new rootPackage).keyFor name ≠ "" := by
  unfold keyFor new
  by_cases root : name = ""
  · rw [if_pos root]
    cases package : rootPackage.filter (· ≠ "") with
    | none => decide
    | some given => simpa using (Option.filter_eq_some_iff.1 package).2
  · rwa [if_neg root]

theorem keyFor_eq_keyFor {registry : Registry} {first second : String}
    (same : registry.keyFor first = registry.keyFor second) :
    first = second ∨ (first = "" ∧ second = registry.keyFor "") ∨
      (second = "" ∧ first = registry.keyFor "") := by
  by_cases one : first = ""
  · by_cases two : second = ""
    · exact .inl (one.trans two.symm)
    · rw [one, keyFor_of_ne two] at same
      exact .inr (.inl ⟨one, same.symm⟩)
  · rw [keyFor_of_ne one] at same
    by_cases two : second = ""
    · rw [two] at same
      exact .inr (.inr ⟨two, same⟩)
    · rw [keyFor_of_ne two] at same
      exact .inl same

end Registry

namespace Registration

variable {reader : ImportReader} {root : Path} {rootPackage : Option String} {policy : ParsePolicy}
  {state next : Registration} {file : SourceFile} {files : List SourceFile}

/-- The dotted names of all modules among the files. -/
def moduleNames (root : Path) (files : List SourceFile) : List String :=
  files.filterMap (moduleName? root)

/-- The initializer of the source root and another module under the name that it takes. -/
def RootClash (root : Path) (rootPackage : Option String) (files : List SourceFile) : Prop :=
  "" ∈ moduleNames root files ∧ (Registry.new rootPackage).keyFor "" ∈ moduleNames root files

instance : Decidable (RootClash root rootPackage files) :=
  inferInstanceAs (Decidable (_ ∧ _))

theorem stats_add (state : Registration) (module : ScannedModule) :
    (state.add module).stats = state.stats := by
  unfold add
  split
  · split <;> rfl
  · rfl

/-- A file is counted as skipped exactly when it is no module. -/
theorem skipped_addFile (success : state.addFile reader root policy file = .ok next) :
    next.stats.skipped + (moduleName? root file).toList.length = state.stats.skipped + 1 := by
  rcases addFile_cases success with ⟨nameless, rfl⟩ | ⟨name, read, imports, named, reading, rfl⟩
  · rw [nameless]
    rfl
  · rw [named, stats_add, (readImports_frame reading).2]
    rfl

/-- What holds of the state after the files of a list: each file is skipped or named, and each module
stands for one of the files with its key. -/
structure Accounted (root : Path) (rootPackage : Option String) (files : List SourceFile)
    (state : Registration) : Prop where
  registered : Registered root rootPackage files state.registry
  skipped : state.stats.skipped + (moduleNames root files).length = files.length
  sourced : ∀ key module, state.registry.modules.get? key = some module →
    ∃ file ∈ files, keyOf? root rootPackage file = some key ∧ module.path = file.path

theorem accounted_start (root : Path) (rootPackage : Option String) :
    Accounted root rootPackage [] (start rootPackage) where
  registered := registered_start root rootPackage
  skipped := rfl
  sourced := by
    intro key module found
    cases found

theorem Accounted.addFile (done : Accounted root rootPackage files state)
    (success : state.addFile reader root policy file = .ok next) :
    Accounted root rootPackage (files ++ [file]) next where
  registered := done.registered.addFile success
  skipped := by
    have one := skipped_addFile success
    have before := done.skipped
    have names : moduleNames root (files ++ [file]) =
        moduleNames root files ++ (moduleName? root file).toList := by
      rw [moduleNames, List.filterMap_append]
      rfl
    rw [names, List.length_append, List.length_append, List.length_singleton]
    omega
  sourced := by
    intro key module found
    have old : ∀ other, state.registry.modules.get? key = some other →
        ∃ source ∈ files ++ [file], keyOf? root rootPackage source = some key ∧
          other.path = source.path := by
      intro other standing
      obtain ⟨source, member, keyed, path⟩ := done.sourced key other standing
      exact ⟨source, List.mem_append_left _ member, keyed, path⟩
    rcases addFile_cases success with ⟨_, rfl⟩ | ⟨name, read, imports, named, reading, rfl⟩
    · exact old module found
    · obtain ⟨same, _⟩ := readImports_frame reading
      rcases registry_add_cases read ⟨name, file.path, file.content, imports⟩ with
        ⟨kept, _⟩ | inserted
      · rw [kept, same] at found
        exact old module found
      · rw [inserted, same] at found
        unfold Registry.insert at found
        rw [Keyed.get?_insert] at found
        split at found
        · next own =>
          cases found
          refine ⟨file, List.mem_append_right _ List.mem_cons_self, ?_, rfl⟩
          rw [keyOf?_eq_map, named, Option.map_some, own]
          exact congrArg some (Registry.keyFor_congr done.registered.package name).symm
        · exact old module found

theorem Accounted.addFiles {before : List SourceFile}
    (done : Accounted root rootPackage before state)
    (success : state.addFiles reader root policy files = .ok next) :
    Accounted root rootPackage (before ++ files) next :=
  addFiles_invariant (Accounted root rootPackage) Accounted.addFile done success

/-- Without stopping at files that do not parse, every file is passed. -/
theorem exists_addFile (reader : ImportReader) (root : Path) (state : Registration)
    (file : SourceFile) : ∃ next, state.addFile reader root .skip file = .ok next := by
  rw [addFile_eq]
  cases moduleName? root file with
  | none => exact ⟨state.skip, rfl⟩
  | some name =>
    dsimp only
    unfold readImports
    split
    · split
      · exact ⟨_, rfl⟩
      · exact ⟨_, rfl⟩
    · exact ⟨_, rfl⟩

theorem exists_addFiles (reader : ImportReader) (root : Path) (state : Registration)
    (files : List SourceFile) : ∃ next, state.addFiles reader root .skip files = .ok next := by
  induction files generalizing state with
  | nil => exact ⟨state, rfl⟩
  | cons head tail ih =>
    obtain ⟨middle, first⟩ := exists_addFile reader root state head
    obtain ⟨last, rest⟩ := ih middle
    refine ⟨last, ?_⟩
    unfold addFiles
    rw [List.foldlM_cons, first]
    exact rest

/-- The names that keep a key of their own: where the root's initializer shares its key, one of the two
does not count. -/
def keptNames (root : Path) (rootPackage : Option String) (files : List SourceFile) : List String :=
  if RootClash root rootPackage files then (moduleNames root files).erase ""
  else moduleNames root files

theorem nodup_keys (distinct : (moduleNames root files).Nodup) :
    ((keptNames root rootPackage files).map (Registry.new rootPackage).keyFor).Nodup := by
  unfold keptNames
  split
  · next clash =>
    -- Two names share a key only where one of them is the root's own, which is left out here.
    refine List.Nodup.map_on ?_ (distinct.erase "")
    intro first one second two same
    have first_ne := (distinct.mem_erase_iff.1 one).1
    have second_ne := (distinct.mem_erase_iff.1 two).1
    rcases Registry.keyFor_eq_keyFor same with equal | ⟨empty, _⟩ | ⟨empty, _⟩
    · exact equal
    · exact absurd empty first_ne
    · exact absurd empty second_ne
  · next apart =>
    refine List.Nodup.map_on ?_ distinct
    intro first one second two same
    rcases Registry.keyFor_eq_keyFor same with equal | ⟨rfl, rfl⟩ | ⟨rfl, rfl⟩
    · exact equal
    · exact absurd ⟨one, two⟩ apart
    · exact absurd ⟨two, one⟩ apart

/-- Leaving out the root's own name where it shares its key loses no key. -/
theorem mem_keys_iff {key : String} :
    key ∈ (keptNames root rootPackage files).map (Registry.new rootPackage).keyFor ↔
      key ∈ (moduleNames root files).map (Registry.new rootPackage).keyFor := by
  unfold keptNames
  split
  · next clash =>
    simp only [List.mem_map]
    constructor
    · rintro ⟨name, member, rfl⟩
      exact ⟨name, List.mem_of_mem_erase member, rfl⟩
    · rintro ⟨name, member, rfl⟩
      by_cases root : name = ""
      · -- The root's own name gives the key that the clashing module has by its name.
        have named := Registry.keyFor_new_ne rootPackage ""
        refine ⟨(Registry.new rootPackage).keyFor "", (List.mem_erase_of_ne named).2 clash.2, ?_⟩
        rw [Registry.keyFor_keyFor, root]
      · exact ⟨name, (List.mem_erase_of_ne root).2 member, rfl⟩
  · rfl

theorem length_keptNames (root : Path) (rootPackage : Option String) (files : List SourceFile) :
    (keptNames root rootPackage files).length + (if RootClash root rootPackage files then 1 else 0) =
      (moduleNames root files).length := by
  unfold keptNames
  split
  · next clash =>
    have some := List.length_pos_of_mem clash.1
    rw [List.length_erase_of_mem clash.1]
    omega
  · rfl

/-- The keys of the registry are those of the kept names, each once. -/
theorem Accounted.keys_perm (done : Accounted root rootPackage files state)
    (distinct : (moduleNames root files).Nodup) :
    state.registry.modules.keys.Perm
      ((keptNames root rootPackage files).map (Registry.new rootPackage).keyFor) := by
  refine (List.perm_ext_iff_of_nodup (nodup_of_increasing (Keyed.sorted_keys _))
    (nodup_keys distinct)).2 fun key => ?_
  rw [Keyed.mem_keys_iff, done.registered.keys, mem_keys_iff]
  simp only [keyOf?_eq_map, Option.map_eq_some_iff, moduleNames, List.mem_map, List.mem_filterMap]
  constructor
  · rintro ⟨file, member, name, named, keyed⟩
    exact ⟨name, ⟨file, member, named⟩, keyed⟩
  · rintro ⟨name, ⟨file, member, named⟩, keyed⟩
    exact ⟨file, member, name, named, keyed⟩

/-- No two files of a list have one dotted name. -/
theorem file_unique {first second : SourceFile} {name : String}
    (distinct : (moduleNames root files).Nodup) (one : first ∈ files) (two : second ∈ files)
    (firstName : moduleName? root first = some name)
    (secondName : moduleName? root second = some name) : first = second := by
  induction files with
  | nil => cases one
  | cons head tail ih =>
    have apart : ∀ other ∈ tail, moduleName? root head = some name →
        moduleName? root other = some name → False := by
      intro other member headName otherName
      have named : name ∈ moduleNames root tail := List.mem_filterMap.2 ⟨other, member, otherName⟩
      rw [moduleNames, List.filterMap_cons_some headName, List.nodup_cons] at distinct
      exact distinct.1 named
    rcases List.mem_cons.1 one with rfl | firstBehind
    · rcases List.mem_cons.1 two with rfl | secondBehind
      · rfl
      · exact (apart second secondBehind firstName secondName).elim
    · rcases List.mem_cons.1 two with rfl | secondBehind
      · exact (apart first firstBehind secondName firstName).elim
      · have rest : (moduleNames root tail).Nodup := by
          refine distinct.sublist ?_
          exact (List.sublist_cons_self head tail).filterMap (moduleName? root)
        exact ih rest firstBehind secondBehind

/-- The module under the key of a file is that of the file, unless the root's name shares the key. -/
theorem Accounted.exists_module (done : Accounted root rootPackage files state)
    (distinct : (moduleNames root files).Nodup) (member : file ∈ files) {name : String}
    (named : moduleName? root file = some name)
    (apart : RootClash root rootPackage files →
      (Registry.new rootPackage).keyFor name ≠ (Registry.new rootPackage).keyFor "") :
    ∃ module, state.registry.modules.get? ((Registry.new rootPackage).keyFor name) = some module ∧
      module.path = file.path := by
  have present : state.registry.modules.contains ((Registry.new rootPackage).keyFor name) = true :=
    (done.registered.keys _).2 ⟨file, member, by rw [keyOf?_eq_map, named, Option.map_some]⟩
  obtain ⟨module, found⟩ := Keyed.contains_iff.1 present
  obtain ⟨source, listed, keyed, path⟩ := done.sourced _ module found
  rw [keyOf?_eq_map, Option.map_eq_some_iff] at keyed
  obtain ⟨other, otherNamed, same⟩ := keyed
  have first : other ∈ moduleNames root files := List.mem_filterMap.2 ⟨source, listed, otherNamed⟩
  have second : name ∈ moduleNames root files := List.mem_filterMap.2 ⟨file, member, named⟩
  -- The module found stands for a file with this key, and so with this name if there is no clash.
  have equal : other = name := by
    rcases Registry.keyFor_eq_keyFor same with equal | ⟨rfl, rfl⟩ | ⟨rfl, rfl⟩
    · exact equal
    · exact absurd (Registry.keyFor_keyFor _ _) (apart ⟨first, second⟩)
    · exact absurd rfl (apart ⟨second, first⟩)
  rw [equal] at otherNamed
  rw [file_unique distinct listed member otherNamed named] at path
  exact ⟨module, found, path⟩

end Registration

namespace Build

variable {root : Path} {files : List SourceFile}

open Registration (moduleName? moduleNames keptNames RootClash keyOf?)

/-- A tolerant build of modules with different dotted names succeeds. It counts a module for each node
and skips the files that are no modules, and every module has the one node under its key, with its own
path. Only where the root's initializer and another module share a key, one of the two is lost. -/
theorem tolerant_keeps_modules (reader : ImportReader) (rootPackage : Option String)
    (distinct : (moduleNames root files).Nodup) :
    ∃ built, tolerant reader root rootPackage files = .ok built ∧
      built.data.graph.ids.Perm
        ((keptNames root rootPackage files).map (Registry.new rootPackage).keyFor) ∧
      (∀ file ∈ files, ∀ name, moduleName? root file = some name →
        (RootClash root rootPackage files →
          (Registry.new rootPackage).keyFor name ≠ (Registry.new rootPackage).keyFor "") →
        ∃ node, built.data.graph.get? ((Registry.new rootPackage).keyFor name) = some node ∧
          node.path = file.path) ∧
      (∀ id node, built.data.graph.get? id = some node →
        ∃ file ∈ files, keyOf? root rootPackage file = some id ∧ node.path = file.path) ∧
      built.data.stats.modules = built.data.graph.size ∧
      built.data.stats.modules + built.data.stats.skipped +
        (if RootClash root rootPackage files then 1 else 0) = files.length := by
  obtain ⟨state, registered⟩ :=
    Registration.exists_addFiles reader root (Registration.start rootPackage) files
  have done := (Registration.accounted_start root rootPackage).addFiles registered
  rw [List.nil_append] at done
  have success : ∃ built, tolerant reader root rootPackage files = .ok built := by
    unfold tolerant run
    rw [registered]
    exact ⟨_, rfl⟩
  obtain ⟨built, success⟩ := success
  obtain ⟨other, again, _, graph, stats, _⟩ := run_eq_ok success
  obtain rfl : state = other := Except.ok.inj (registered.symm.trans again)
  have keys := done.keys_perm distinct
  have size : state.registry.modules.size = (keptNames root rootPackage files).length := by
    rw [← Keyed.length_keys, keys.length_eq, List.length_map]
  refine ⟨built, success, ?_, ?_, ?_, ?_, ?_⟩
  · rw [graph]
    unfold Graph.ids Registry.linkedGraph
    rwa [Keyed.keys_mapValues]
  · intro file member name named apart
    obtain ⟨module, found, path⟩ := done.exists_module distinct member named apart
    obtain ⟨imports, equal, _, _⟩ := state.registry.linkedNode_spec module
    refine ⟨state.registry.linkedNode module, ?_, by rw [equal]; exact path⟩
    rw [graph, Registry.get?_linkedGraph, found, Option.map_some]
  · intro id node found
    rw [graph, Registry.get?_linkedGraph] at found
    obtain ⟨module, standing, rfl⟩ := Option.map_eq_some_iff.1 found
    obtain ⟨imports, equal, _, _⟩ := state.registry.linkedNode_spec module
    rw [equal]
    exact done.sourced id module standing
  · rw [stats, graph]
    exact (Keyed.size_mapValues _ _).symm
  · have kept := Registration.length_keptNames root rootPackage files
    have skipped := done.skipped
    rw [stats]
    change state.registry.size + state.stats.skipped + _ = _
    unfold Registry.size
    omega

/-- A package below a source root that is a package itself, with a file that is no module. -/
def packageFiles : List SourceFile :=
  [.readable ⟨"shop/__init__.py"⟩ "", .readable ⟨"shop/crm/__init__.py"⟩ "from .mail import Mail\n",
    .readable ⟨"shop/crm/mail.py"⟩ "def (:\n", .readable ⟨"shop/notes.txt"⟩ "use crm"]

theorem tolerant_keeps_modules_package :
    (moduleNames ⟨"shop"⟩ packageFiles).Nodup ∧
      ∃ built, tolerant SourceText.readImports ⟨"shop"⟩ (some "shop") packageFiles = .ok built ∧
        built.data.stats.modules = built.data.graph.size ∧
        built.data.stats.modules + built.data.stats.skipped = packageFiles.length := by
  have distinct : (moduleNames ⟨"shop"⟩ packageFiles).Nodup := by decide
  have apart : ¬ RootClash ⟨"shop"⟩ (some "shop") packageFiles := by decide
  obtain ⟨built, success, _, _, _, size, total⟩ :=
    tolerant_keeps_modules SourceText.readImports (some "shop") distinct
  rw [if_neg apart] at total
  exact ⟨distinct, built, success, size, total⟩

/-- The initializer of a source root and a module with the name of the root package. -/
def clashingFiles : List SourceFile :=
  [.readable ⟨"shop/__init__.py"⟩ "", .readable ⟨"shop/shop.py"⟩ ""]

/-- Two modules with different dotted names, of which a tolerant build loses one. -/
theorem tolerant_loses_module :
    moduleNames ⟨"shop"⟩ clashingFiles = ["", "shop"] ∧
      ∃ built, tolerant SourceText.readImports ⟨"shop"⟩ (some "shop") clashingFiles = .ok built ∧
        built.data.stats.skipped = 0 ∧
        built.data.graph.nodeList.map (·.path) = [⟨"shop/__init__.py"⟩] := by
  refine ⟨by decide, ?_⟩
  have outcome : ((tolerant SourceText.readImports ⟨"shop"⟩ (some "shop") clashingFiles).toOption.map
      fun built => (built.data.stats.skipped, built.data.graph.nodeList.map (·.path))) =
      some (0, [⟨"shop/__init__.py"⟩]) := by decide +kernel
  cases result : tolerant SourceText.readImports ⟨"shop"⟩ (some "shop") clashingFiles with
  | error fault =>
    rw [result] at outcome
    cases outcome
  | ok built =>
    rw [result] at outcome
    obtain ⟨skipped, paths⟩ := Prod.mk.inj (Option.some.inj outcome)
    exact ⟨built, rfl, skipped, paths⟩

end Build

end LayerAtlas
