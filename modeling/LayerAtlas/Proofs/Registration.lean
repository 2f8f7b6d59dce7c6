import LayerAtlas.Build
import LayerAtlas.Proofs.Registry

/-!
# Registered files

What registering files makes of a registry. Every file in the analysed language below the root leaves
its key in the registry, and no other key comes in; which of several files of one key keeps it does
not matter for that. Every module stands under its own name.
-/
namespace LayerAtlas

/-- Every module stands under its own name, which is its own key. -/
def Registry.WellNamed (registry : Registry) : Prop :=
  ∀ key module, registry.modules.get? key = some module →
    module.name = key ∧ registry.keyFor key = key

theorem Registry.wellNamed_new (rootPackage : Option String) : (new rootPackage).WellNamed := by
  intro key module found
  cases found

@[simp] theorem Registry.rootPackage_insert (registry : Registry) (module : ScannedModule) :
    (registry.insert module).rootPackage = registry.rootPackage := rfl

/-- A key depends on the root package only. -/
theorem Registry.keyFor_congr {first second : Registry}
    (same : first.rootPackage = second.rootPackage) (name : String) :
    first.keyFor name = second.keyFor name := by
  rw [keyFor, keyFor, same]

theorem Registry.WellNamed.insert {registry : Registry} (named : registry.WellNamed)
    (module : ScannedModule) : (registry.insert module).WellNamed := by
  intro key other found
  have keys : (registry.insert module).keyFor key = registry.keyFor key :=
    keyFor_congr (rootPackage_insert registry module) key
  rw [keys]
  unfold Registry.insert at found
  rw [Keyed.get?_insert] at found
  split at found
  · next same =>
    cases found
    subst same
    exact ⟨rfl, registry.keyFor_keyFor module.name⟩
  · exact named key other found

namespace Registration

variable {reader : ImportReader} {root : Path} {policy : ParsePolicy} {state next : Registration}
  {file : SourceFile} {module : ScannedModule}

/-- The dotted name of a file; none when it is no module below the root. -/
def moduleName? (root : Path) (file : SourceFile) : Option String :=
  if file.path.extension? = some (.ofString "py") then ModulePath.nameOf? root file.path else none

/-- The key under which a file is registered; none when it is no module below the root. -/
def keyOf? (root : Path) (rootPackage : Option String) (file : SourceFile) : Option String :=
  if file.path.extension? = some (.ofString "py") then
    (ModulePath.nameOf? root file.path).map (Registry.new rootPackage).keyFor
  else none

theorem keyOf?_eq_map (root : Path) (rootPackage : Option String) (file : SourceFile) :
    keyOf? root rootPackage file =
      (moduleName? root file).map (Registry.new rootPackage).keyFor := by
  unfold keyOf? moduleName?
  split <;> rfl

theorem exists_moduleName {rootPackage : Option String} {key : String}
    (keyed : keyOf? root rootPackage file = some key) : ∃ name, moduleName? root file = some name := by
  rw [keyOf?_eq_map, Option.map_eq_some_iff] at keyed
  obtain ⟨name, named, _⟩ := keyed
  exact ⟨name, named⟩

theorem keyOf?_eq_some_iff {rootPackage : Option String} {key : String} :
    keyOf? root rootPackage file = some key ↔ file.path.extension? = some (.ofString "py") ∧
      ∃ name, ModulePath.nameOf? root file.path = some name ∧
        key = (Registry.new rootPackage).keyFor name := by
  unfold keyOf?
  split
  · next extension =>
    rw [Option.map_eq_some_iff, and_iff_right extension]
    exact exists_congr fun name => and_congr_right fun _ => eq_comm
  · next foreign => simp [foreign]

/-- Reading a file changes no module and skips nothing. -/
theorem readImports_frame {name : String} {imports : List ImportRecord}
    (success : state.readImports reader policy file name = .ok (next, imports)) :
    next.registry = state.registry ∧ next.stats.skipped = state.stats.skipped := by
  unfold readImports at success
  split at success
  · split at success
    · cases success
      exact ⟨rfl, rfl⟩
    · split at success
      · cases success
      · cases success
        exact ⟨rfl, rfl⟩
  · cases success
    exact ⟨rfl, rfl⟩

/-- A file without a module name is skipped, and any other is added with the imports read from it. -/
theorem addFile_eq (reader : ImportReader) (root : Path) (policy : ParsePolicy) (state : Registration)
    (file : SourceFile) :
    state.addFile reader root policy file =
      match moduleName? root file with
      | none => .ok state.skip
      | some name => (state.readImports reader policy file name).map fun read =>
          read.1.add ⟨name, file.path, file.content, read.2⟩ := by
  unfold addFile moduleName? Language.ofPath?
  by_cases extension : file.path.extension? = some (.ofString "py")
  · rw [if_pos extension, if_pos extension]
    cases ModulePath.nameOf? root file.path with
    | none => rfl
    | some name =>
      dsimp only
      cases state.readImports reader policy file name <;> rfl
  · rw [if_neg extension, if_neg extension]
    rfl

theorem addFile_cases (success : state.addFile reader root policy file = .ok next) :
    (moduleName? root file = none ∧ next = state.skip) ∨
    ∃ (name : String) (read : Registration) (imports : List ImportRecord),
      moduleName? root file = some name ∧
      state.readImports reader policy file name = .ok (read, imports) ∧
      next = read.add ⟨name, file.path, file.content, imports⟩ := by
  rw [addFile_eq] at success
  cases named : moduleName? root file with
  | none =>
    rw [named] at success
    exact .inl ⟨rfl, (Except.ok.inj success).symm⟩
  | some name =>
    rw [named] at success
    dsimp only at success
    cases result : state.readImports reader policy file name with
    | error fault =>
      rw [result] at success
      cases success
    | ok read =>
      rw [result] at success
      exact .inr ⟨name, read.1, read.2, rfl, result, (Except.ok.inj success).symm⟩

/-- Adding a module leaves the registry alone only where another stands under its key. -/
theorem registry_add_cases (state : Registration) (module : ScannedModule) :
    ((state.add module).registry = state.registry ∧
      state.registry.modules.contains (state.registry.keyFor module.name) = true) ∨
    (state.add module).registry = state.registry.insert module := by
  unfold add
  split
  · next standing found =>
    split
    · exact .inl ⟨rfl, Keyed.contains_iff.2 ⟨standing, found⟩⟩
    · exact .inr rfl
  · exact .inr rfl

theorem rootPackage_add : (state.add module).registry.rootPackage = state.registry.rootPackage := by
  rcases registry_add_cases state module with ⟨same, _⟩ | inserted
  · rw [same]
  · rw [inserted, Registry.rootPackage_insert]

theorem contains_add (key : String) :
    (state.add module).registry.modules.contains key = true ↔
      key = state.registry.keyFor module.name ∨ state.registry.modules.contains key = true := by
  rcases registry_add_cases state module with ⟨same, present⟩ | inserted
  · rw [same]
    constructor
    · exact .inr
    · rintro (rfl | standing)
      · exact present
      · exact standing
  · rw [inserted]
    simp [Registry.insert, Keyed.contains_insert]

theorem wellNamed_add (named : state.registry.WellNamed) :
    (state.add module).registry.WellNamed := by
  rcases registry_add_cases state module with ⟨same, _⟩ | inserted
  · rw [same]
    exact named
  · rw [inserted]
    exact named.insert module

/-- What holds of the registry after the files of a list: its keys are theirs, and every module stands
under its own name. -/
structure Registered (root : Path) (rootPackage : Option String) (files : List SourceFile)
    (registry : Registry) : Prop where
  package : registry.rootPackage = (Registry.new rootPackage).rootPackage
  named : registry.WellNamed
  keys : ∀ key, registry.modules.contains key = true ↔
    ∃ file ∈ files, keyOf? root rootPackage file = some key

theorem registered_start (root : Path) (rootPackage : Option String) :
    Registered root rootPackage [] (start rootPackage).registry where
  package := rfl
  named := Registry.wellNamed_new rootPackage
  keys := by
    intro key
    simp [start, Registry.new, Keyed.contains_eq_isSome]

/-- One more file adds its key, if it has one. -/
theorem Registered.addFile {rootPackage : Option String} {files : List SourceFile}
    (done : Registered root rootPackage files state.registry)
    (success : state.addFile reader root policy file = .ok next) :
    Registered root rootPackage (files ++ [file]) next.registry := by
  have keysOf : ∀ name, state.registry.keyFor name = (Registry.new rootPackage).keyFor name :=
    Registry.keyFor_congr done.package
  rcases addFile_cases success with ⟨nameless, rfl⟩ | ⟨name, read, imports, named, reading, rfl⟩
  · have keyless : keyOf? root rootPackage file = none := by
      rw [keyOf?_eq_map, nameless, Option.map_none]
    refine ⟨done.package, done.named, fun key => ?_⟩
    change state.registry.modules.contains key = true ↔ _
    rw [done.keys]
    simp [List.mem_append, or_and_right, exists_or, keyless]
  · have keyed : keyOf? root rootPackage file = some ((Registry.new rootPackage).keyFor name) := by
      rw [keyOf?_eq_map, named, Option.map_some]
    obtain ⟨same, _⟩ := readImports_frame reading
    refine ⟨?_, ?_, fun key => ?_⟩
    · rw [rootPackage_add, same, done.package]
    · exact wellNamed_add (same ▸ done.named)
    -- A file that loses its key to another one changes nothing: its key is in the registry already.
    · rw [contains_add, same, done.keys, keysOf]
      simp [List.mem_append, or_and_right, exists_or, keyed, or_comm, eq_comm]

/-- What every file keeps, with the files passed so far extended by it, holds behind all files. -/
theorem addFiles_invariant (holds : List SourceFile → Registration → Prop)
    (step : ∀ {before state file next}, holds before state →
      addFile reader root policy state file = .ok next → holds (before ++ [file]) next)
    {before files : List SourceFile} (begun : holds before state)
    (success : state.addFiles reader root policy files = .ok next) :
    holds (before ++ files) next := by
  induction files generalizing before state with
  | nil =>
    cases success
    simpa using begun
  | cons head tail ih =>
    unfold Registration.addFiles at success
    rw [List.foldlM_cons] at success
    cases first : state.addFile reader root policy head with
    | error fault => simp [first, bind, Except.bind] at success
    | ok middle =>
      simp only [first, bind, Except.bind] at success
      have rest := ih (step begun first) success
      rwa [List.append_assoc, List.singleton_append] at rest

theorem Registered.addFiles {rootPackage : Option String} {before files : List SourceFile}
    (done : Registered root rootPackage before state.registry)
    (success : state.addFiles reader root policy files = .ok next) :
    Registered root rootPackage (before ++ files) next.registry :=
  addFiles_invariant (fun files state => Registered root rootPackage files state.registry)
    Registered.addFile done success

end Registration

end LayerAtlas
