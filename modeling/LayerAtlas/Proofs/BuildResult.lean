import LayerAtlas.Proofs.ParsePolicy

/-!
# What a build makes of its files

A build looks at its files through four things only: the modules that they stand for, the faults of
their texts, how many modules cannot be read, and how many files are no modules. The registry is the fold
of the modules, and the rest of the result is read off the registry and the faults.
-/
namespace LayerAtlas

namespace Registry

/-- Registers a module unless it gives way to a package under its key. -/
def enroll (registry : Registry) (module : ScannedModule) : Registry :=
  match registry.get? module.name with
  | some standing =>
    if standing.isPackage && !module.isPackage then registry else registry.insert module
  | none => registry.insert module

end Registry

namespace Registration

variable {reader : ImportReader} {root : Path} {rootPackage : Option String} {policy : ParsePolicy}
  {state next : Registration} {file : SourceFile} {files : List SourceFile}

theorem registry_add (state : Registration) (module : ScannedModule) :
    (state.add module).registry = state.registry.enroll module := by
  unfold add Registry.enroll
  cases state.registry.get? module.name with
  | none => rfl
  | some standing =>
    dsimp only
    split <;> rfl

/-- The modules that the files stand for, in the order of the files. -/
def scannedModules (reader : ImportReader) (root : Path) (files : List SourceFile) :
    List ScannedModule :=
  files.filterMap (scannedModule? reader root)

/-- The registry of all modules among the files. -/
def registryOf (reader : ImportReader) (root : Path) (rootPackage : Option String)
    (files : List SourceFile) : Registry :=
  (scannedModules reader root files).foldl Registry.enroll (.new rootPackage)

/-- One more file enrolls the module that it stands for, if it stands for one. -/
theorem registryOf_append_singleton (reader : ImportReader) (root : Path)
    (rootPackage : Option String) (files : List SourceFile) (file : SourceFile) :
    registryOf reader root rootPackage (files ++ [file]) =
      ((scannedModule? reader root file).map
        (registryOf reader root rootPackage files).enroll).getD
          (registryOf reader root rootPackage files) := by
  unfold registryOf scannedModules
  rw [List.filterMap_append, List.foldl_append]
  cases scanned : scannedModule? reader root file with
  | none => rw [List.filterMap_cons_none scanned]; rfl
  | some module => rw [List.filterMap_cons_some scanned]; rfl

theorem registry_addFile (done : state.registry = registryOf reader root rootPackage files)
    (success : state.addFile reader root policy file = .ok next) :
    next.registry = registryOf reader root rootPackage (files ++ [file]) := by
  obtain ⟨registry, _, _⟩ := addFile_spec success
  rw [registry, registryOf_append_singleton, ← done]
  simp only [registry_add]

theorem registry_addFiles {before : List SourceFile}
    (done : state.registry = registryOf reader root rootPackage before)
    (success : state.addFiles reader root policy files = .ok next) :
    next.registry = registryOf reader root rootPackage (before ++ files) :=
  addFiles_invariant (fun files state => state.registry = registryOf reader root rootPackage files)
    registry_addFile done success

end Registration

namespace Build

open Registration (registryOf parseFaults moduleName? isUnreadableModule)

/-- The counters of a build: those of the links in its registry and of the files. -/
def statsOf (reader : ImportReader) (root : Path) (rootPackage : Option String)
    (files : List SourceFile) : BuildStats :=
  let registry := registryOf reader root rootPackage files
  { modules := registry.size
    resolved := registry.allTargets.countP Option.isSome
    dropped := registry.allTargets.countP Option.isNone
    unreadable := files.countP (isUnreadableModule root)
    unparsable := (parseFaults reader root files).length
    skipped := files.countP fun file => (moduleName? root file).isNone }

/-- The whole result of a build that passes over texts which do not parse. -/
theorem run_skip_eq (reader : ImportReader) (root : Path) (rootPackage : Option String)
    (files : List SourceFile) :
    run reader root rootPackage .skip files = .ok {
      data := {
        graph := (registryOf reader root rootPackage files).linkedGraph
        stats := statsOf reader root rootPackage files }
      errors := (parseFaults reader root files).map .parse } := by
  obtain ⟨state, passed⟩ :=
    Registration.exists_addFiles reader root (Registration.start rootPackage) files
  have registry : state.registry = registryOf reader root rootPackage ([] ++ files) :=
    Registration.registry_addFiles rfl passed
  have counted := (Registration.counted_start reader root rootPackage).addFiles passed
  rw [List.nil_append] at registry counted
  unfold run
  rw [passed]
  change Except.ok _ = _
  rw [registry, counted.stats, counted.errors]
  rfl

end Build

end LayerAtlas
