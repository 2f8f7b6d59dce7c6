import LayerAtlas.Proofs.BuildResult

/-!
# Registries that link alike

Registering looks at the key of a module and at whether it is a package; linking looks at the keys and at
what the imports lead to. A change of the modules that keeps these leaves the linked graph and all targets
as they were.
-/
namespace LayerAtlas

/-- A change of modules that registering does not see. -/
structure ScannedModule.KeepsPlace (change : ScannedModule → ScannedModule) : Prop where
  named : ∀ module key, change { module with name := key } = { change module with name := key }
  path : ∀ module, (change module).path = module.path

theorem ScannedModule.KeepsPlace.name {change : ScannedModule → ScannedModule}
    (keeps : KeepsPlace change) (module : ScannedModule) : (change module).name = module.name := by
  have renamed : change module = { change module with name := module.name } :=
    keeps.named module module.name
  rw [renamed]

namespace Registry

open ScannedModule (KeepsPlace)

variable {registry : Registry} {change : ScannedModule → ScannedModule}
  {respell : ImportRecord → ImportRecord} {record : ImportRecord}

/-- Changes every module under its key. -/
def mapModules (change : ScannedModule → ScannedModule) (registry : Registry) : Registry :=
  { registry with modules := registry.modules.mapValues change }

theorem get?_mapModules (change : ScannedModule → ScannedModule) (registry : Registry) (name : String) :
    (registry.mapModules change).get? name = (registry.get? name).map change :=
  Keyed.get?_mapValues _ _ _

theorem lookup_mapModules (change : ScannedModule → ScannedModule) (registry : Registry) :
    (registry.mapModules change).lookup = registry.lookup := by
  funext name
  unfold lookup mapModules
  dsimp only
  rw [Keyed.contains_eq_isSome, Keyed.contains_eq_isSome, Keyed.get?_mapValues, Option.isSome_map]
  rfl

theorem resolveModule_mapModules (change : ScannedModule → ScannedModule) (registry : Registry) :
    (registry.mapModules change).resolveModule = registry.resolveModule := by
  funext record
  unfold resolveModule
  rw [lookup_mapModules]
  rfl

theorem resolveSubmodule_mapModules (change : ScannedModule → ScannedModule) (registry : Registry) :
    (registry.mapModules change).resolveSubmodule = registry.resolveSubmodule := by
  funext record name
  unfold resolveSubmodule
  rw [lookup_mapModules]
  rfl

/-! ## Registering -/

theorem insert_mapModules (keeps : KeepsPlace change) (registry : Registry) (module : ScannedModule) :
    (registry.insert module).mapModules change =
      (registry.mapModules change).insert (change module) := by
  unfold insert mapModules
  dsimp only
  rw [Keyed.mapValues_insert, keeps.named, keeps.name]
  rfl

theorem enroll_mapModules (keeps : KeepsPlace change) (registry : Registry) (module : ScannedModule) :
    (registry.enroll module).mapModules change =
      (registry.mapModules change).enroll (change module) := by
  have package (module : ScannedModule) : (change module).isPackage = module.isPackage := by
    rw [ScannedModule.isPackage, keeps.path, ScannedModule.isPackage]
  unfold enroll
  rw [keeps.name, get?_mapModules]
  cases registry.get? module.name with
  | none => exact insert_mapModules keeps registry module
  | some standing =>
    dsimp only [Option.map_some]
    rw [package, package]
    split
    · rfl
    · exact insert_mapModules keeps registry module

theorem foldl_enroll_mapModules (keeps : KeepsPlace change) (modules : List ScannedModule)
    (registry : Registry) :
    (modules.foldl enroll registry).mapModules change =
      (modules.map change).foldl enroll (registry.mapModules change) := by
  induction modules generalizing registry with
  | nil => rfl
  | cons head tail ih =>
    rw [List.foldl_cons, ih, enroll_mapModules keeps, List.map_cons, List.foldl_cons]

theorem rootPackage_foldl_enroll (modules : List ScannedModule) (registry : Registry) :
    (modules.foldl enroll registry).rootPackage = registry.rootPackage := by
  induction modules generalizing registry with
  | nil => rfl
  | cons head tail ih =>
    have kept : (registry.enroll head).rootPackage = registry.rootPackage := by
      unfold enroll
      split
      · split <;> rfl
      · rfl
    rw [List.foldl_cons, ih, kept]

/-! ## Linking -/

/-- An import of a registered module. -/
def Imports (registry : Registry) (record : ImportRecord) : Prop :=
  ∃ key module, registry.modules.get? key = some module ∧ record ∈ module.imports

/-- A change of modules that linking does not see: each import of a registered module gives way to one that
brings the same names and leads to the same places. -/
structure LinksAlike (registry : Registry) (change : ScannedModule → ScannedModule)
    (respell : ImportRecord → ImportRecord) : Prop extends KeepsPlace change where
  imports : ∀ module, (change module).imports = module.imports.map respell
  names : ∀ record, (respell record).names = record.names
  resolveModule : ∀ record, registry.Imports record →
    registry.resolveModule (respell record) = registry.resolveModule record
  resolveSubmodule : ∀ record, registry.Imports record → ∀ name,
    registry.resolveSubmodule (respell record) name = registry.resolveSubmodule record name

namespace LinksAlike

theorem handedOnFrom_eq (alike : registry.LinksAlike change respell) (module symbol : String) :
    (registry.mapModules change).handedOnFrom? module symbol =
      registry.handedOnFrom? module symbol := by
  unfold handedOnFrom?
  rw [get?_mapModules, resolveModule_mapModules]
  cases found : registry.get? module with
  | none => rfl
  | some scanned =>
    have brings : (fun record : ImportRecord => record.brings symbol) ∘ respell =
        fun record => record.brings symbol := by
      funext record
      simp only [Function.comp_apply, ImportRecord.brings, alike.names]
    dsimp only [Option.map_some]
    rw [alike.imports, List.filter_map, brings, List.findSome?_map, ← List.head?_filterMap,
      ← List.head?_filterMap]
    refine congrArg List.head? (List.filterMap_congr fun record member => ?_)
    have imported : registry.Imports record :=
      ⟨_, scanned, found, (List.mem_filter.1 member).1⟩
    rw [Function.comp_apply, alike.resolveModule record imported]

theorem walk_eq (alike : registry.LinksAlike change respell) (symbol : String) (fuel : Nat)
    (visited : List String) (current : String) :
    (registry.mapModules change).walk symbol fuel visited current =
      registry.walk symbol fuel visited current := by
  induction fuel generalizing visited current with
  | zero => rfl
  | succ fuel ih =>
    unfold walk submodule?
    rw [lookup_mapModules, alike.handedOnFrom_eq]
    simp only [ih]

theorem origin_eq (alike : registry.LinksAlike change respell) (module symbol : String) :
    (registry.mapModules change).origin module symbol = registry.origin module symbol := by
  have size : (registry.mapModules change).size = registry.size := Keyed.size_mapValues _ _
  unfold origin
  rw [lookup_mapModules, size]
  exact alike.walk_eq symbol _ _ _

theorem nameTarget_eq (alike : registry.LinksAlike change respell) (imported : registry.Imports record)
    (name : String) :
    (registry.mapModules change).nameTarget (respell record) name =
      registry.nameTarget record name := by
  unfold nameTarget
  simp only [resolveModule_mapModules, resolveSubmodule_mapModules, alike.origin_eq,
    alike.resolveModule record imported, alike.resolveSubmodule record imported]

theorem targets_eq (alike : registry.LinksAlike change respell) (imported : registry.Imports record) :
    (registry.mapModules change).targets (respell record) = registry.targets record := by
  have named : (registry.mapModules change).nameTarget (respell record) =
      registry.nameTarget record := funext (alike.nameTarget_eq imported)
  unfold targets
  rw [alike.names, resolveModule_mapModules, alike.resolveModule record imported, named]

theorem moduleTargets_eq (alike : registry.LinksAlike change respell) {key : String}
    {module : ScannedModule} (standing : registry.modules.get? key = some module) :
    (registry.mapModules change).moduleTargets (change module) = registry.moduleTargets module := by
  unfold moduleTargets
  rw [alike.imports, List.flatMap_map]
  exact List.flatMap_congr fun record member => alike.targets_eq ⟨key, module, standing, member⟩

theorem linkedGraph_eq (alike : registry.LinksAlike change respell) :
    (registry.mapModules change).linkedGraph = registry.linkedGraph := by
  refine congrArg Graph.mk (Keyed.ext_get? fun key => ?_)
  rw [mapModules, Keyed.get?_mapValues, Keyed.get?_mapValues, Keyed.get?_mapValues, Option.map_map]
  refine Option.map_congr fun module standing => ?_
  rw [Function.comp_apply, ← mapModules]
  unfold linkedNode
  rw [alike.moduleTargets_eq standing, alike.name, alike.path]

theorem allTargets_eq (alike : registry.LinksAlike change respell) :
    (registry.mapModules change).allTargets = registry.allTargets := by
  unfold allTargets
  rw [show (registry.mapModules change).modules.values = registry.modules.values.map change from
    Keyed.values_mapValues _ _, List.flatMap_map]
  refine List.flatMap_congr fun module member => ?_
  obtain ⟨key, standing⟩ := Keyed.mem_values_iff.1 member
  exact alike.moduleTargets_eq standing

end LinksAlike

end Registry

end LayerAtlas
