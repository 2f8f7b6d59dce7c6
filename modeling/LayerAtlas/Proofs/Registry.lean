import LayerAtlas.Proofs.Keyed
import LayerAtlas.Resolve.Registry

/-!
# Keys of a registry

Every look-up of a registry, by whatever spelling of a module, gives a key in the one form under which
a module is registered. Keys are their own keys, so a look-up of a key leads nowhere else.
-/
namespace LayerAtlas.Registry

theorem keyFor_keyFor (registry : Registry) (name : String) :
    registry.keyFor (registry.keyFor name) = registry.keyFor name := by
  by_cases root : name = ""
  · by_cases unnamed : registry.rootPackage.getD Path.initializerStem = ""
    · simp [keyFor, root, unnamed]
    · simp [keyFor, root, unnamed]
  · simp [keyFor, root]

theorem keyFor_of_ne {registry : Registry} {name : String} (named : name ≠ "") :
    registry.keyFor name = name := by
  rw [keyFor, if_neg named]

theorem lookup_eq_some_iff {registry : Registry} {name key : String} :
    registry.lookup name = some key ↔
      registry.keyFor name = key ∧ registry.modules.contains key = true := by
  unfold lookup
  dsimp only
  split
  · next present =>
    constructor
    · intro same
      cases same
      exact ⟨rfl, present⟩
    · rintro ⟨rfl, _⟩
      rfl
  · next absent =>
    constructor
    · intro impossible
      cases impossible
    · rintro ⟨rfl, present⟩
      exact absurd present absent

/-- A name in the form under which a module is registered. -/
def IsKey (registry : Registry) (name : String) : Prop :=
  registry.lookup name = some name

theorem isKey_of_lookup {registry : Registry} {name key : String}
    (found : registry.lookup name = some key) : registry.IsKey key := by
  obtain ⟨rfl, present⟩ := lookup_eq_some_iff.1 found
  exact lookup_eq_some_iff.2 ⟨registry.keyFor_keyFor name, present⟩

theorem IsKey.contains {registry : Registry} {name : String} (key : registry.IsKey name) :
    registry.modules.contains name = true :=
  (lookup_eq_some_iff.1 key).2

theorem IsKey.mem_keys {registry : Registry} {name : String} (key : registry.IsKey name) :
    name ∈ registry.modules.keys :=
  Keyed.mem_keys_iff.2 key.contains

/-- An import leads to a key, whichever spelling of its module is found first. -/
theorem isKey_of_resolveModule {registry : Registry} {record : ImportRecord} {key : String}
    (found : registry.resolveModule record = some key) : registry.IsKey key := by
  obtain ⟨spelling, _, hit⟩ := List.exists_of_findSome?_eq_some found
  exact isKey_of_lookup hit

theorem isKey_of_resolveSubmodule {registry : Registry} {record : ImportRecord} {name key : String}
    (found : registry.resolveSubmodule record name = some key) : registry.IsKey key := by
  obtain ⟨spelling, _, hit⟩ := List.exists_of_findSome?_eq_some found
  exact isKey_of_lookup hit

theorem isKey_of_get? {registry : Registry} {found : ScannedModule} {module : String}
    (stands : registry.modules.get? module = some found) (named : module ≠ "") :
    registry.IsKey module := by
  refine lookup_eq_some_iff.2 ⟨keyFor_of_ne named, ?_⟩
  rw [Keyed.contains_eq_isSome, stands, Option.isSome_some]

theorem exists_spellings (registry : Registry) (module : String) (isRelative : Bool) :
    ∃ others, registry.spellings module isRelative = module :: others := by
  unfold spellings
  split
  · split
    · exact ⟨_, rfl⟩
    · split <;> exact ⟨_, rfl⟩
  · exact ⟨_, rfl⟩

/-- A registered module is found by its own name first. -/
theorem resolveModule_of_isKey {registry : Registry} {record : ImportRecord}
    (key : registry.IsKey record.module) :
    registry.resolveModule record = some record.module := by
  obtain ⟨others, spelled⟩ := registry.exists_spellings record.module record.isRelative
  unfold resolveModule
  have found : registry.lookup record.module = some record.module := key
  rw [spelled, List.findSome?_cons, found]

end LayerAtlas.Registry
