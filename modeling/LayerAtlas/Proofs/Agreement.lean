import LayerAtlas.Build
import LayerAtlas.Proofs.Submodule

/-!
# Linked targets and origins

A module that imports a symbol is linked to the module behind the name, and whoever imports the symbol
from there is linked to its origin. Both agree where the submodule that linking finds, if it finds one,
stands below the key of the imported module, since the walk looks nowhere else. A package without an
initializer has no such key, and the modules beside the initializer of the source root do not stand
below its key: linking finds them, and the walk passes them over.
-/
namespace LayerAtlas.Registry

variable {registry : Registry} {found : ScannedModule} {record : ImportRecord}
  {symbol module target : String}

theorem entry_entry (registry : Registry) (module : String) :
    registry.entry (registry.entry module) = registry.entry module := by
  cases known : registry.lookup module with
  | none =>
    have same : registry.entry module = module := by rw [entry, known, Option.getD_none]
    rw [same, same]
  | some key =>
    have same : registry.entry module = key := by rw [entry, known, Option.getD_some]
    rw [same]
    exact entry_of_isKey (isKey_of_lookup known)

theorem get?_entry (registry : Registry) (module : String) :
    registry.get? (registry.entry module) = registry.get? module := by
  cases known : registry.lookup module with
  | none => rw [entry, known, Option.getD_none]
  | some key =>
    obtain ⟨rfl, _⟩ := lookup_eq_some_iff.1 known
    rw [entry, known, Option.getD_some, get?, get?, keyFor_keyFor]

/-- The origin depends on the place where the walk begins. -/
theorem origin_congr {other : String} (same : registry.entry module = registry.entry other) :
    registry.origin module symbol = registry.origin other symbol := by
  change registry.walk symbol _ [registry.entry module] (registry.entry module) = _
  rw [same]
  rfl

/-- With one import that brings the symbol, a module hands it on from there or not at all. -/
theorem handedOnFrom_of_single (scanned : registry.get? module = some found)
    (single : found.imports.filter (·.brings symbol) = [record]) :
    registry.handedOnFrom? (registry.entry module) symbol =
      (registry.resolveModule record).filter (· ≠ registry.entry module) := by
  rw [handedOnFrom?, get?_entry, scanned]
  dsimp only
  rw [single, List.findSome?_singleton]

/-- A symbol brought by one import has the origin that it has for the imported module, or none beyond
the importing module where the imported one is not registered. -/
theorem origin_of_single (scanned : registry.get? module = some found)
    (single : found.imports.filter (·.brings symbol) = [record])
    (childless : registry.submodule? (registry.entry module) symbol = none)
    (straight : ¬ registry.EndsOnRevisit symbol (registry.entry module)) :
    registry.origin module symbol =
      ((registry.resolveModule record).map fun base => registry.origin base symbol).getD
        (registry.entry module) := by
  have handed := handedOnFrom_of_single scanned single
  cases resolved : registry.resolveModule record with
  | none =>
    rw [resolved, Option.filter_none] at handed
    exact origin_of_stays childless handed
  | some base =>
    rw [resolved] at handed
    rw [Option.map_some, Option.getD_some]
    by_cases itself : base = registry.entry module
    · -- An import of the module from itself leads nowhere, and both sides are one walk.
      rw [itself]
      exact (origin_congr (entry_entry registry module)).symm
    · rw [Option.filter_some, if_pos (by simpa using itself)] at handed
      exact origin_of_handedOn childless handed straight

/-- A module with one import hands on what the import brings, from the module that it names. -/
theorem handedOnFrom_of_brings (stands : registry.modules.get? module = some found)
    (named : module ≠ "") (single : found.imports = [record]) (brings : record.brings symbol = true)
    (key : registry.IsKey record.module) (other : record.module ≠ module) :
    registry.handedOnFrom? module symbol = some record.module := by
  have entry := entry_of_isKey (isKey_of_get? stands named)
  have scanned : registry.get? module = some found := by rw [get?, keyFor_of_ne named, stands]
  have passed : found.imports.filter (·.brings symbol) = [record] := by
    rw [single, List.filter_singleton, brings, cond_true]
  have handed := handedOnFrom_of_single scanned passed
  rw [entry, resolveModule_of_isKey key, Option.filter_some, if_pos (by simpa using other)] at handed
  exact handed

/-- A module hands on nothing that its imports do not bring. -/
theorem handedOnFrom_of_unbrought (stands : registry.modules.get? module = some found)
    (named : module ≠ "") (unbrought : ∀ record ∈ found.imports, record.brings symbol = false) :
    registry.handedOnFrom? module symbol = none := by
  have scanned : registry.get? module = some found := by rw [get?, keyFor_of_ne named, stands]
  have none : found.imports.filter (·.brings symbol) = [] :=
    List.filter_eq_nil_iff.mpr fun record listed => by simp [unbrought record listed]
  rw [handedOnFrom?, scanned]
  dsimp only
  rw [none, List.findSome?_nil]

/-- The module behind a symbol that an import brings: the submodule of that name below the imported
module, else the origin seen from there. -/
def symbolTarget (registry : Registry) (record : ImportRecord) (symbol : String) : Option String :=
  (registry.resolveSubmodule record symbol).or
    ((registry.resolveModule record).map fun base => registry.origin base symbol)

/-- Linking follows every name but the one that stands for all names. -/
theorem nameTarget_of_ne (named : symbol ≠ ImportRecord.wildcard) :
    registry.nameTarget record symbol = registry.symbolTarget record symbol := by
  unfold nameTarget symbolTarget
  dsimp only
  rw [if_neg named]
  cases registry.resolveSubmodule record symbol <;> rfl

theorem resolveSubmodule_eq_none_iff :
    registry.resolveSubmodule record symbol = none ↔
      ∀ base ∈ registry.spellings record.module record.isRelative,
        registry.submodule? base symbol = none :=
  List.findSome?_eq_none_iff

/-- A submodule found by linking stands below the key of the imported module. -/
def SubmoduleBelow (registry : Registry) (record : ImportRecord) (symbol : String) : Prop :=
  ∀ child, registry.resolveSubmodule record symbol = some child →
    ∃ base, registry.resolveModule record = some base ∧
      registry.submodule? base symbol = some child

/-- Where no other spelling of the imported module has a submodule of that name, the one found stands
below the key. -/
theorem submoduleBelow_of_only {base : String} (resolved : registry.resolveModule record = some base)
    (only : ∀ spelling ∈ registry.spellings record.module record.isRelative, spelling ≠ base →
      registry.lookup (Dotted.child spelling symbol) = none) :
    registry.SubmoduleBelow record symbol := by
  intro child below
  obtain ⟨spelling, spelled, found⟩ := List.exists_of_findSome?_eq_some below
  have same : spelling = base := by
    by_contra other
    rw [only spelling spelled other] at found
    cases found
  exact ⟨base, resolved, same ▸ found⟩

theorem spellings_of_unprefixed (unprefixed : record.isRelative = true ∨ registry.rootPackage = none) :
    registry.spellings record.module record.isRelative = [record.module] := by
  unfold spellings
  rcases unprefixed with relative | rootless
  · rw [relative]
  · rw [rootless]
    cases record.isRelative <;> rfl

/-- A registered module with a name and one spelling has its submodules below its key. -/
theorem submoduleBelow_of_unprefixed {base : String}
    (unprefixed : record.isRelative = true ∨ registry.rootPackage = none)
    (named : record.module ≠ "") (resolved : registry.resolveModule record = some base) :
    registry.SubmoduleBelow record symbol := by
  have one := spellings_of_unprefixed unprefixed
  have key : base = record.module := by
    unfold resolveModule at resolved
    rw [one, List.findSome?_singleton] at resolved
    rw [← (lookup_eq_some_iff.1 resolved).1, keyFor_of_ne named]
  refine submoduleBelow_of_only resolved fun spelling spelled other => ?_
  rw [one, List.mem_singleton] at spelled
  exact absurd (spelled.trans key.symm) other

/-- Where the walk can see the submodule, the origin seen from the importing module is the target. -/
theorem origin_eq_target (scanned : registry.get? module = some found)
    (single : found.imports.filter (·.brings symbol) = [record])
    (childless : registry.submodule? (registry.entry module) symbol = none)
    (straight : ¬ registry.EndsOnRevisit symbol (registry.entry module))
    (linked : registry.symbolTarget record symbol = some target)
    (below : registry.SubmoduleBelow record symbol) :
    registry.origin module symbol = target := by
  have origin := origin_of_single scanned single childless straight
  unfold symbolTarget at linked
  cases submodule : registry.resolveSubmodule record symbol with
  | none =>
    rw [submodule, Option.none_or] at linked
    rw [origin, linked, Option.getD_some]
  | some child =>
    rw [submodule, Option.some_or] at linked
    obtain rfl := Option.some.inj linked
    obtain ⟨base, resolved, stands⟩ := below child submodule
    have key := entry_of_isKey (isKey_of_resolveModule resolved)
    rw [origin, resolved, Option.map_some, Option.getD_some]
    exact origin_of_submodule (by rwa [key])

/-- A module without a submodule of the symbol's name, one of whose imports brings the symbol and has a
target for it. The origin of the symbol is that target wherever the submodule that linking finds stands
below the key of the imported module. That is so for every registered module with no such submodule
below another of its spellings, thus for every relative import and, without a root package, for each of
a registered module with a dotted name. Whoever takes the symbol from the module is then linked to the
same target. In all cases the origin is the one seen from the imported module, or the module itself
where the imported one is not registered. -/
theorem nameTarget_is_origin (scanned : registry.get? module = some found)
    (single : found.imports.filter (·.brings symbol) = [record])
    (childless : registry.submodule? (registry.entry module) symbol = none)
    (straight : ¬ registry.EndsOnRevisit symbol (registry.entry module))
    (linked : registry.symbolTarget record symbol = some target) :
    (registry.SubmoduleBelow record symbol → registry.origin module symbol = target) ∧
    (∀ base, registry.resolveModule record = some base →
      (∀ spelling ∈ registry.spellings record.module record.isRelative, spelling ≠ base →
        registry.lookup (Dotted.child spelling symbol) = none) →
      registry.origin module symbol = target) ∧
    (∀ base, registry.resolveModule record = some base → record.module ≠ "" →
      (record.isRelative = true ∨ registry.rootPackage = none) →
      registry.origin module symbol = target) ∧
    (symbol ≠ ImportRecord.wildcard → registry.nameTarget record symbol = some target ∧
      (registry.origin module symbol = target →
        ∀ other, registry.resolveModule other = some (registry.entry module) →
          registry.resolveSubmodule other symbol = none →
          registry.nameTarget other symbol = some target)) ∧
    registry.origin module symbol =
      ((registry.resolveModule record).map fun base => registry.origin base symbol).getD
        (registry.entry module) := by
  have agrees := origin_eq_target scanned single childless straight linked
  refine ⟨agrees, ?_, ?_, ?_, origin_of_single scanned single childless straight⟩
  · intro base resolved only
    exact agrees (submoduleBelow_of_only resolved only)
  · intro base resolved dotted unprefixed
    exact agrees (submoduleBelow_of_unprefixed unprefixed dotted resolved)
  · intro named
    refine ⟨(nameTarget_of_ne named).trans linked, ?_⟩
    intro same other resolved submoduleless
    rw [nameTarget_of_ne named, symbolTarget, submoduleless, Option.none_or, resolved,
      Option.map_some, origin_congr (entry_entry registry module), same]

/-- A symbol handed on twice, an import of a submodule from a package without an initializer, and one
of a module beside the initializer of the source root. -/
def mailRegistry : Registry :=
  let handing (name source : String) : ScannedModule :=
    ⟨name, ⟨name ++ ".py"⟩, none, [⟨source, 1, false, ["mail"]⟩]⟩
  let plain (name : String) : ScannedModule := ⟨name, ⟨name ++ ".py"⟩, none, []⟩
  [handing "crm" "post", handing "post" "letter", plain "letter", handing "app" "pkg",
    plain "pkg.mail", handing "front" "shop", plain "", plain "mail"].foldl Registry.insert
    (Registry.new (some "shop"))

theorem nameTarget_is_origin_mail :
    mailRegistry.symbolTarget ⟨"post", 1, false, ["mail"]⟩ "mail" = some "letter" ∧
      mailRegistry.origin "crm" "mail" = "letter" ∧
      mailRegistry.nameTarget ⟨"crm", 3, true, ["mail"]⟩ "mail" = some "letter" := by
  have linked : mailRegistry.symbolTarget ⟨"post", 1, false, ["mail"]⟩ "mail" = some "letter" := by
    decide
  have chain : mailRegistry.Chain "mail" (fun place => ["crm", "post", "letter"].getD place "") 2 :=
    ⟨by decide, by decide⟩
  have straight := (chain.firstStop (by decide)).straight (by decide)
  obtain ⟨_, agrees, _, others, _⟩ := nameTarget_is_origin
    (show mailRegistry.get? "crm" = some ⟨"crm", ⟨"crm.py"⟩, none, [⟨"post", 1, false, ["mail"]⟩]⟩ by
      decide)
    (show _ = [(⟨"post", 1, false, ["mail"]⟩ : ImportRecord)] by decide) (by decide) straight linked
  have origin := agrees "post" (by decide) (by decide)
  have third := (others (by decide)).2 origin ⟨"crm", 3, true, ["mail"]⟩ (by decide) (by decide)
  exact ⟨linked, origin, third⟩

/-- A submodule of a package without an initializer, and a module beside the initializer of the source
root: the importing module is linked to it, but the walk from there does not find it, and so a third
module is linked elsewhere. -/
theorem linked_submodule_passed_over :
    (let record : ImportRecord := ⟨"pkg", 1, false, ["mail"]⟩;
      mailRegistry.get? "app" = some ⟨"app", ⟨"app.py"⟩, none, [record]⟩ ∧
      [record].filter (·.brings "mail") = [record] ∧
      mailRegistry.submodule? "app" "mail" = none ∧
      ¬ mailRegistry.EndsOnRevisit "mail" "app" ∧
      mailRegistry.nameTarget record "mail" = some "pkg.mail" ∧
      mailRegistry.origin "app" "mail" = "app" ∧
      mailRegistry.nameTarget ⟨"app", 1, false, ["mail"]⟩ "mail" = some "app") ∧
    (let record : ImportRecord := ⟨"shop", 1, false, ["mail"]⟩;
      mailRegistry.get? "front" = some ⟨"front", ⟨"front.py"⟩, none, [record]⟩ ∧
      [record].filter (·.brings "mail") = [record] ∧
      mailRegistry.submodule? "front" "mail" = none ∧
      ¬ mailRegistry.EndsOnRevisit "mail" "front" ∧
      mailRegistry.nameTarget record "mail" = some "mail" ∧
      mailRegistry.origin "front" "mail" = "shop" ∧
      mailRegistry.nameTarget ⟨"front", 1, false, ["mail"]⟩ "mail" = some "shop") := by
  have stays : mailRegistry.Chain "mail" (fun _ => "app") 0 := ⟨by decide, by decide⟩
  have hands : mailRegistry.Chain "mail" (fun place => ["front", "shop"].getD place "") 1 :=
    ⟨by decide, by decide⟩
  have bare := (stays.firstStop (by decide)).straight (by decide)
  have root := (hands.firstStop (by decide)).straight (by decide)
  constructor
  · exact ⟨by decide, by decide, by decide, bare, by decide, by decide, by decide⟩
  · exact ⟨by decide, by decide, by decide, root, by decide, by decide, by decide⟩

end LayerAtlas.Registry
