import LayerAtlas.Proofs.Origin

/-!
# Submodules before imports

A submodule of the symbol's name ends the walk at its start and at every module that the walk comes
to, whatever the imports there hand on. Submodules are looked for below the key of a module. Only the
initializer of the source root has another key than its dotted name, so the modules beside it, which
are its submodules, are not found from there.
-/
namespace LayerAtlas.Registry

variable {registry : Registry} {symbol module child : String}

theorem entry_of_ne (named : module ≠ "") : registry.entry module = module := by
  unfold entry
  cases found : registry.lookup module with
  | none => rfl
  | some key =>
    obtain ⟨rfl, _⟩ := lookup_eq_some_iff.1 found
    rw [Option.getD_some, keyFor_of_ne named]

theorem entry_of_contains (registered : registry.contains module = true) :
    registry.entry module = registry.keyFor module := by
  obtain ⟨key, found⟩ := Option.isSome_iff_exists.1 registered
  obtain ⟨rfl, _⟩ := lookup_eq_some_iff.1 found
  rw [entry, found, Option.getD_some]

/-- The walk stops at the first module it comes to that has the submodule. -/
theorem origin_of_submodule_passed {steps : Nat} {place : String}
    (reached : registry.trail symbol (registry.entry module) steps = some place)
    (unstopped : ∀ earlier < steps, ¬ registry.StopsAt symbol (registry.entry module) earlier)
    (found : registry.submodule? place symbol = some child) :
    registry.origin module symbol = child := by
  have stop : registry.FirstStop symbol (registry.entry module) steps place :=
    ⟨reached, ⟨place, reached, .inl (by simp [found])⟩, unstopped⟩
  rw [stop.origin_eq, found, Option.getD_some]

theorem origin_of_submodule (found : registry.submodule? (registry.entry module) symbol = some child) :
    registry.origin module symbol = child := by
  have begins : registry.trail symbol (registry.entry module) 0 = some (registry.entry module) := rfl
  exact origin_of_submodule_passed begins (fun _ before => absurd before (Nat.not_lt_zero _)) found

/-- A walk whose start has no submodule and hands nothing on stays there. -/
theorem origin_of_stays (childless : registry.submodule? (registry.entry module) symbol = none)
    (kept : registry.handedOnFrom? (registry.entry module) symbol = none) :
    registry.origin module symbol = registry.entry module := by
  have stop : registry.FirstStop symbol (registry.entry module) 0 (registry.entry module) :=
    ⟨rfl, ⟨_, rfl, .inr (by simp [kept])⟩, fun _ before => absurd before (Nat.not_lt_zero _)⟩
  rw [stop.origin_eq, childless, Option.getD_none]

/-- A walk that has nowhere to go on from its first stop did not turn back there. -/
theorem FirstStop.straight {start final : String} {last : Nat}
    (stop : registry.FirstStop symbol start last final)
    (ends : registry.handedOnFrom? final symbol = none) : ¬ registry.EndsOnRevisit symbol start := by
  rintro ⟨steps, other, found, _, goesOn⟩
  obtain ⟨_, rfl⟩ := stop.unique found
  exact goesOn ends

/-- A walk that does not turn back is that of the next module. -/
theorem origin_of_handedOn {next : String}
    (childless : registry.submodule? (registry.entry module) symbol = none)
    (handed : registry.handedOnFrom? (registry.entry module) symbol = some next)
    (straight : ¬ registry.EndsOnRevisit symbol (registry.entry module)) :
    registry.origin module symbol = registry.origin next symbol := by
  obtain ⟨last, final, stop, equal⟩ := exists_firstStop registry symbol module
  obtain ⟨steps, behind⟩ := stop.behind childless handed straight
  rw [← entry_of_isKey (handedOnFrom_spec handed).1] at behind
  rw [equal, behind.origin_eq]

/-- The submodule of a module with a dotted name wins over all that the imports of the module hand on,
and so it does at each module that a walk comes to. The initializer of the source root, which has no
dotted name, is left out: the walk from there looks below its key only. With nothing below the key it
follows the initializer's imports, and stays where they bring no such symbol, whether or not a module
of the symbol's name lies beside it. -/
theorem submodule_precedes_imports (registry : Registry) (symbol : String) :
    (∀ module child, module ≠ "" → registry.lookup (Dotted.child module symbol) = some child →
      registry.origin module symbol = child) ∧
    (∀ module steps place child,
      registry.trail symbol (registry.entry module) steps = some place →
      (∀ earlier < steps, ¬ registry.StopsAt symbol (registry.entry module) earlier) →
      registry.lookup (Dotted.child place symbol) = some child →
      registry.origin module symbol = child) ∧
    (registry.contains "" = true →
      registry.lookup (Dotted.child (registry.keyFor "") symbol) = none →
      (registry.handedOnFrom? (registry.keyFor "") symbol = none →
        registry.origin "" symbol = registry.keyFor "") ∧
      ∀ next, registry.handedOnFrom? (registry.keyFor "") symbol = some next →
        ¬ registry.EndsOnRevisit symbol (registry.keyFor "") →
        registry.origin "" symbol = registry.origin next symbol) := by
  refine ⟨?_, ?_, ?_⟩
  · intro module child named found
    refine origin_of_submodule ?_
    rw [entry_of_ne named]
    exact found
  · intro module steps place child reached unstopped found
    exact origin_of_submodule_passed reached unstopped found
  · intro registered childless
    have start := entry_of_contains registered
    rw [← start] at childless ⊢
    exact ⟨origin_of_stays childless, fun next => origin_of_handedOn childless⟩

/-- A package and the source root, each with a module of the name `order` below and an import of
that name from elsewhere. -/
def orderRegistry : Registry :=
  let handing (name source : String) : ScannedModule :=
    ⟨name, ⟨"shop/" ++ name ++ "/__init__.py"⟩, none, [⟨source, 1, false, ["order"]⟩]⟩
  let plain (name : String) : ScannedModule := ⟨name, ⟨"shop/" ++ name ++ ".py"⟩, none, []⟩
  (((((Registry.new (some "shop")).insert (handing "" "other")).insert (handing "crm" "other")).insert
    (plain "order")).insert (plain "crm.order")).insert (plain "other")

theorem submodule_precedes_imports_order :
    orderRegistry.lookup (Dotted.child "crm" "order") = some "crm.order" ∧
      orderRegistry.handedOnFrom? "crm" "order" = some "other" ∧
      orderRegistry.origin "crm" "order" = "crm.order" := by
  have found : orderRegistry.lookup (Dotted.child "crm" "order") = some "crm.order" := by decide
  exact ⟨found, by decide,
    (submodule_precedes_imports orderRegistry "order").1 "crm" "crm.order" (by decide) found⟩

/-- From the initializer of the source root the module beside it is not found. -/
theorem submodule_of_root_passed_over :
    orderRegistry.contains "" = true ∧
      orderRegistry.lookup (Dotted.child "" "order") = some "order" ∧
      orderRegistry.origin "" "order" = "other" := by
  decide

end LayerAtlas.Registry
