import LayerAtlas.Proofs.Registry
import LayerAtlas.Resolve.Origin
import Mathlib.Data.List.Perm.Subperm

/-!
# The end of a re-export walk

The modules that a walk would pass if nothing stopped it form a trail, a sequence that needs no record
of the modules visited. The walk ends at the first place of the trail that has a submodule of the
symbol's name, that hands the symbol on no further, or that leads back into the trail. Such a place
always exists, since a trail that never turned back would pass more modules than there are.
-/
namespace LayerAtlas.Registry

/-- The name at which a walk begins: the key of a registered name, else the name itself. -/
def entry (registry : Registry) (module : String) : String :=
  (registry.lookup module).getD module

/-- The module that is this many steps of handing on away from `start`, if there are so many. -/
def trail (registry : Registry) (symbol start : String) : Nat → Option String
  | 0 => some start
  | steps + 1 =>
    (registry.trail symbol start steps).bind fun module => registry.handedOnFrom? module symbol

/-- The walk has to stop behind so many steps: at a submodule, with nothing further, or because the
next module is one of those passed. -/
def StopsAt (registry : Registry) (symbol start : String) (steps : Nat) : Prop :=
  ∃ module, registry.trail symbol start steps = some module ∧
    (registry.submodule? module symbol ≠ none ∨
      ∀ next, registry.handedOnFrom? module symbol = some next →
        ∃ earlier ≤ steps, registry.trail symbol start earlier = some next)

/-- The first place at which the walk has to stop. -/
structure FirstStop (registry : Registry) (symbol start : String) (steps : Nat) (module : String) :
    Prop where
  reached : registry.trail symbol start steps = some module
  stops : registry.StopsAt symbol start steps
  first : ∀ earlier < steps, ¬ registry.StopsAt symbol start earlier

/-- The walk ends although the symbol is handed on: its next module is one of those passed. -/
def EndsOnRevisit (registry : Registry) (symbol start : String) : Prop :=
  ∃ steps module, registry.FirstStop symbol start steps module ∧
    registry.submodule? module symbol = none ∧ registry.handedOnFrom? module symbol ≠ none

/-- Modules without a submodule of the symbol's name, each handing the symbol on from the next. -/
structure Chain (registry : Registry) (symbol : String) (link : Nat → String) (last : Nat) :
    Prop where
  handedOn : ∀ place < last, registry.handedOnFrom? (link place) symbol = some (link (place + 1))
  childless : ∀ place ≤ last, registry.submodule? (link place) symbol = none

variable {registry : Registry} {symbol start module : String}

theorem isKey_of_submodule {child : String}
    (found : registry.submodule? module symbol = some child) : registry.IsKey child :=
  isKey_of_lookup found

/-- A module hands a symbol on from another module, which is registered as it is itself. -/
theorem handedOnFrom_spec {next : String}
    (handed : registry.handedOnFrom? module symbol = some next) :
    registry.IsKey next ∧ next ≠ module ∧ registry.get? module ≠ none := by
  unfold handedOnFrom? at handed
  cases found : registry.get? module with
  | none => simp [found] at handed
  | some scanned =>
    simp only [found] at handed
    obtain ⟨record, _, hit⟩ := List.exists_of_findSome?_eq_some handed
    obtain ⟨resolved, other⟩ := Option.filter_eq_some_iff.1 hit
    exact ⟨isKey_of_resolveModule resolved, by simpa using other, by simp⟩

theorem entry_of_isKey (key : registry.IsKey module) : registry.entry module = module := by
  rw [entry, show registry.lookup module = some module from key, Option.getD_some]

theorem isKey_entry (registered : registry.contains module = true) :
    registry.IsKey (registry.entry module) := by
  obtain ⟨key, found⟩ := Option.isSome_iff_exists.1 registered
  rw [entry, found, Option.getD_some]
  exact isKey_of_lookup found

/-- Every place of a trail behind its start is registered. -/
theorem isKey_trail {steps : Nat} (reached : registry.trail symbol start steps = some module) :
    module = start ∨ registry.IsKey module := by
  cases steps with
  | zero => exact .inl (Option.some.inj reached).symm
  | succ steps =>
    obtain ⟨previous, _, handed⟩ := Option.bind_eq_some_iff.1 reached
    exact .inr (handedOnFrom_spec handed).1

/-- A trail goes on from any of its places as one that starts there. -/
theorem trail_add {steps : Nat} (reached : registry.trail symbol start steps = some module)
    (further : Nat) :
    registry.trail symbol start (steps + further) = registry.trail symbol module further := by
  induction further with
  | zero => simpa [trail] using reached
  | succ further ih =>
    rw [← Nat.add_assoc]
    simp only [trail, ih]

theorem FirstStop.unique {steps others : Nat} {last other : String}
    (one : registry.FirstStop symbol start steps last)
    (two : registry.FirstStop symbol start others other) : steps = others ∧ last = other := by
  have same : steps = others := by
    rcases Nat.lt_trichotomy steps others with less | equal | greater
    · exact absurd one.stops (two.first steps less)
    · exact equal
    · exact absurd two.stops (one.first others greater)
  subst same
  exact ⟨rfl, Option.some.inj (one.reached.symm.trans two.reached)⟩

/-- What holds of a walk under way: the modules visited are the trail so far, each once, and nothing
on it made the walk stop. -/
structure Underway (registry : Registry) (symbol start : String) (steps : Nat)
    (visited : List String) (current : String) : Prop where
  reached : registry.trail symbol start steps = some current
  passed : ∀ module, module ∈ visited ↔
    ∃ earlier ≤ steps, registry.trail symbol start earlier = some module
  distinct : visited.Nodup
  length : visited.length = steps + 1
  unstopped : ∀ earlier < steps, ¬ registry.StopsAt symbol start earlier

theorem underway_here (registry : Registry) (symbol start : String) :
    registry.Underway symbol start 0 [start] start where
  reached := rfl
  passed := by
    intro module
    simp [trail, eq_comm]
  distinct := by simp
  length := rfl
  unstopped := by
    intro earlier less
    omega

theorem Underway.next {steps : Nat} {visited : List String} {current next : String}
    (under : registry.Underway symbol start steps visited current)
    (childless : registry.submodule? current symbol = none)
    (handed : registry.handedOnFrom? current symbol = some next) (fresh : next ∉ visited) :
    registry.Underway symbol start (steps + 1) (next :: visited) next where
  reached := by simp [trail, under.reached, handed]
  passed := by
    intro module
    rw [List.mem_cons, under.passed]
    constructor
    · rintro (rfl | ⟨earlier, bound, passed⟩)
      · exact ⟨steps + 1, Nat.le_refl _, by simp [trail, under.reached, handed]⟩
      · exact ⟨earlier, by omega, passed⟩
    · rintro ⟨earlier, bound, passed⟩
      by_cases last : earlier = steps + 1
      · subst last
        left
        simpa [trail, under.reached, handed, eq_comm] using passed
      · exact .inr ⟨earlier, by omega, passed⟩
  distinct := List.nodup_cons.2 ⟨fresh, under.distinct⟩
  length := by simp [under.length]
  unstopped := by
    intro earlier less
    by_cases last : earlier = steps
    · subst last
      rintro ⟨module, reached, stops⟩
      obtain rfl : module = current := Option.some.inj (reached.symm.trans under.reached)
      rcases stops with child | revisit
      · exact child childless
      · exact fresh ((under.passed next).2 (revisit next handed))
    · exact under.unstopped earlier (by omega)

/-- A walk under way has visited at most all modules and its start. -/
theorem Underway.steps_le {steps : Nat} {visited : List String} {current : String}
    (under : registry.Underway symbol start steps visited current) : steps ≤ registry.size := by
  have inside : visited ⊆ start :: registry.modules.keys := by
    intro module member
    obtain ⟨earlier, _, passed⟩ := (under.passed module).1 member
    rcases isKey_trail passed with rfl | key
    · exact List.mem_cons_self
    · exact List.mem_cons_of_mem _ key.mem_keys
  have bound := (under.distinct.subperm inside).length_le
  rw [under.length, List.length_cons, Keyed.length_keys] at bound
  exact Nat.le_of_succ_le_succ bound

/-- A walk under way that has to stop where it is stops there first. -/
theorem Underway.firstStop {steps : Nat} {visited : List String} {current : String}
    (under : registry.Underway symbol start steps visited current)
    (reason : registry.submodule? current symbol ≠ none ∨
      ∀ next, registry.handedOnFrom? current symbol = some next → next ∈ visited) :
    registry.FirstStop symbol start steps current where
  reached := under.reached
  stops := by
    refine ⟨current, under.reached, reason.imp_right fun revisit next handed => ?_⟩
    exact (under.passed next).1 (revisit next handed)
  first := under.unstopped

/-- The walk with enough steps left ends at the first stop, whatever number of steps that is. -/
theorem Underway.walk_eq {steps fuel : Nat} {visited : List String} {current : String}
    (under : registry.Underway symbol start steps visited current)
    (enough : registry.size < steps + fuel) :
    ∃ last module, registry.FirstStop symbol start last module ∧
      registry.walk symbol fuel visited current =
        (registry.submodule? module symbol).getD module := by
  -- Each step but the last visits a fresh module, so the fuel cannot run out before a stop.
  induction fuel generalizing steps visited current with
  | zero =>
    have bound := under.steps_le
    omega
  | succ fuel ih =>
    unfold walk
    cases child : registry.submodule? current symbol with
    | some below =>
      have stop := under.firstStop (.inl (by simp [child]))
      exact ⟨steps, current, stop, by rw [child, Option.getD_some]⟩
    | none =>
      cases handed : registry.handedOnFrom? current symbol with
      | none =>
        have stop := under.firstStop (.inr (by simp [handed]))
        exact ⟨steps, current, stop, by rw [child, Option.getD_none]⟩
      | some next =>
        dsimp only
        split
        · next revisit =>
          have stop := under.firstStop (.inr (by simpa [handed] using revisit))
          exact ⟨steps, current, stop, by rw [child, Option.getD_none]⟩
        · next fresh =>
          exact ih (under.next child handed (by simpa using fresh)) (by omega)

theorem exists_firstStop (registry : Registry) (symbol module : String) :
    ∃ last final, registry.FirstStop symbol (registry.entry module) last final ∧
      registry.origin module symbol = (registry.submodule? final symbol).getD final :=
  (underway_here registry symbol (registry.entry module)).walk_eq (by omega)

theorem FirstStop.walk_eq {last fuel : Nat} {final : String}
    (stop : registry.FirstStop symbol start last final) (enough : registry.size < fuel) :
    registry.walk symbol fuel [start] start = (registry.submodule? final symbol).getD final := by
  obtain ⟨steps, other, found, equal⟩ :=
    (underway_here registry symbol start).walk_eq (by omega : registry.size < 0 + fuel)
  obtain ⟨_, rfl⟩ := stop.unique found
  exact equal

theorem FirstStop.origin_eq {last : Nat} {final : String}
    (stop : registry.FirstStop symbol (registry.entry module) last final) :
    registry.origin module symbol = (registry.submodule? final symbol).getD final :=
  stop.walk_eq (Nat.lt_succ_self _)

theorem isKey_origin (registered : registry.contains module = true) (symbol : String) :
    registry.IsKey (registry.origin module symbol) := by
  obtain ⟨last, final, stop, equal⟩ := exists_firstStop registry symbol module
  rw [equal]
  cases child : registry.submodule? final symbol with
  | some found => exact isKey_of_submodule child
  | none =>
    rcases isKey_trail stop.reached with rfl | key
    · exact isKey_entry registered
    · exact key

theorem trail_ne_none_of_le {steps places : Nat} (reached : registry.trail symbol start steps ≠ none)
    (before : places ≤ steps) : registry.trail symbol start places ≠ none := by
  induction steps with
  | zero =>
    obtain rfl : places = 0 := by omega
    exact reached
  | succ steps ih =>
    by_cases last : places = steps + 1
    · exact last ▸ reached
    · refine ih ?_ (by omega)
      intro ended
      exact reached (by simp [trail, ended])

/-- A trail that meets itself again has no end. -/
theorem trail_ne_none_of_revisit {steps earlier : Nat} {next : String}
    (reached : registry.trail symbol start (steps + 1) = some next) (before : earlier ≤ steps)
    (passed : registry.trail symbol start earlier = some next) (places : Nat) :
    registry.trail symbol start places ≠ none := by
  induction places using Nat.strongRecOn with
  | ind places ih =>
    by_cases inside : places ≤ steps + 1
    · exact trail_ne_none_of_le (by simp [reached]) inside
    · obtain ⟨further, rfl⟩ : ∃ further, places = steps + 1 + further :=
        ⟨places - (steps + 1), by omega⟩
      rw [trail_add reached, ← trail_add passed]
      exact ih (earlier + further) (by omega)

theorem Chain.trail_eq {link : Nat → String} {last place : Nat}
    (chain : registry.Chain symbol link last) (inside : place ≤ last) :
    registry.trail symbol (link 0) place = some (link place) := by
  induction place with
  | zero => rfl
  | succ place ih =>
    simp [trail, ih (by omega), chain.handedOn place (by omega)]

/-- A chain is left early only where a link repeats one that stands before it. -/
theorem Chain.exists_repeat {link : Nat → String} {last place : Nat}
    (chain : registry.Chain symbol link last) (inside : place < last)
    (stops : registry.StopsAt symbol (link 0) place) :
    ∃ earlier ≤ place, link earlier = link (place + 1) := by
  obtain ⟨module, reached, reason⟩ := stops
  rw [chain.trail_eq (by omega), Option.some.injEq] at reached
  subst reached
  rcases reason with child | revisit
  · exact absurd (chain.childless place (by omega)) child
  · obtain ⟨earlier, before, passed⟩ := revisit _ (chain.handedOn place inside)
    rw [chain.trail_eq (by omega), Option.some.injEq] at passed
    exact ⟨earlier, before, passed⟩

/-- A chain whose last link hands nothing on leads there. -/
theorem Chain.firstStop {link : Nat → String} {last : Nat}
    (chain : registry.Chain symbol link last)
    (ends : registry.handedOnFrom? (link last) symbol = none) :
    registry.FirstStop symbol (link 0) last (link last) where
  reached := chain.trail_eq (Nat.le_refl _)
  stops := ⟨link last, chain.trail_eq (Nat.le_refl _), .inr (by simp [ends])⟩
  first := by
    intro place inside stops
    obtain ⟨earlier, before, same⟩ := chain.exists_repeat inside stops
    -- A repeat would close the trail into a ring, but it ends behind the last link.
    have reached : registry.trail symbol (link 0) (place + 1) = some (link (place + 1)) :=
      chain.trail_eq inside
    have goesOn := trail_ne_none_of_revisit reached before (same ▸ chain.trail_eq (by omega))
      (last + 1)
    exact goesOn (by simp [trail, chain.trail_eq, ends])

/-- A chain of different links whose last one leads back into it is left there. -/
theorem Chain.firstStop_of_ring {link : Nat → String} {last back : Nat}
    (chain : registry.Chain symbol link last)
    (distinct : ∀ one ≤ last, ∀ other ≤ last, link one = link other → one = other)
    (inside : back ≤ last)
    (leadsBack : registry.handedOnFrom? (link last) symbol = some (link back)) :
    registry.FirstStop symbol (link 0) last (link last) where
  reached := chain.trail_eq (Nat.le_refl _)
  stops := by
    refine ⟨link last, chain.trail_eq (Nat.le_refl _), .inr ?_⟩
    intro next handed
    obtain rfl : link back = next := Option.some.inj (leadsBack.symm.trans handed)
    exact ⟨back, inside, chain.trail_eq inside⟩
  first := by
    intro place before stops
    obtain ⟨earlier, bound, same⟩ := chain.exists_repeat before stops
    have equal := distinct earlier (by omega) (place + 1) before same
    omega

theorem Chain.origin_eq {link : Nat → String} {last : Nat}
    (chain : registry.Chain symbol link last) (begins : link 0 = registry.entry module)
    (stop : registry.FirstStop symbol (link 0) last (link last)) :
    registry.origin module symbol = link last := by
  rw [begins] at stop
  rw [stop.origin_eq, chain.childless last (Nat.le_refl _), Option.getD_none]

/-- Behind its first step, a walk that does not turn back is the walk from the next module. -/
theorem FirstStop.behind {last : Nat} {final next : String}
    (stop : registry.FirstStop symbol start last final)
    (childless : registry.submodule? start symbol = none)
    (handed : registry.handedOnFrom? start symbol = some next)
    (straight : ¬ registry.EndsOnRevisit symbol start) :
    ∃ steps, registry.FirstStop symbol next steps final := by
  have shift : ∀ steps, registry.trail symbol start (steps + 1) = registry.trail symbol next steps := by
    intro steps
    rw [Nat.add_comm]
    exact trail_add (by simp [trail, handed]) steps
  have reason : registry.submodule? final symbol ≠ none ∨
      registry.handedOnFrom? final symbol = none := by
    by_cases child : registry.submodule? final symbol = none
    · right
      by_contra goesOn
      exact straight ⟨last, final, stop, child, goesOn⟩
    · exact .inl child
  cases last with
  | zero =>
    obtain rfl : start = final := Option.some.inj stop.reached
    simp [childless, handed] at reason
  | succ last =>
    have reached : registry.trail symbol next last = some final := by
      rw [← shift]
      exact stop.reached
    refine ⟨last, reached, ⟨final, reached, ?_⟩, ?_⟩
    · rcases reason with child | ends
      · exact .inl child
      · exact .inr (by simp [ends])
    · rintro earlier before ⟨module, passed, turns⟩
      refine stop.first (earlier + 1) (by omega) ⟨module, by rw [shift, passed], ?_⟩
      refine turns.imp_right fun revisit other leads => ?_
      obtain ⟨place, bound, met⟩ := revisit other leads
      exact ⟨place + 1, by omega, by rw [shift, met]⟩

/-- The origin of a symbol stands at the end of the trail: the walk ends, whatever number of steps
beyond the number of modules it is given, at the first place that has a submodule of that name, hands
nothing on, or leads back into the trail. So it gives a registered module for a registered start,
follows a chain of any length to its last link, leaves a ring at the link that leads back, and is the
origin seen from the next module unless it turned back. -/
theorem origin_ends_trail (registry : Registry) (module symbol : String) :
    (∃ last final, registry.FirstStop symbol (registry.entry module) last final ∧
      registry.origin module symbol = (registry.submodule? final symbol).getD final) ∧
    (∀ fuel, registry.size < fuel →
      registry.walk symbol fuel [registry.entry module] (registry.entry module) =
        registry.origin module symbol) ∧
    (registry.contains module = true → registry.IsKey (registry.origin module symbol)) ∧
    (∀ link last, link 0 = registry.entry module → registry.Chain symbol link last →
      registry.handedOnFrom? (link last) symbol = none →
      registry.origin module symbol = link last) ∧
    (∀ link last back, link 0 = registry.entry module → registry.Chain symbol link last →
      (∀ one ≤ last, ∀ other ≤ last, link one = link other → one = other) → back ≤ last →
      registry.handedOnFrom? (link last) symbol = some (link back) →
      registry.origin module symbol = link last) ∧
    (∀ next, registry.submodule? (registry.entry module) symbol = none →
      registry.handedOnFrom? (registry.entry module) symbol = some next →
      ¬ registry.EndsOnRevisit symbol (registry.entry module) →
      registry.origin module symbol = registry.origin next symbol) := by
  obtain ⟨last, final, stop, equal⟩ := exists_firstStop registry symbol module
  refine ⟨⟨last, final, stop, equal⟩, ?_, fun registered => isKey_origin registered symbol,
    ?_, ?_, ?_⟩
  · intro fuel enough
    rw [stop.walk_eq enough, equal]
  · intro link places begins chain ends
    exact chain.origin_eq begins (chain.firstStop ends)
  · intro link places back begins chain distinct inside leadsBack
    exact chain.origin_eq begins (chain.firstStop_of_ring distinct inside leadsBack)
  · intro next childless handed straight
    obtain ⟨steps, behind⟩ := stop.behind childless handed straight
    rw [← entry_of_isKey (handedOnFrom_spec handed).1] at behind
    rw [equal, behind.origin_eq]

/-- From `a` into the ring of `b` and `c`, which is left where it closes. -/
example :
    let handing (name source : String) : ScannedModule :=
      ⟨name, ⟨name ++ ".py"⟩, none, [⟨source, 1, false, ["x"]⟩]⟩
    ((((Registry.new none).insert (handing "a" "b")).insert (handing "b" "c")).insert
      (handing "c" "b")).origin "a" "x" = "c" := by
  decide

end LayerAtlas.Registry
