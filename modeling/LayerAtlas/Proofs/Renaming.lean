import LayerAtlas.Proofs.Agreement
import LayerAtlas.Proofs.FileOrder
import LayerAtlas.Proofs.Linking
import LayerAtlas.Proofs.Reading.FromImport
import Mathlib.Data.Nat.Find

/-!
# Names that change on the way

Modules that each import one name from the next can give it another name. The record of an import has the
name at the origin, and a walk asks every module for the name with which it set out. So a walk along such
modules gets no further than to the first that imports under a different name, whichever name that module
gives it, and the last module is reached only where all of them use one name.
-/
namespace LayerAtlas

/-- Modules of which each but the last imports one symbol from the next, perhaps under another name. -/
structure Relay where
  last : Nat
  path : Nat → Path
  module : Nat → String
  /-- The name under which a module offers what is handed on. -/
  symbol : Nat → String
  /-- The name that a link gives to what it imports, where it gives one. -/
  given : Nat → Option String
  /-- The text of the last module. -/
  ending : String

namespace Relay

open Registration (moduleName? keyOf? parseFaults OnePerKind Settled)
open SourceText (fromImportLine isName IsOrigin)

variable {relay : Relay} {root : Path} {rootPackage : Option String} {place : Nat}

def text (relay : Relay) (place : Nat) : String :=
  if place < relay.last then
    fromImportLine (relay.module (place + 1)) (relay.symbol (place + 1)) (relay.given place)
  else relay.ending

/-- What is read from the text: the import of a link, by the name that the symbol has at the next module. -/
def imports (relay : Relay) (place : Nat) : List ImportRecord :=
  if place < relay.last then
    [⟨relay.module (place + 1), 1, false, [relay.symbol (place + 1)]⟩]
  else []

def file (relay : Relay) (place : Nat) : SourceFile :=
  .readable (relay.path place) (relay.text place)

def files (relay : Relay) : List SourceFile :=
  (List.range (relay.last + 1)).map relay.file

/-- A file that imports from the first module what it offers. -/
def consumer (relay : Relay) (path : Path) : SourceFile :=
  .readable path (fromImportLine (relay.module 0) (relay.symbol 0) none)

/-- Different modules below the root with names that an import can spell. Each link offers what it imports
under the name that it gives, and the last module has no imports. -/
structure Lawful (relay : Relay) (root : Path) (rootPackage : Option String) : Prop where
  keyed : ∀ place ≤ relay.last,
    keyOf? root rootPackage (relay.file place) = some (relay.module place)
  distinct : ∀ one ≤ relay.last, ∀ other ≤ relay.last,
    relay.module one = relay.module other → one = other
  spelled : ∀ place ≤ relay.last, ∃ first names,
    relay.module place = Dotted.join (first :: names) ∧ IsOrigin (first :: names)
  symbols : ∀ place ≤ relay.last, isName (relay.symbol place) = true
  offers : ∀ place < relay.last, relay.given place = some (relay.symbol place) ∨
    relay.given place = none ∧ relay.symbol place = relay.symbol (place + 1)
  ending : ∀ name, moduleName? root (relay.file relay.last) = some name →
    SourceText.readImports relay.ending (relay.path relay.last) name = .ok []

/-- The first module that imports what it hands on under a name other than the one asked for, or else the
last module. -/
structure RenamesAt (relay : Relay) (place : Nat) : Prop where
  inside : place ≤ relay.last
  same : ∀ earlier < place, relay.symbol (earlier + 1) = relay.symbol 0
  ends : place < relay.last → relay.symbol (place + 1) ≠ relay.symbol 0

theorem exists_renamesAt (relay : Relay) : ∃ place, relay.RenamesAt place := by
  have ends : ∃ place, place = relay.last ∨ relay.symbol (place + 1) ≠ relay.symbol 0 :=
    ⟨relay.last, .inl rfl⟩
  refine ⟨Nat.find ends, Nat.find_min' ends (.inl rfl), fun earlier before => ?_, fun inside => ?_⟩
  · have goesOn := Nat.find_min ends before
    rw [not_or, not_not] at goesOn
    exact goesOn.2
  · exact (Nat.find_spec ends).resolve_left (Nat.ne_of_lt inside)

/-- The walk comes to the last module where nothing is renamed on the way. -/
theorem RenamesAt.eq_last_iff (renames : relay.RenamesAt place) :
    place = relay.last ↔ ∀ other ≤ relay.last, relay.symbol other = relay.symbol 0 := by
  constructor
  · rintro rfl other inside
    cases other with
    | zero => rfl
    | succ earlier => exact renames.same earlier inside
  · intro kept
    by_contra early
    have inside : place < relay.last := Nat.lt_of_le_of_ne renames.inside early
    exact renames.ends inside (kept (place + 1) inside)

/-- Links that give no other names offer all the same name. -/
theorem Lawful.symbol_eq (lawful : relay.Lawful root rootPackage)
    (plain : ∀ place < relay.last, relay.given place = none) (inside : place ≤ relay.last) :
    relay.symbol place = relay.symbol 0 := by
  induction place with
  | zero => rfl
  | succ place ih =>
    rcases lawful.offers place inside with renamed | ⟨_, kept⟩
    · rw [plain place inside] at renamed
      cases renamed
    · rw [← kept, ih (Nat.le_of_lt inside)]

theorem Lawful.module_ne (lawful : relay.Lawful root rootPackage) (inside : place ≤ relay.last) :
    relay.module place ≠ "" := by
  obtain ⟨first, names, spelled, origin⟩ := lawful.spelled place inside
  obtain ⟨c, rest, chars, _⟩ := SourceText.exists_of_isName (origin.named first List.mem_cons_self)
  intro empty
  have none : (Dotted.join (first :: names)).toList = [] := congrArg String.toList (spelled ▸ empty)
  rw [SourceText.toList_join, chars] at none
  cases none

theorem Lawful.readImports_text (lawful : relay.Lawful root rootPackage) (inside : place ≤ relay.last)
    {name : String} (named : moduleName? root (relay.file place) = some name) :
    SourceText.readImports (relay.text place) (relay.path place) name = .ok (relay.imports place) := by
  rcases Nat.lt_or_eq_of_le inside with before | rfl
  · obtain ⟨first, names, spelled, origin⟩ := lawful.spelled (place + 1) before
    have other : ∀ name ∈ relay.given place, isName name = true := by
      intro name mentioned
      rcases lawful.offers place before with renamed | ⟨kept, _⟩
      · rw [renamed] at mentioned
        cases mentioned
        exact lawful.symbols place inside
      · rw [kept] at mentioned
        cases mentioned
    rw [text, imports, if_pos before, if_pos before, spelled]
    exact SourceText.readImports_line origin (lawful.symbols (place + 1) before) other
      (Registration.extension_of_moduleName named) name
  · rw [text, imports, if_neg (Nat.lt_irrefl _), if_neg (Nat.lt_irrefl _)]
    exact lawful.ending name named

theorem Lawful.readImports_consumer (lawful : relay.Lawful root rootPackage) {path : Path}
    (extension : path.extension? = some (.ofString "py")) (name : String) :
    SourceText.readImports (fromImportLine (relay.module 0) (relay.symbol 0) none) path name =
      .ok [⟨relay.module 0, 1, false, [relay.symbol 0]⟩] := by
  obtain ⟨first, names, spelled, origin⟩ := lawful.spelled 0 (Nat.zero_le _)
  have other : ∀ name ∈ (none : Option String), isName name = true := fun _ mentioned => by
    cases mentioned
  rw [spelled]
  exact SourceText.readImports_line origin (lawful.symbols 0 (Nat.zero_le _)) other extension name

/-! The registry of a relay and its consumer. -/

section Registered

variable {path : Path} {key : String} {files : List SourceFile} {state : Registration}

/-- The files of a relay and a consumer of its own, in some order. None of them is a module of the
symbol's name below one of the relay, or below another spelling of the first one, by which the import of
the consumer may mean it. -/
structure Listed (relay : Relay) (root : Path) (rootPackage : Option String) (path : Path)
    (key : String) (files : List SourceFile) : Prop where
  perm : files.Perm (relay.consumer path :: relay.files)
  keyed : keyOf? root rootPackage (relay.consumer path) = some key
  own : ∀ place ≤ relay.last, key ≠ relay.module place
  childless : ∀ file ∈ files, ∀ place ≤ relay.last,
    keyOf? root rootPackage file ≠ some (Dotted.child (relay.module place) (relay.symbol 0))
  unspelled : ∀ file ∈ files, ∀ base ∈ (Registry.new rootPackage).spellings (relay.module 0) false,
    keyOf? root rootPackage file ≠ some (Dotted.child base (relay.symbol 0))

theorem Listed.mem_iff (listed : relay.Listed root rootPackage path key files) {file : SourceFile} :
    file ∈ files ↔ file = relay.consumer path ∨ ∃ place ≤ relay.last, relay.file place = file := by
  rw [listed.perm.mem_iff, List.mem_cons, Relay.files, List.mem_map]
  simp only [List.mem_range, Nat.lt_succ_iff]

/-- The keys of a consumer and a relay are those of the consumer and of each module. -/
theorem Lawful.filterMap_keyOf (lawful : relay.Lawful root rootPackage)
    (keyed : keyOf? root rootPackage (relay.consumer path) = some key) :
    (relay.consumer path :: relay.files).filterMap (keyOf? root rootPackage) =
      key :: (List.range (relay.last + 1)).map relay.module := by
  rw [List.filterMap_cons_some keyed, files, List.filterMap_map]
  refine congrArg (key :: ·) ?_
  have same : ∀ place ∈ List.range (relay.last + 1),
      (keyOf? root rootPackage ∘ relay.file) place = some (relay.module place) := fun place inside =>
    lawful.keyed place (Nat.lt_succ_iff.mp (List.mem_range.mp inside))
  rw [List.filterMap_congr same]
  exact congrFun List.filterMap_eq_map _

theorem Listed.onePerKind (listed : relay.Listed root rootPackage path key files)
    (lawful : relay.Lawful root rootPackage) : OnePerKind root rootPackage files := by
  apply OnePerKind.of_keys
  rw [(listed.perm.filterMap _).nodup_iff, lawful.filterMap_keyOf listed.keyed, List.nodup_cons]
  constructor
  · intro member
    obtain ⟨place, inside, same⟩ := List.mem_map.mp member
    exact listed.own place (Nat.lt_succ_iff.mp (List.mem_range.mp inside)) same.symm
  · refine List.Nodup.map_on ?_ List.nodup_range
    intro one first other second same
    exact lawful.distinct one (Nat.lt_succ_iff.mp (List.mem_range.mp first)) other
      (Nat.lt_succ_iff.mp (List.mem_range.mp second)) same

/-- What a module of a relay is registered as. -/
def linkModule (relay : Relay) (place : Nat) : ScannedModule :=
  ⟨relay.module place, relay.path place, some (relay.text place), relay.imports place⟩

/-- What a consumer is registered as. -/
def consumerModule (relay : Relay) (path : Path) (key : String) : ScannedModule :=
  ⟨key, path, (relay.consumer path).content, [⟨relay.module 0, 1, false, [relay.symbol 0]⟩]⟩

/-- A registry in which the modules of a relay and its consumer stand. -/
structure Known (relay : Relay) (path : Path) (key : String) (registry : Registry) : Prop where
  link : ∀ place ≤ relay.last,
    registry.modules.get? (relay.module place) = some (relay.linkModule place)
  consumer : registry.modules.get? key = some (relay.consumerModule path key)

theorem Listed.known (listed : relay.Listed root rootPackage path key files)
    (lawful : relay.Lawful root rootPackage)
    (done : Settled SourceText.readImports root rootPackage files state) :
    relay.Known path key state.registry := by
  have apart := listed.onePerKind lawful
  constructor
  · intro place inside
    obtain ⟨name, named⟩ := Registration.exists_moduleName (lawful.keyed place inside)
    rw [done.get?_of_alone apart (listed.mem_iff.mpr (.inr ⟨place, inside, rfl⟩))
      (lawful.keyed place inside) ?_]
    · exact Registration.standsFor_of_read named (lawful.readImports_text inside named) _
    · intro other among same
      rcases listed.mem_iff.mp among with rfl | ⟨another, within, rfl⟩
      · exact absurd (Option.some.inj (listed.keyed.symm.trans same)) (listed.own place inside)
      · rw [lawful.keyed another within] at same
        rw [lawful.distinct another within place inside (Option.some.inj same)]
  · obtain ⟨name, named⟩ := Registration.exists_moduleName listed.keyed
    rw [done.get?_of_alone apart (listed.mem_iff.mpr (.inl rfl)) listed.keyed ?_]
    · exact Registration.standsFor_of_read named
        (lawful.readImports_consumer (Registration.extension_of_moduleName named) name) key
    · intro other among same
      rcases listed.mem_iff.mp among with rfl | ⟨place, inside, rfl⟩
      · rfl
      · rw [lawful.keyed place inside] at same
        exact absurd (Option.some.inj same).symm (listed.own place inside)

/-- All texts can be read, so a build does not stop at one. -/
theorem Listed.parseFaults_eq (listed : relay.Listed root rootPackage path key files)
    (lawful : relay.Lawful root rootPackage) :
    parseFaults SourceText.readImports root files = [] := by
  refine List.filterMap_eq_nil_iff.mpr fun file among => ?_
  rcases listed.mem_iff.mp among with rfl | ⟨place, inside, rfl⟩
  · obtain ⟨name, named⟩ := Registration.exists_moduleName listed.keyed
    exact Registration.parseFault_of_read named
      (lawful.readImports_consumer (Registration.extension_of_moduleName named) name)
  · obtain ⟨name, named⟩ := Registration.exists_moduleName (lawful.keyed place inside)
    exact Registration.parseFault_of_read named (lawful.readImports_text inside named)

end Registered

/-! The walk along a relay. -/

section Walk

variable {path : Path} {key : String} {registry : Registry}

theorem Known.isKey (known : relay.Known path key registry) (lawful : relay.Lawful root rootPackage)
    (inside : place ≤ relay.last) : registry.IsKey (relay.module place) :=
  Registry.isKey_of_get? (known.link place inside) (lawful.module_ne inside)

/-- A link hands on what it imports under the name asked for. -/
theorem Known.handedOnFrom_eq (known : relay.Known path key registry)
    (lawful : relay.Lawful root rootPackage) (before : place < relay.last) {symbol : String}
    (same : relay.symbol (place + 1) = symbol) :
    registry.handedOnFrom? (relay.module place) symbol = some (relay.module (place + 1)) := by
  have inside := Nat.le_of_lt before
  refine Registry.handedOnFrom_of_brings (known.link place inside) (lawful.module_ne inside)
    (if_pos before) ?_ (known.isKey lawful before) ?_
  · simp [ImportRecord.brings, same]
  · intro again
    exact Nat.succ_ne_self place (lawful.distinct (place + 1) before place inside again)

/-- Nothing is handed on by the first module that imports under another name. -/
theorem Known.handedOnFrom_renamesAt (known : relay.Known path key registry)
    (lawful : relay.Lawful root rootPackage) (renames : relay.RenamesAt place) :
    registry.handedOnFrom? (relay.module place) (relay.symbol 0) = none := by
  refine Registry.handedOnFrom_of_unbrought (known.link place renames.inside)
    (lawful.module_ne renames.inside) ?_
  change ∀ record ∈ relay.imports place, _
  unfold imports
  split
  · next before =>
    intro record listed
    rw [List.mem_singleton.mp listed]
    simpa [ImportRecord.brings] using (renames.ends before).symm
  · exact fun _ listed => by cases listed

/-- The walk for the symbol of the first module ends where it is renamed. -/
theorem Known.origin_eq (known : relay.Known path key registry)
    (lawful : relay.Lawful root rootPackage)
    (childless : ∀ place ≤ relay.last,
      registry.submodule? (relay.module place) (relay.symbol 0) = none)
    (renames : relay.RenamesAt place) :
    registry.origin (relay.module 0) (relay.symbol 0) = relay.module place := by
  have chain : registry.Chain (relay.symbol 0) relay.module place := {
    handedOn := fun earlier before =>
      known.handedOnFrom_eq lawful (Nat.lt_of_lt_of_le before renames.inside)
        (renames.same earlier before)
    childless := fun earlier before => childless earlier (Nat.le_trans before renames.inside) }
  have begins : relay.module 0 = registry.entry (relay.module 0) :=
    (Registry.entry_of_isKey (known.isKey lawful (Nat.zero_le _))).symm
  exact chain.origin_eq begins (chain.firstStop (known.handedOnFrom_renamesAt lawful renames))

/-- An import of the symbol from the first module leads to where it is renamed. -/
theorem Known.moduleTargets_consumer (known : relay.Known path key registry)
    (lawful : relay.Lawful root rootPackage)
    (childless : ∀ place ≤ relay.last,
      registry.submodule? (relay.module place) (relay.symbol 0) = none)
    (unspelled : ∀ base ∈ registry.spellings (relay.module 0) false,
      registry.submodule? base (relay.symbol 0) = none)
    (renames : relay.RenamesAt place) :
    registry.moduleTargets (relay.consumerModule path key) = [some (relay.module place)] := by
  have named : relay.symbol 0 ≠ ImportRecord.wildcard := by
    intro wild
    have impossible := wild ▸ lawful.symbols 0 (Nat.zero_le _)
    cases impossible
  have record : registry.nameTarget ⟨relay.module 0, 1, false, [relay.symbol 0]⟩ (relay.symbol 0) =
      some (relay.module place) := by
    rw [Registry.nameTarget_of_ne named, Registry.symbolTarget,
      Registry.resolveSubmodule_eq_none_iff.mpr unspelled, Option.none_or,
      Registry.resolveModule_of_isKey (known.isKey lawful (Nat.zero_le _)), Option.map_some,
      known.origin_eq lawful childless renames]
  rw [Registry.moduleTargets, consumerModule, List.flatMap_singleton, Registry.targets]
  change [registry.nameTarget _ (relay.symbol 0)] = _
  rw [record]

end Walk

section Build

variable {path : Path} {key : String} {files : List SourceFile}

theorem Listed.exists_run (listed : relay.Listed root rootPackage path key files)
    (lawful : relay.Lawful root rootPackage) (policy : ParsePolicy) :
    ∃ built, Build.run SourceText.readImports root rootPackage policy files = .ok built := by
  obtain ⟨built, success, _⟩ := Build.run_skip_spec SourceText.readImports root rootPackage files
  cases policy with
  | skip => exact ⟨built, success⟩
  | abort =>
    rw [Build.run_abort, listed.parseFaults_eq lawful]
    exact ⟨built, success⟩

/-- No submodule is found where no file of the build is one. -/
theorem submodule_of_no_file {registry : Registry} {base symbol : String}
    (done : Registration.Registered root rootPackage files registry) (named : symbol ≠ "")
    (absent : ∀ file ∈ files, keyOf? root rootPackage file ≠ some (Dotted.child base symbol)) :
    registry.submodule? base symbol = none := by
  have child : Dotted.child base symbol ≠ "" := by
    unfold Dotted.child
    split
    · exact named
    · simp
  refine Option.eq_none_iff_forall_ne_some.mpr fun found below => ?_
  obtain ⟨same, present⟩ := Registry.lookup_eq_some_iff.1 below
  rw [Registry.keyFor_of_ne child] at same
  obtain ⟨file, among, keyed⟩ := (done.keys found).1 present
  exact absent file among (same ▸ keyed)

/-- A build from a relay and a module that imports from its first module gives the importing module one
edge, to the first module of the relay that imports what it hands on under a name other than the one asked
for, or to the last module if there is none. So the edge leads to the last module just in case all modules
use one name, as they do where no import gives another. -/
theorem linked_where_renamed (lawful : relay.Lawful root rootPackage)
    (listed : relay.Listed root rootPackage path key files) (policy : ParsePolicy) :
    ∃ built node, Build.run SourceText.readImports root rootPackage policy files = .ok built ∧
      built.data.graph.get? key = some node ∧
      (∃ place, relay.RenamesAt place ∧
        ∀ target, target ∈ node.imports ↔ target = relay.module place) ∧
      (relay.module relay.last ∈ node.imports ↔
        ∀ place ≤ relay.last, relay.symbol place = relay.symbol 0) ∧
      ((∀ place < relay.last, relay.given place = none) →
        ∀ target, target ∈ node.imports ↔ target = relay.module relay.last) := by
  obtain ⟨built, success⟩ := listed.exists_run lawful policy
  obtain ⟨state, passed, done, graph, _, _⟩ := Build.run_eq_ok success
  have settled : Settled SourceText.readImports root rootPackage ([] ++ files) state :=
    (Registration.settled_start SourceText.readImports root rootPackage).addFiles passed
  have known := listed.known lawful settled
  have named := SourceText.ne_empty_of_isName (lawful.symbols 0 (Nat.zero_le _))
  obtain ⟨place, renames⟩ := relay.exists_renamesAt
  have leads := known.moduleTargets_consumer lawful
    (fun place inside => submodule_of_no_file done named fun file among =>
      listed.childless file among place inside)
    (fun base spelled => submodule_of_no_file done named fun file among => by
      have same : state.registry.spellings (relay.module 0) false =
          (Registry.new rootPackage).spellings (relay.module 0) false := by
        unfold Registry.spellings
        rw [done.package]
      exact listed.unspelled file among base (same ▸ spelled))
    renames
  obtain ⟨imports, linked, _, members⟩ :=
    state.registry.linkedNode_spec (relay.consumerModule path key)
  -- The consumer is no module of the relay, so its one target is an edge.
  have edges : ∀ target, target ∈ imports ↔ target = relay.module place := by
    intro target
    rw [members, leads, List.mem_singleton, Option.some.injEq]
    constructor
    · exact And.left
    · rintro rfl
      exact ⟨rfl, (listed.own place renames.inside).symm⟩
  have found : built.data.graph.get? key = some ⟨key, path, imports, .linked, none⟩ := by
    rw [graph, Registry.get?_linkedGraph, known.consumer, Option.map_some, linked]
    rfl
  refine ⟨built, _, success, found, ⟨place, renames, edges⟩, ?_, ?_⟩
  · change relay.module relay.last ∈ imports ↔ _
    rw [edges, ← renames.eq_last_iff]
    constructor
    · intro same
      exact (lawful.distinct relay.last (Nat.le_refl _) place renames.inside same).symm
    · intro same
      rw [same]
  · intro plain target
    rw [← renames.eq_last_iff.mpr fun other inside => lawful.symbol_eq plain inside]
    exact edges target

/-- Three modules of which the second takes a symbol from the third under another name. -/
def itemRelay : Relay where
  last := 2
  path place := ⟨["shop/front.py", "shop/item.py", "shop/thing.py"].getD place ""⟩
  module place := ["front", "item", "thing"].getD place ""
  symbol place := ["Item", "Item", "Thing"].getD place ""
  given place := if place = 1 then some "Item" else none
  ending := ""

theorem linked_where_renamed_item :
    ∃ built node,
      Build.run SourceText.readImports ⟨"shop"⟩ (some "shop") .abort
        (itemRelay.consumer ⟨"shop/user.py"⟩ :: itemRelay.files) = .ok built ∧
      built.data.graph.get? "user" = some node ∧
      ∀ target, target ∈ node.imports ↔ target = "item" := by
  have lawful : itemRelay.Lawful ⟨"shop"⟩ (some "shop") := {
    keyed := by decide +kernel
    distinct := by decide +kernel
    spelled := fun place inside => by
      have named : ∀ place ≤ 2, isName (itemRelay.module place) = true := by decide +kernel
      have past : ∀ place ≤ 2, itemRelay.module place ≠ "__future__" := by decide +kernel
      refine ⟨itemRelay.module place, [], by simp [Dotted.join], ?_, ?_⟩
      · simpa using named place inside
      · simpa using past place inside
    symbols := by decide +kernel
    offers := by decide +kernel
    ending := fun _ _ => rfl }
  have listed : itemRelay.Listed ⟨"shop"⟩ (some "shop") ⟨"shop/user.py"⟩ "user"
      (itemRelay.consumer ⟨"shop/user.py"⟩ :: itemRelay.files) := {
    perm := .rfl
    keyed := by decide +kernel
    own := by decide +kernel
    childless := by decide +kernel
    unspelled := by decide +kernel }
  obtain ⟨built, node, success, found, ⟨place, renames, edges⟩, _⟩ :=
    linked_where_renamed lawful listed .abort
  have second : place = 1 := by
    have inside := renames.inside
    match place, inside with
    | 0, _ => exact absurd rfl (renames.ends (by decide))
    | 1, _ => rfl
    | 2, _ => exact absurd (renames.same 1 (by decide)) (by decide)
  subst second
  exact ⟨built, node, success, found, edges⟩

/-- What the user of `Item` imports in a build where this is the text of the module that it names. -/
def userImports (first : String) : Option (List String) :=
  (Build.run SourceText.readImports ⟨"shop"⟩ none .skip
    [.readable ⟨"shop/m0.py"⟩ first, .readable ⟨"shop/m1.py"⟩ "",
      .readable ⟨"shop/user.py"⟩ "from m0 import Item\n"]).toOption.bind fun built =>
    (built.data.graph.get? "user").map (·.imports.names)

/-- The origin of the symbol is found without another name for it, and with one it is not. -/
theorem renamed_symbol_lost :
    userImports "from m1 import Item\n" = some ["m1"] ∧
      userImports "from m1 import Thing as Item\n" = some ["m0"] := by
  decide +kernel

end Build

end Relay

end LayerAtlas
