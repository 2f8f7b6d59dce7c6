import LayerAtlas.Proofs.ParsePolicy

/-!
# The order of the files

Which file keeps a key does not depend on the order in which the files come: a package keeps it against
a module file, whichever of them is registered first. So where each kind has at most one file for a key,
a build gives the same graph and the same counters for every order of its files, and records the same
errors.
-/
namespace LayerAtlas

namespace Registration

variable {reader : ImportReader} {root : Path} {rootPackage : Option String} {policy : ParsePolicy}
  {state next : Registration} {file : SourceFile} {files : List SourceFile} {key : String}

/-- The key of a module, with whether it is a package. -/
def kindOf? (root : Path) (rootPackage : Option String) (file : SourceFile) :
    Option (String × Bool) :=
  (keyOf? root rootPackage file).map fun key => (key, file.path.isPackageInitializer)

/-- No two packages and no two other modules share a key; a package and another module may. -/
def OnePerKind (root : Path) (rootPackage : Option String) (files : List SourceFile) : Prop :=
  (files.filterMap (kindOf? root rootPackage)).Nodup

instance : Decidable (OnePerKind root rootPackage files) :=
  inferInstanceAs (Decidable (List.Nodup _))

/-- A file that keeps its key among the files: a package, or a module beside which no package has it. -/
structure Keeps (root : Path) (rootPackage : Option String) (files : List SourceFile) (key : String)
    (file : SourceFile) : Prop where
  listed : file ∈ files
  keyed : keyOf? root rootPackage file = some key
  unshadowed : file.path.isPackageInitializer = true ∨
    ∀ other ∈ files, keyOf? root rootPackage other = some key →
      other.path.isPackageInitializer = false

/-- The module that a file stands for under a key. -/
def standsFor (reader : ImportReader) (root : Path) (key : String) (file : SourceFile) :
    Option ScannedModule :=
  (scannedModule? reader root file).map fun module => { module with name := key }

/-- Registering a module puts it under its key unless it gives way to a package there. -/
theorem get?_add (state : Registration) (module : ScannedModule) (key : String) :
    (state.add module).registry.modules.get? key =
      if key = state.registry.keyFor module.name ∧
          ((state.registry.modules.get? key).any (·.isPackage) = true → module.isPackage = true) then
        some { module with name := key }
      else state.registry.modules.get? key := by
  have inserted : (state.registry.insert module).modules.get? key =
      if key = state.registry.keyFor module.name then some { module with name := key }
      else state.registry.modules.get? key := by
    unfold Registry.insert
    rw [Keyed.get?_insert]
    by_cases same : key = state.registry.keyFor module.name
    · rw [if_pos same, if_pos same, same]
    · rw [if_neg same, if_neg same]
  unfold add Registry.get?
  by_cases same : key = state.registry.keyFor module.name
  · rw [← same]
    cases found : state.registry.modules.get? key with
    | none => simpa [same] using inserted
    | some standing =>
      cases package : module.isPackage <;> cases stands : standing.isPackage <;>
        simp_all
  · rw [if_neg fun both => same both.1]
    cases state.registry.modules.get? (state.registry.keyFor module.name) with
    | none => simpa [same] using inserted
    | some standing =>
      dsimp only
      split
      · rfl
      · simpa [same] using inserted

theorem path_of_standsFor {module : ScannedModule}
    (stands : standsFor reader root key file = some module) : module.path = file.path := by
  unfold standsFor scannedModule? at stands
  rw [Option.map_map, Option.map_eq_some_iff] at stands
  obtain ⟨name, _, rfl⟩ := stands
  rfl

/-- What a file stands for is a package when the file is an initializer. -/
theorem isPackage_of_standsFor {module : ScannedModule}
    (stands : standsFor reader root key file = some module) :
    module.isPackage = file.path.isPackageInitializer := by
  rw [ScannedModule.isPackage, path_of_standsFor stands]

theorem exists_standsFor (reader : ImportReader)
    (keyed : keyOf? root rootPackage file = some key) :
    ∃ module, standsFor reader root key file = some module := by
  rw [keyOf?_eq_map, Option.map_eq_some_iff] at keyed
  obtain ⟨name, named, _⟩ := keyed
  exact ⟨_, by rw [standsFor, scannedModule?, named, Option.map_some, Option.map_some]⟩

/-- Registering a file puts what it stands for under its key, unless a package stands there and the file is
none. -/
theorem get?_addFile (done : Registered root rootPackage files state.registry)
    (success : state.addFile reader root policy file = .ok next) (key : String) :
    next.registry.modules.get? key =
      if keyOf? root rootPackage file = some key ∧
          ((state.registry.modules.get? key).any (·.isPackage) = true →
            file.path.isPackageInitializer = true) then
        standsFor reader root key file
      else state.registry.modules.get? key := by
  obtain ⟨registry, _, _⟩ := addFile_spec success
  rw [registry]
  cases named : moduleName? root file with
  | none =>
    have keyless : keyOf? root rootPackage file ≠ some key := by
      rw [keyOf?_eq_map, named]
      intro same
      cases same
    rw [scannedModule?, named, if_neg fun both => keyless both.1]
    rfl
  | some name =>
    have keyed : keyOf? root rootPackage file = some (state.registry.keyFor name) := by
      rw [keyOf?_eq_map, named, Option.map_some]
      exact congrArg some (Registry.keyFor_congr done.package name).symm
    have scanned : scannedModule? reader root file =
        some ⟨name, file.path, file.content, importsOf reader file name⟩ := by
      rw [scannedModule?, named, Option.map_some]
    have own : key = state.registry.keyFor name ↔ keyOf? root rootPackage file = some key := by
      rw [keyed, Option.some.injEq, eq_comm]
    rw [standsFor, scanned, Option.map_some, Option.getD_some, Option.map_some, get?_add]
    exact if_congr (and_congr_left fun _ => own) rfl rfl

theorem OnePerKind.of_append {others : List SourceFile}
    (apart : OnePerKind root rootPackage (files ++ others)) : OnePerKind root rootPackage files := by
  unfold OnePerKind at apart
  rw [List.filterMap_append] at apart
  exact (List.nodup_append.1 apart).1

/-- A file behind others of its key is of the other kind. -/
theorem OnePerKind.kind_ne {before : SourceFile}
    (apart : OnePerKind root rootPackage (files ++ [file])) (listed : before ∈ files)
    (earlier : keyOf? root rootPackage before = some key)
    (later : keyOf? root rootPackage file = some key) :
    before.path.isPackageInitializer ≠ file.path.isPackageInitializer := by
  unfold OnePerKind at apart
  rw [List.filterMap_append] at apart
  have first : (key, before.path.isPackageInitializer) ∈
      files.filterMap (kindOf? root rootPackage) :=
    List.mem_filterMap.2 ⟨before, listed, by rw [kindOf?, earlier, Option.map_some]⟩
  have second : (key, file.path.isPackageInitializer) ∈
      [file].filterMap (kindOf? root rootPackage) :=
    List.mem_filterMap.2 ⟨file, List.mem_singleton_self file, by
      rw [kindOf?, later, Option.map_some]⟩
  intro same
  exact (List.nodup_append.1 apart).2.2 _ first _ second (by rw [same])

/-- A file of another key changes nothing. -/
theorem keeps_append_of_ne {kept : SourceFile} (other : keyOf? root rootPackage file ≠ some key) :
    Keeps root rootPackage (files ++ [file]) key kept ↔ Keeps root rootPackage files key kept := by
  have members : ∀ source, source ∈ files ++ [file] ∧ keyOf? root rootPackage source = some key ↔
      source ∈ files ∧ keyOf? root rootPackage source = some key := by
    intro source
    rw [List.mem_append, List.mem_singleton]
    constructor
    · rintro ⟨listed | rfl, keyed⟩
      · exact ⟨listed, keyed⟩
      · exact absurd keyed other
    · exact fun ⟨listed, keyed⟩ => ⟨.inl listed, keyed⟩
  constructor
  · rintro ⟨listed, keyed, unshadowed⟩
    refine ⟨((members kept).1 ⟨listed, keyed⟩).1, keyed, unshadowed.imp_right ?_⟩
    intro plain source inside same
    exact plain source (List.mem_append_left _ inside) same
  · rintro ⟨listed, keyed, unshadowed⟩
    refine ⟨List.mem_append_left _ listed, keyed, unshadowed.imp_right ?_⟩
    intro plain source inside same
    exact plain source ((members source).1 ⟨inside, same⟩).1 same

/-- A file that does not give way to a package takes its key from all others. -/
theorem keeps_append_of_wins {kept : SourceFile}
    (apart : OnePerKind root rootPackage (files ++ [file]))
    (keyed : keyOf? root rootPackage file = some key)
    (wins : ∀ before ∈ files, keyOf? root rootPackage before = some key →
      before.path.isPackageInitializer = true → file.path.isPackageInitializer = true) :
    Keeps root rootPackage (files ++ [file]) key kept ↔ kept = file := by
  have only : ∀ before ∈ files, keyOf? root rootPackage before = some key →
      before.path.isPackageInitializer = false ∧ file.path.isPackageInitializer = true := by
    intro before listed earlier
    have differ := apart.kind_ne listed earlier keyed
    have first := wins before listed earlier
    cases package : before.path.isPackageInitializer with
    | true => exact absurd (package.trans (first package).symm) differ
    | false =>
      refine ⟨rfl, ?_⟩
      rw [package] at differ
      simpa using differ.symm
  have here : file ∈ files ++ [file] := List.mem_append_right _ (List.mem_singleton_self file)
  constructor
  · rintro ⟨listed, same, unshadowed⟩
    rcases List.mem_append.1 listed with inside | last
    · obtain ⟨plain, package⟩ := only kept inside same
      rcases unshadowed with isPackage | alone
      · rw [plain] at isPackage
        cases isPackage
      · rw [alone file here keyed] at package
        cases package
    · exact List.mem_singleton.1 last
  · rintro rfl
    refine ⟨here, keyed, ?_⟩
    by_cases package : kept.path.isPackageInitializer = true
    · exact .inl package
    · refine .inr fun other listed same => ?_
      rcases List.mem_append.1 listed with inside | last
      · exact (only other inside same).1
      · rw [List.mem_singleton.1 last]
        exact Bool.eq_false_iff.2 package

/-- A module file gives way to a package of its key. -/
theorem keeps_append_of_shadowed {kept package : SourceFile} (listed : package ∈ files)
    (keyed : keyOf? root rootPackage package = some key)
    (isPackage : package.path.isPackageInitializer = true)
    (plain : file.path.isPackageInitializer = false) :
    Keeps root rootPackage (files ++ [file]) key kept ↔ Keeps root rootPackage files key kept := by
  constructor
  · rintro ⟨inside, same, unshadowed⟩
    -- Where the package is listed, only a package can keep the key.
    have shown : kept.path.isPackageInitializer = true := by
      rcases unshadowed with shown | alone
      · exact shown
      · have hidden := alone package (List.mem_append_left _ listed) keyed
        rw [isPackage] at hidden
        cases hidden
    refine ⟨?_, same, .inl shown⟩
    rcases List.mem_append.1 inside with before | last
    · exact before
    · rw [List.mem_singleton.1 last, plain] at shown
      cases shown
  · rintro ⟨inside, same, unshadowed⟩
    refine ⟨List.mem_append_left _ inside, same, .inl ?_⟩
    rcases unshadowed with shown | alone
    · exact shown
    · have hidden := alone package listed keyed
      rw [isPackage] at hidden
      cases hidden

/-- The state behind a list of files, as far as it does not depend on their order: the counters, the
errors, and the modules of the files that keep their keys. -/
structure Settled (reader : ImportReader) (root : Path) (rootPackage : Option String)
    (files : List SourceFile) (state : Registration) : Prop where
  registered : Registered root rootPackage files state.registry
  counted : Counted reader root files state
  kept : OnePerKind root rootPackage files → ∀ key module,
    state.registry.modules.get? key = some module ↔
      ∃ file, Keeps root rootPackage files key file ∧ standsFor reader root key file = some module

theorem settled_start (reader : ImportReader) (root : Path) (rootPackage : Option String) :
    Settled reader root rootPackage [] (start rootPackage) where
  registered := registered_start root rootPackage
  counted := counted_start reader root rootPackage
  kept := by
    intro _ key module
    constructor
    · intro found
      cases found
    · rintro ⟨file, keeps, _⟩
      cases keeps.listed

/-- The package that a new module may have to give way to is among the files before it. -/
theorem Settled.standing_isPackage_iff (done : Settled reader root rootPackage files state)
    (apart : OnePerKind root rootPackage files) (key : String) :
    (state.registry.modules.get? key).any (·.isPackage) = true ↔
      ∃ before ∈ files, keyOf? root rootPackage before = some key ∧
        before.path.isPackageInitializer = true := by
  rw [Option.any_eq_true]
  constructor
  · rintro ⟨standing, found, package⟩
    obtain ⟨before, keeps, stands⟩ := (done.kept apart key standing).1 found
    rw [isPackage_of_standsFor stands] at package
    exact ⟨before, keeps.listed, keeps.keyed, package⟩
  · rintro ⟨before, listed, keyed, package⟩
    obtain ⟨standing, stands⟩ := exists_standsFor reader keyed
    refine ⟨standing, (done.kept apart key standing).2 ⟨before, ⟨listed, keyed, .inl package⟩, stands⟩, ?_⟩
    rw [isPackage_of_standsFor stands, package]

theorem Settled.addFile (done : Settled reader root rootPackage files state)
    (success : state.addFile reader root policy file = .ok next) :
    Settled reader root rootPackage (files ++ [file]) next where
  registered := done.registered.addFile success
  counted := done.counted.addFile success
  kept := by
    intro apart key module
    have before := done.kept apart.of_append key module
    have shadow := done.standing_isPackage_iff apart.of_append key
    rw [get?_addFile done.registered success]
    by_cases keyed : keyOf? root rootPackage file = some key
    · by_cases wins : (state.registry.modules.get? key).any (·.isPackage) = true →
          file.path.isPackageInitializer = true
      · rw [if_pos ⟨keyed, wins⟩]
        have takes : ∀ kept, Keeps root rootPackage (files ++ [file]) key kept ↔ kept = file :=
          fun kept => keeps_append_of_wins apart keyed fun earlier listed same package =>
            wins (shadow.2 ⟨earlier, listed, same, package⟩)
        simp only [takes, exists_eq_left]
      · rw [if_neg fun both => wins both.2]
        obtain ⟨standing, plain⟩ := Classical.not_imp.1 wins
        obtain ⟨package, listed, same, isPackage⟩ := shadow.1 standing
        simp only [keeps_append_of_shadowed listed same isPackage (Bool.eq_false_iff.2 plain)]
        exact before
    · rw [if_neg fun both => keyed both.1]
      simp only [keeps_append_of_ne keyed]
      exact before

theorem Settled.addFiles {before : List SourceFile}
    (done : Settled reader root rootPackage before state)
    (success : state.addFiles reader root policy files = .ok next) :
    Settled reader root rootPackage (before ++ files) next :=
  addFiles_invariant (Settled reader root rootPackage) Settled.addFile done success

/-- Files of which no two have one key are apart. -/
theorem OnePerKind.of_keys (distinct : (files.filterMap (keyOf? root rootPackage)).Nodup) :
    OnePerKind root rootPackage files := by
  have keys : (files.filterMap (kindOf? root rootPackage)).map Prod.fst =
      files.filterMap (keyOf? root rootPackage) := by
    rw [List.map_filterMap]
    congr 1
    funext file
    rw [kindOf?, Option.map_map]
    exact Option.map_id'
  rw [← keys] at distinct
  exact distinct.of_map

/-- A file that is alone under its key is registered there. -/
theorem Settled.get?_of_alone (done : Settled reader root rootPackage files state)
    (apart : OnePerKind root rootPackage files) (listed : file ∈ files)
    (keyed : keyOf? root rootPackage file = some key)
    (alone : ∀ other ∈ files, keyOf? root rootPackage other = some key → other = file) :
    state.registry.modules.get? key = standsFor reader root key file := by
  obtain ⟨module, stands⟩ := exists_standsFor reader keyed
  rw [stands, done.kept apart]
  refine ⟨file, ⟨listed, keyed, ?_⟩, stands⟩
  cases package : file.path.isPackageInitializer with
  | true => exact .inl rfl
  | false => exact .inr fun other among same => alone other among same ▸ package

/-- A file whose text can be read stands for a module with the imports in it. -/
theorem standsFor_of_read {path : Path} {text name : String} {imports : List ImportRecord}
    (named : moduleName? root (.readable path text) = some name)
    (read : reader text path name = .ok imports) (key : String) :
    standsFor reader root key (.readable path text) = some ⟨key, path, some text, imports⟩ := by
  rw [standsFor, scannedModule?, named, Option.map_some, Option.map_some, importsOf_of_read read]
  rfl

variable {first second : List SourceFile} {one two : Registration}

theorem keeps_congr (same : first.Perm second) :
    Keeps root rootPackage first key file ↔ Keeps root rootPackage second key file := by
  constructor
  · rintro ⟨listed, keyed, unshadowed⟩
    exact ⟨same.mem_iff.1 listed, keyed, unshadowed.imp_right fun plain other inside =>
      plain other (same.mem_iff.2 inside)⟩
  · rintro ⟨listed, keyed, unshadowed⟩
    exact ⟨same.mem_iff.2 listed, keyed, unshadowed.imp_right fun plain other inside =>
      plain other (same.mem_iff.1 inside)⟩

theorem OnePerKind.perm (apart : OnePerKind root rootPackage first) (same : first.Perm second) :
    OnePerKind root rootPackage second :=
  (same.filterMap (kindOf? root rootPackage)).nodup_iff.1 apart

/-- Two orders of the files leave the same registry and the same counters. -/
theorem Settled.eq_of_perm (done : Settled reader root rootPackage first one)
    (again : Settled reader root rootPackage second two)
    (apart : OnePerKind root rootPackage first) (same : first.Perm second) :
    one.registry = two.registry ∧ one.stats = two.stats := by
  have modules : one.registry.modules = two.registry.modules := by
    refine Keyed.ext_get? fun key => Option.ext fun module => ?_
    rw [done.kept apart, again.kept (apart.perm same)]
    simp only [keeps_congr same]
  have package := done.registered.package.trans again.registered.package.symm
  constructor
  · calc one.registry = ⟨one.registry.modules, one.registry.rootPackage⟩ := rfl
      _ = ⟨two.registry.modules, two.registry.rootPackage⟩ := by rw [modules, package]
  · rw [done.counted.stats, again.counted.stats, parseFaults, parseFaults]
    rw [same.countP_eq, same.countP_eq, (same.filterMap (parseFault? reader root)).length_eq]

end Registration

namespace Build

open Registration (OnePerKind parseFault? parseFaults)

variable {rootPackage : Option String} {root : Path} {first second : List SourceFile}

theorem run_skip_of_perm (reader : ImportReader) (apart : OnePerKind root rootPackage first)
    (same : first.Perm second) :
    ∃ one two, run reader root rootPackage .skip first = .ok one ∧
      run reader root rootPackage .skip second = .ok two ∧
      one.data = two.data ∧ one.errors.Perm two.errors := by
  obtain ⟨one, left⟩ :=
    Registration.exists_addFiles reader root (Registration.start rootPackage) first
  obtain ⟨two, right⟩ :=
    Registration.exists_addFiles reader root (Registration.start rootPackage) second
  have done := (Registration.settled_start reader root rootPackage).addFiles left
  have again := (Registration.settled_start reader root rootPackage).addFiles right
  rw [List.nil_append] at done again
  obtain ⟨registry, stats⟩ := done.eq_of_perm again apart same
  unfold run
  rw [left, right]
  refine ⟨_, _, rfl, rfl, ?_, ?_⟩
  · dsimp only
    rw [registry, stats]
  · change one.errors.Perm two.errors
    rw [done.counted.errors, again.counted.errors]
    exact (same.filterMap (parseFault? reader root)).map RunError.parse

/-- A build that stops at faults succeeds without any, in the other order too. -/
theorem run_abort_of_perm {reader : ImportReader} {built : Recorded BuiltGraph}
    (apart : OnePerKind root rootPackage first) (same : first.Perm second)
    (success : run reader root rootPackage .abort first = .ok built) :
    run reader root rootPackage .abort second = .ok built := by
  have faults : (parseFaults reader root first).Perm (parseFaults reader root second) :=
    same.filterMap (parseFault? reader root)
  rw [run_abort] at success ⊢
  cases clean : parseFaults reader root first with
  | cons fault others =>
    rw [clean] at success
    cases success
  | nil =>
    rw [clean] at success faults
    rw [faults.nil_eq.symm]
    dsimp only at success ⊢
    obtain ⟨one, two, left, right, data, errors⟩ := run_skip_of_perm reader apart same
    obtain rfl : one = built := Except.ok.inj (left.symm.trans success)
    obtain ⟨other, again, recorded, _⟩ := run_skip_spec reader root rootPackage first
    obtain rfl : one = other := Except.ok.inj (left.symm.trans again)
    rw [clean, List.map_nil] at recorded
    rw [recorded] at errors
    rw [right]
    refine congrArg Except.ok ?_
    calc two = ⟨two.data, two.errors⟩ := rfl
      _ = ⟨one.data, one.errors⟩ := by rw [data, recorded, errors.nil_eq]

/-- Where no two packages and no two other modules share a key, the order of the files does not matter. A
build that passes over texts which do not parse succeeds with the same graph, the same counters and the
same errors in some order. A build that stops at them succeeds in both orders or in none, with equal
results. -/
theorem run_order_independent (reader : ImportReader) (apart : OnePerKind root rootPackage first)
    (same : first.Perm second) :
    (∃ one two, run reader root rootPackage .skip first = .ok one ∧
      run reader root rootPackage .skip second = .ok two ∧
      one.data = two.data ∧ one.errors.Perm two.errors) ∧
    ∀ built, run reader root rootPackage .abort first = .ok built ↔
      run reader root rootPackage .abort second = .ok built :=
  ⟨run_skip_of_perm reader apart same, fun _ =>
    ⟨run_abort_of_perm apart same, run_abort_of_perm (apart.perm same) same.symm⟩⟩

/-- A package and a module file of its name, with a module below and one that does not parse. -/
def twinFiles : List SourceFile :=
  [.readable ⟨"shop/crm.py"⟩ "import os\n", .readable ⟨"shop/bad.py"⟩ "def (:\n",
    .readable ⟨"shop/crm/__init__.py"⟩ "from .mail import Mail\n",
    .readable ⟨"shop/crm/mail.py"⟩ ""]

theorem run_order_independent_twins :
    OnePerKind ⟨"shop"⟩ none twinFiles ∧
      ∃ one two, run SourceText.readImports ⟨"shop"⟩ none .skip twinFiles = .ok one ∧
        run SourceText.readImports ⟨"shop"⟩ none .skip twinFiles.reverse = .ok two ∧
        one.data = two.data ∧ one.errors.Perm two.errors := by
  have apart : OnePerKind ⟨"shop"⟩ none twinFiles := by decide
  exact ⟨apart, (run_order_independent SourceText.readImports apart
    (List.reverse_perm twinFiles).symm).1⟩

end Build

end LayerAtlas
