import LayerAtlas.Proofs.Retention

/-!
# Stopping at a text that does not parse, or passing over it

A build that passes over texts which do not parse records each of them and counts it. A build that stops
at the first of them ends with the first that the other one records, and without any both are the same
build. So one account of the files, which knows no policy, settles both.
-/
namespace LayerAtlas

namespace Registration

variable {reader : ImportReader} {root : Path} {policy : ParsePolicy} {state next : Registration}
  {file : SourceFile} {files : List SourceFile}

theorem extension_of_moduleName {name : String} (named : moduleName? root file = some name) :
    file.path.extension? = some (.ofString "py") := by
  unfold moduleName? at named
  split at named
  · assumption
  · cases named

/-- Why the text of a module does not parse; none for any other file. -/
def parseFault? (reader : ImportReader) (root : Path) (file : SourceFile) : Option ParseError :=
  (moduleName? root file).bind fun name =>
    match file.content, file.isReadable with
    | some text, true =>
      match reader text file.path name with
      | .ok _ => none
      | .error fault => some fault
    | _, _ => none

/-- All texts that do not parse, in the order of their files. -/
def parseFaults (reader : ImportReader) (root : Path) (files : List SourceFile) : List ParseError :=
  files.filterMap (parseFault? reader root)

/-- A module whose text is not there or could not be read. -/
def isUnreadableModule (root : Path) (file : SourceFile) : Bool :=
  (moduleName? root file).isSome && !file.isReadable

theorem errors_add (state : Registration) (module : ScannedModule) :
    (state.add module).errors = state.errors := by
  unfold add
  split
  · split <;> rfl
  · rfl

/-- What adding a module makes of the registry does not depend on counters and errors. -/
theorem registry_add_congr {first second : Registration}
    (same : first.registry = second.registry) (module : ScannedModule) :
    (first.add module).registry = (second.add module).registry := by
  unfold add
  rw [same]
  split
  · split
    · exact same
    · rfl
  · rfl

/-- The imports that a module is registered with; none where they cannot be had from its text. -/
def importsOf (reader : ImportReader) (file : SourceFile) (name : String) : List ImportRecord :=
  match file.content, file.isReadable with
  | some text, true =>
    match reader text file.path name with
    | .ok imports => imports
    | .error _ => []
  | _, _ => []

theorem importsOf_of_read {path : Path} {text name : String} {imports : List ImportRecord}
    (read : reader text path name = .ok imports) :
    importsOf reader (.readable path text) name = imports := by
  simp [importsOf, SourceFile.readable, SourceFile.isReadable, read]

theorem parseFault_of_read {path : Path} {text name : String} {imports : List ImportRecord}
    (named : moduleName? root (.readable path text) = some name)
    (read : reader text path name = .ok imports) :
    parseFault? reader root (.readable path text) = none := by
  rw [parseFault?, named, Option.bind_some]
  simp [SourceFile.readable, SourceFile.isReadable, read]

/-- Reading a module gives its imports, counts what is wrong with it and records a fault of its text. -/
theorem readImports_spec {name : String} {imports : List ImportRecord}
    (named : moduleName? root file = some name)
    (success : state.readImports reader policy file name = .ok (next, imports)) :
    imports = importsOf reader file name ∧
      next.errors = state.errors ++ (parseFault? reader root file).toList.map .parse ∧
      next.stats = { state.stats with
        unreadable := state.stats.unreadable + if isUnreadableModule root file then 1 else 0
        unparsable := state.stats.unparsable + (parseFault? reader root file).toList.length } := by
  revert success
  unfold readImports importsOf parseFault? isUnreadableModule
  rw [named, Option.bind_some]
  cases content : file.content with
  | none =>
    have unreadable : file.isReadable = false := by simp [SourceFile.isReadable, content]
    intro success
    cases success
    simp [unreadable]
  | some text =>
    cases readable : file.isReadable with
    | false =>
      intro success
      cases success
      simp
    | true =>
      dsimp only
      cases reader text file.path name with
      | ok records =>
        intro success
        cases success
        simp
      | error fault =>
        intro success
        cases policy with
        | abort => cases success
        | skip =>
          cases success
          simp

/-- What a file is registered as; none when it is no module below the root. -/
def scannedModule? (reader : ImportReader) (root : Path) (file : SourceFile) :
    Option ScannedModule :=
  (moduleName? root file).map fun name =>
    ⟨name, file.path, file.content, importsOf reader file name⟩

theorem addFile_spec (success : state.addFile reader root policy file = .ok next) :
    next.registry =
        ((scannedModule? reader root file).map fun module => (state.add module).registry).getD
          state.registry ∧
      next.errors = state.errors ++ (parseFault? reader root file).toList.map .parse ∧
      next.stats = { state.stats with
        skipped := state.stats.skipped + if (moduleName? root file).isNone then 1 else 0
        unreadable := state.stats.unreadable + if isUnreadableModule root file then 1 else 0
        unparsable := state.stats.unparsable + (parseFault? reader root file).toList.length } := by
  rcases addFile_cases success with ⟨nameless, rfl⟩ | ⟨name, read, imports, named, reading, rfl⟩
  · simp [scannedModule?, parseFault?, isUnreadableModule, nameless, skip]
  · obtain ⟨rfl, errors, stats⟩ := readImports_spec named reading
    have same : read.registry = state.registry := (readImports_frame reading).1
    refine ⟨?_, by rw [errors_add, errors], by simp [stats_add, stats, named]⟩
    rw [scannedModule?, named, Option.map_some, Option.map_some, Option.getD_some]
    exact registry_add_congr same _

/-- One more fault is recorded where there is one, and each file that gives no imports is counted under
what is wrong with it. -/
structure Counted (reader : ImportReader) (root : Path) (files : List SourceFile)
    (state : Registration) : Prop where
  errors : state.errors = (parseFaults reader root files).map .parse
  stats : state.stats = {
    skipped := files.countP fun file => (moduleName? root file).isNone
    unreadable := files.countP (isUnreadableModule root)
    unparsable := (parseFaults reader root files).length }

theorem counted_start (reader : ImportReader) (root : Path) (rootPackage : Option String) :
    Counted reader root [] (start rootPackage) := ⟨rfl, rfl⟩

theorem parseFaults_append_singleton (reader : ImportReader) (root : Path)
    (files : List SourceFile) (file : SourceFile) :
    parseFaults reader root (files ++ [file]) =
      parseFaults reader root files ++ (parseFault? reader root file).toList := by
  rw [parseFaults, List.filterMap_append]
  rfl

theorem Counted.addFile (done : Counted reader root files state)
    (success : state.addFile reader root policy file = .ok next) :
    Counted reader root (files ++ [file]) next := by
  obtain ⟨_, errors, stats⟩ := addFile_spec success
  constructor
  · rw [errors, done.errors, parseFaults_append_singleton, List.map_append]
  · rw [stats, done.stats, parseFaults_append_singleton, List.length_append]
    simp only [List.countP_append, List.countP_singleton]

theorem Counted.addFiles {before : List SourceFile} (done : Counted reader root before state)
    (success : state.addFiles reader root policy files = .ok next) :
    Counted reader root (before ++ files) next :=
  addFiles_invariant (Counted reader root) Counted.addFile done success

/-- A file is passed under either policy alike, unless its text does not parse. -/
theorem addFile_abort (reader : ImportReader) (root : Path) (state : Registration)
    (file : SourceFile) :
    state.addFile reader root .abort file =
      match parseFault? reader root file with
      | none => state.addFile reader root .skip file
      | some fault => .error (.parse fault) := by
  rw [addFile_eq, addFile_eq]
  unfold parseFault? readImports
  cases named : moduleName? root file with
  | none => rfl
  | some name =>
    dsimp only [Option.bind_some]
    cases file.content with
    | none => rfl
    | some text =>
      cases file.isReadable with
      | false => rfl
      | true =>
        dsimp only
        cases reader text file.path name <;> rfl

/-- The run that stops is the other one up to the first text that does not parse. -/
theorem addFiles_abort (reader : ImportReader) (root : Path) (state : Registration)
    (files : List SourceFile) :
    state.addFiles reader root .abort files =
      match parseFaults reader root files with
      | [] => state.addFiles reader root .skip files
      | fault :: _ => .error (.parse fault) := by
  induction files generalizing state with
  | nil => rfl
  | cons head tail ih =>
    unfold Registration.addFiles at ih ⊢
    rw [List.foldlM_cons, List.foldlM_cons, addFile_abort, parseFaults, List.filterMap_cons]
    cases parseFault? reader root head with
    | some fault => rfl
    | none =>
      obtain ⟨middle, passed⟩ := exists_addFile reader root state head
      dsimp only
      rw [passed]
      exact ih middle

end Registration

/-- The last step of linking, at which a node found just before is marked linked, goes forward. -/
theorem Registry.advance_linkedNode (registry : Registry) (module : ScannedModule) :
    (((registry.moduleTargets module).filterMap id).foldl Node.addImport
      (Node.discovered module.name module.path)).advance .linked =
        .ok (registry.linkedNode module) := by
  obtain ⟨imports, equal, _, _⟩ :=
    Node.foldl_addImport (Node.discovered module.name module.path)
      ((registry.moduleTargets module).filterMap id)
  unfold linkedNode
  dsimp only
  rw [equal]
  rfl

namespace Build

open Registration (parseFaults)

variable (reader : ImportReader) (root : Path) (rootPackage : Option String)
  (files : List SourceFile)

/-- Passing over texts that do not parse, a build succeeds and records all of them. -/
theorem run_skip_spec :
    ∃ built, run reader root rootPackage .skip files = .ok built ∧
      built.errors = (parseFaults reader root files).map .parse ∧
      built.data.stats.unparsable = (parseFaults reader root files).length := by
  obtain ⟨state, registered⟩ :=
    Registration.exists_addFiles reader root (Registration.start rootPackage) files
  have counted := (Registration.counted_start reader root rootPackage).addFiles registered
  rw [List.nil_append] at counted
  have success : ∃ built, run reader root rootPackage .skip files = .ok built := by
    unfold run
    rw [registered]
    exact ⟨_, rfl⟩
  obtain ⟨built, success⟩ := success
  obtain ⟨other, again, _, _, stats, errors⟩ := run_eq_ok success
  obtain rfl : state = other := Except.ok.inj (registered.symm.trans again)
  exact ⟨built, success, errors.trans counted.errors, by rw [stats, counted.stats]⟩

/-- The build that stops is the other one unless a text does not parse. -/
theorem run_abort :
    run reader root rootPackage .abort files =
      match parseFaults reader root files with
      | [] => run reader root rootPackage .skip files
      | fault :: _ => .error (.parse fault) := by
  unfold run
  rw [Registration.addFiles_abort]
  cases parseFaults reader root files <;> rfl

/-- A build that passes over texts which do not parse always succeeds; it counts as many of them as it
records. A build that stops at them ends with the first one recorded, and where none is recorded, it
gives the same graph and the same counters. Neither of them fails when it marks a node as linked. -/
theorem strict_follows_tolerant :
    ∃ built, tolerant reader root rootPackage files = .ok built ∧
      built.errors.length = built.data.stats.unparsable ∧
      (built.errors = [] → strict reader root rootPackage files = .ok built.data) ∧
      (∀ first others, built.errors = first :: others →
        strict reader root rootPackage files = .error first) ∧
      ∀ registry : Registry, ∀ module,
        (((registry.moduleTargets module).filterMap id).foldl Node.addImport
          (Node.discovered module.name module.path)).advance .linked =
            .ok (registry.linkedNode module) := by
  obtain ⟨built, success, errors, unparsable⟩ := run_skip_spec reader root rootPackage files
  have stopping := run_abort reader root rootPackage files
  refine ⟨built, success, ?_, ?_, ?_, Registry.advance_linkedNode⟩
  · rw [errors, unparsable, List.length_map]
  · intro clean
    have faultless : parseFaults reader root files = [] :=
      List.map_eq_nil_iff.1 (errors.symm.trans clean)
    rw [faultless] at stopping
    unfold strict
    rw [stopping, success]
    rfl
  · intro first others recorded
    obtain ⟨fault, rest, faulty, rfl, _⟩ := List.map_eq_cons_iff.1 (errors.symm.trans recorded)
    rw [faulty] at stopping
    unfold strict
    rw [stopping]
    rfl

/-- Two modules of which the first imports the second, and the second does not parse. -/
def faultyFiles : List SourceFile :=
  [.readable ⟨"shop/use.py"⟩ "import crm\n", .readable ⟨"shop/crm.py"⟩ "def (:\n",
    .unreadable ⟨"shop/blob.py"⟩ "read failed"]

theorem strict_follows_tolerant_faulty :
    ∃ built fault, tolerant SourceText.readImports ⟨"shop"⟩ none faultyFiles = .ok built ∧
      built.errors = [fault] ∧ built.data.stats.unparsable = 1 ∧
      strict SourceText.readImports ⟨"shop"⟩ none faultyFiles = .error fault := by
  obtain ⟨built, success, counted, _, stops, _⟩ :=
    strict_follows_tolerant SourceText.readImports ⟨"shop"⟩ none faultyFiles
  have outcome : ((tolerant SourceText.readImports ⟨"shop"⟩ none faultyFiles).toOption.map
      fun built => built.errors.length) = some 1 := by decide +kernel
  rw [success] at outcome
  have one : built.errors.length = 1 := Option.some.inj outcome
  obtain ⟨fault, recorded⟩ := List.length_eq_one_iff.1 one
  exact ⟨built, fault, success, recorded, counted.symm.trans one, stops fault [] recorded⟩

end Build

end LayerAtlas
