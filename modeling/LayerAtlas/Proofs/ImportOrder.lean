import LayerAtlas.SourceText.Tree
import Mathlib.Data.List.Induction
import Mathlib.Data.List.Nodup
import Mathlib.Logic.Function.Iterate

/-!
# Import records in the order of the text

The records of a tree are found by a loop over a stack. Each step takes the last statement off the stack
and records its imports, or puts its parts on the stack, the first one last. What is left on the stack is
always the part of the text behind what has been visited, so the loop finds what a traversal of the tree
from left to right finds, in the same order, and lines never decrease.
-/
namespace LayerAtlas.SourceText

/-! Trees without errors. -/

mutual

/-- The statement stands in these rows, its parts one behind the other, and no name in it is empty. -/
def Statement.StandsIn (first last : Nat) : Statement → Prop
  | .plainImport row modules => (first ≤ row ∧ row ≤ last) ∧ "" ∉ modules
  | .fromImport row _ selection => (first ≤ row ∧ row ≤ last) ∧ "" ∉ selection.names
  | .futureImport row => first ≤ row ∧ row ≤ last
  | .other parts => Statement.StandIn first last parts

/-- The statements stand in these rows one behind the other. -/
def Statement.StandIn (first last : Nat) : List Statement → Prop
  | [] => first ≤ last
  | statement :: later =>
    ∃ middle, Statement.StandsIn first middle statement ∧ Statement.StandIn middle last later

end

namespace Statement

mutual

theorem StandsIn.mono {first last before behind : Nat} (up : before ≤ first) (down : last ≤ behind) :
    ∀ {statement : Statement}, statement.StandsIn first last → statement.StandsIn before behind
  | .plainImport _ _, ⟨⟨above, below⟩, named⟩ =>
    ⟨⟨Nat.le_trans up above, Nat.le_trans below down⟩, named⟩
  | .fromImport _ _ _, ⟨⟨above, below⟩, named⟩ =>
    ⟨⟨Nat.le_trans up above, Nat.le_trans below down⟩, named⟩
  | .futureImport _, ⟨above, below⟩ => ⟨Nat.le_trans up above, Nat.le_trans below down⟩
  | .other _, stand => StandIn.mono up down stand

theorem StandIn.mono {first last before behind : Nat} (up : before ≤ first) (down : last ≤ behind) :
    ∀ {statements : List Statement}, StandIn first last statements → StandIn before behind statements
  | [], within => Nat.le_trans up (Nat.le_trans within down)
  | _ :: _, ⟨middle, stands, stand⟩ =>
    ⟨middle, StandsIn.mono up (Nat.le_refl _) stands, StandIn.mono (Nat.le_refl _) down stand⟩

end

mutual

theorem StandsIn.le {first last : Nat} :
    ∀ {statement : Statement}, statement.StandsIn first last → first ≤ last
  | .plainImport _ _, ⟨⟨above, below⟩, _⟩ => Nat.le_trans above below
  | .fromImport _ _ _, ⟨⟨above, below⟩, _⟩ => Nat.le_trans above below
  | .futureImport _, ⟨above, below⟩ => Nat.le_trans above below
  | .other _, stand => StandIn.le stand

theorem StandIn.le {first last : Nat} :
    ∀ {statements : List Statement}, StandIn first last statements → first ≤ last
  | [], within => within
  | _ :: _, ⟨_, stands, stand⟩ => Nat.le_trans (StandsIn.le stands) (StandIn.le stand)

end

variable {first middle last : Nat} {statement : Statement} {statements later : List Statement}

theorem StandIn.append (here : StandIn first middle statements) (there : StandIn middle last later) :
    StandIn first last (statements ++ later) := by
  induction statements generalizing first with
  | nil => exact there.mono here (Nat.le_refl _)
  | cons statement statements ih =>
    obtain ⟨row, stands, stand⟩ := here
    exact ⟨row, stands, ih stand⟩

theorem StandsIn.single (stands : statement.StandsIn first last) : StandIn first last [statement] :=
  ⟨last, stands, Nat.le_refl _⟩

/-! Parts. -/

/-- What a visit leaves to be visited. -/
def parts : Statement → List Statement
  | .other parts => parts
  | .plainImport _ _ | .fromImport _ _ _ | .futureImport _ => []

theorem StandsIn.parts (stands : statement.StandsIn first last) :
    StandIn first last statement.parts := by
  cases statement with
  | other parts => exact stands
  | _ => exact stands.le

theorem sizeAll_append : sizeAll (statements ++ later) = sizeAll statements + sizeAll later := by
  induction statements with
  | nil => exact (Nat.zero_add _).symm
  | cons statement statements ih => rw [List.cons_append, sizeAll, ih, sizeAll, Nat.add_assoc]

theorem sizeAll_cons (statement : Statement) (later : List Statement) :
    sizeAll (statement :: later) = sizeAll (statement.parts ++ later) + 1 := by
  rw [sizeAll, sizeAll_append]
  cases statement <;> simp only [size, parts, sizeAll] <;> omega

mutual

/-- The import statements of a statement in the order of the text. -/
def imports : Statement → List Statement
  | .other parts => importsAll parts
  | .plainImport row modules => [.plainImport row modules]
  | .fromImport row origin selection => [.fromImport row origin selection]
  | .futureImport row => [.futureImport row]

def importsAll : List Statement → List Statement
  | [] => []
  | statement :: later => imports statement ++ importsAll later

end

end Statement

namespace Importer

variable (importer : Importer) {statements later : List Statement}

theorem collectAll_append :
    importer.collectAll (statements ++ later) =
      importer.collectAll statements ++ importer.collectAll later := by
  induction statements with
  | nil => rfl
  | cons statement statements ih =>
    rw [List.cons_append, collectAll, ih, collectAll, List.append_assoc]

theorem collectAll_cons (statement : Statement) (later : List Statement) :
    importer.collectAll (statement :: later) =
      importer.records statement ++ importer.collectAll (statement.parts ++ later) := by
  rw [collectAll, collectAll_append]
  cases statement <;> rfl

/-- The walk over a stack with its top in front. -/
theorem walk_eq_collectAll {steps : Nat} {stack : List Statement}
    (enough : Statement.sizeAll stack ≤ steps) : importer.walk steps stack = importer.collectAll stack := by
  induction steps generalizing stack with
  | zero =>
    cases stack with
    | nil => rfl
    | cons statement stack =>
      rw [Statement.sizeAll_cons] at enough
      omega
  | succ steps ih =>
    cases stack with
    | nil => rfl
    | cons statement stack =>
      rw [Statement.sizeAll_cons] at enough
      have behind := ih (Nat.le_of_succ_le_succ enough)
      rw [collectAll_cons, ← behind]
      cases statement <;> rfl

theorem visit_eq_collectAll (statements : List Statement) :
    importer.visit statements = importer.collectAll statements :=
  importer.walk_eq_collectAll (Nat.le_refl _)

mutual

theorem collect_eq_flatMap (importer : Importer) : ∀ statement : Statement,
    importer.collect statement = statement.imports.flatMap importer.records
  | .other parts => collectAll_eq_flatMap importer parts
  | .plainImport _ _ => (List.flatMap_singleton _ _).symm
  | .fromImport _ _ _ => (List.flatMap_singleton _ _).symm
  | .futureImport _ => rfl

theorem collectAll_eq_flatMap (importer : Importer) : ∀ statements : List Statement,
    importer.collectAll statements = (Statement.importsAll statements).flatMap importer.records
  | [] => rfl
  | statement :: later => by
    rw [collectAll, Statement.importsAll, List.flatMap_append, collect_eq_flatMap importer statement,
      collectAll_eq_flatMap importer later]

end

end Importer

/-! Names. -/

/-- Which names are kept of a list: each of them once, in the order of first mentions. -/
structure FirstMentions (names kept : List String) : Prop where
  once : kept.Nodup
  same : ∀ name, name ∈ kept ↔ name ∈ names
  ordered : kept.Pairwise fun earlier later => names.idxOf earlier < names.idxOf later

theorem FirstMentions.nil : FirstMentions [] [] where
  once := .nil
  same _ := Iff.rfl
  ordered := .nil

variable {names kept : List String} {name : String}

theorem FirstMentions.idxOf_append (mentions : FirstMentions names kept) {other : List String} :
    kept.Pairwise fun earlier later =>
      (names ++ other).idxOf earlier < (names ++ other).idxOf later := by
  refine mentions.ordered.imp_of_mem fun {earlier later} one two less => ?_
  rwa [List.idxOf_append_of_mem ((mentions.same earlier).mp one),
    List.idxOf_append_of_mem ((mentions.same later).mp two)]

/-- A name that has been mentioned. -/
theorem FirstMentions.again (mentions : FirstMentions names kept) (listed : name ∈ kept) :
    FirstMentions (names ++ [name]) kept where
  once := mentions.once
  same other := by
    rw [mentions.same, List.mem_append, List.mem_singleton]
    refine ⟨.inl, ?_⟩
    rintro (listed | rfl)
    · exact listed
    · exact (mentions.same other).mp ‹_›
  ordered := mentions.idxOf_append

/-- A name that has not. -/
theorem FirstMentions.first (mentions : FirstMentions names kept) (fresh : name ∉ kept) :
    FirstMentions (names ++ [name]) (kept ++ [name]) where
  once := List.nodup_append.mpr ⟨mentions.once, List.nodup_singleton name, fun one listed two last =>
    fun same => fresh (List.mem_singleton.mp last ▸ same ▸ listed)⟩
  same other := by rw [List.mem_append, List.mem_append, mentions.same]
  ordered := by
    have absent : name ∉ names := mt (mentions.same name).mpr fresh
    refine List.pairwise_append.mpr ⟨mentions.idxOf_append, List.pairwise_singleton _ _, ?_⟩
    intro earlier listed later last
    obtain rfl := List.mem_singleton.mp last
    have inside := (mentions.same earlier).mp listed
    have before := List.idxOf_lt_length_of_mem inside
    rw [List.idxOf_append_of_mem inside, List.idxOf_append_of_notMem absent]
    omega

/-- Adding names to a record changes nothing but its names, which are the first mentions. -/
theorem exists_addNames {record : ImportRecord} (none : record.names = []) (names : List String) :
    ∃ kept, FirstMentions names kept ∧ record.addNames names = { record with names := kept } := by
  induction names using List.reverseRecOn with
  | nil =>
    obtain ⟨module, line, isRelative, _⟩ := record
    obtain rfl := none
    exact ⟨[], .nil, rfl⟩
  | append_singleton names name ih =>
    obtain ⟨kept, mentions, added⟩ := ih
    have step : record.addNames (names ++ [name]) =
        ({ record with names := kept } : ImportRecord).addName name := by
      rw [← added, ImportRecord.addNames, List.foldl_append]
      rfl
    rw [step]
    unfold ImportRecord.addName
    by_cases listed : name ∈ kept
    · exact ⟨kept, mentions.again listed, if_pos (List.contains_iff_mem.mpr listed)⟩
    · exact ⟨kept ++ [name], mentions.first listed, if_neg (mt List.contains_iff_mem.mp listed)⟩

theorem Importer.exists_fromRecord (importer : Importer) (row : Nat) (origin : ImportOrigin)
    (selection : Selection) :
    ∃ kept, FirstMentions selection.names kept ∧ importer.fromRecord row origin selection =
      { importer.fromRecord row origin (.listed []) with names := kept } := by
  have none : (importer.fromRecord row origin (.listed [])).names = [] := by cases origin <;> rfl
  exact exists_addNames none selection.names

theorem Importer.line_fromRecord (importer : Importer) (row : Nat) (origin : ImportOrigin)
    (selection : Selection) : (importer.fromRecord row origin selection).line = row + 1 := by
  obtain ⟨kept, _, same⟩ := importer.exists_fromRecord row origin selection
  rw [same]
  cases origin <;> rfl

/-! Lines. -/

/-- The records stand in these lines, and no line is in front of an earlier one. -/
structure InLines (first last : Nat) (records : List ImportRecord) : Prop where
  le : first ≤ last
  within : ∀ record ∈ records, first ≤ record.line ∧ record.line ≤ last
  ordered : records.Pairwise fun earlier later => earlier.line ≤ later.line

namespace InLines

variable {first middle last row : Nat} {records later : List ImportRecord}

theorem nil (le : first ≤ last) : InLines first last [] where
  le := le
  within _ listed := absurd listed List.not_mem_nil
  ordered := .nil

theorem append (here : InLines first middle records) (there : InLines middle last later) :
    InLines first last (records ++ later) where
  le := Nat.le_trans here.le there.le
  within := by
    intro record listed
    rcases List.mem_append.mp listed with listed | listed
    · have within := here.within record listed
      exact ⟨within.1, Nat.le_trans within.2 there.le⟩
    · have within := there.within record listed
      exact ⟨Nat.le_trans here.le within.1, within.2⟩
  ordered := by
    refine List.pairwise_append.mpr ⟨here.ordered, there.ordered, fun one listed two behind => ?_⟩
    exact Nat.le_trans (here.within one listed).2 (there.within two behind).1

/-- The records of one statement share its line. -/
theorem same (above : first ≤ row) (below : row ≤ last)
    (lines : ∀ record ∈ records, record.line = row) : InLines first last records where
  le := Nat.le_trans above below
  within := by
    intro record listed
    rw [lines record listed]
    exact ⟨above, below⟩
  ordered := by
    refine List.pairwise_of_forall_mem_list fun one listed two behind => ?_
    exact Nat.le_of_eq ((lines one listed).trans (lines two behind).symm)

end InLines

namespace Importer

mutual

theorem inLines_collect (importer : Importer) {first last : Nat} : ∀ {statement : Statement},
    statement.StandsIn first last → InLines (first + 1) (last + 1) (importer.collect statement)
  | .other _, stand => inLines_collectAll importer stand
  | .plainImport row modules, ⟨⟨above, below⟩, _⟩ => by
    refine .same (Nat.succ_le_succ above) (Nat.succ_le_succ below) fun record listed => ?_
    obtain ⟨module, _, rfl⟩ := List.mem_map.mp listed
    rfl
  | .fromImport row origin selection, ⟨⟨above, below⟩, _⟩ => by
    refine .same (Nat.succ_le_succ above) (Nat.succ_le_succ below) fun record listed => ?_
    obtain rfl := List.mem_singleton.mp listed
    exact importer.line_fromRecord row origin selection
  | .futureImport _, stands => .nil (Nat.succ_le_succ (Nat.le_trans stands.1 stands.2))

theorem inLines_collectAll (importer : Importer) {first last : Nat} : ∀ {statements : List Statement},
    Statement.StandIn first last statements →
      InLines (first + 1) (last + 1) (importer.collectAll statements)
  | [], within => .nil (Nat.succ_le_succ within)
  | _ :: _, ⟨_, stands, stand⟩ =>
    (inLines_collect importer stands).append (inLines_collectAll importer stand)

end

end Importer

/-! The loop. -/

/-- Where the loop over a tree has come to. -/
structure Walk where
  /-- The statements still to be visited, the next one last. -/
  stack : Array Statement
  found : Array ImportRecord

def Walk.start (statements : List Statement) : Walk :=
  ⟨#[.other statements], #[]⟩

/-- Adds the record of a module in a plain import, unless its name is empty. -/
def addModule (row : Nat) (found : Array ImportRecord) (module : String) : Array ImportRecord :=
  if module = "" then found else found.push (.whole module (row + 1) false)

/-- Adds a listed name to a record, unless it is empty. -/
def addListed (record : ImportRecord) (name : String) : ImportRecord :=
  if name = "" then record else record.addName name

namespace Importer

/-- The record of a `from` import: one without names, to which the listed ones are added and then the one
that stands for every name. -/
def build (importer : Importer) (row : Nat) (origin : ImportOrigin) (selection : Selection) :
    ImportRecord :=
  let record := importer.fromRecord row origin (.listed [])
  match selection with
  | .listed names => names.foldl addListed record
  | .everything => record.addName ImportRecord.wildcard

/-- One round of the loop. -/
def step (importer : Importer) (walk : Walk) : Walk :=
  match walk.stack.back? with
  | none => walk
  | some statement =>
    let stack := walk.stack.pop
    match statement with
    | .plainImport row modules => ⟨stack, modules.foldl (addModule row) walk.found⟩
    | .fromImport row origin selection => ⟨stack, walk.found.push (importer.build row origin selection)⟩
    | .futureImport _ => ⟨stack, walk.found⟩
    | .other parts => ⟨stack ++ parts.reverse.toArray, walk.found⟩

end Importer

theorem foldl_addModule (row : Nat) {modules : List String} (named : "" ∉ modules)
    (found : List ImportRecord) :
    modules.foldl (addModule row) found.toArray =
      (found ++ modules.map fun module => ImportRecord.whole module (row + 1) false).toArray := by
  induction modules generalizing found with
  | nil => rw [List.foldl_nil, List.map_nil, List.append_nil]
  | cons module modules ih =>
    have later : "" ∉ modules := fun listed => named (List.mem_cons_of_mem module listed)
    have here : module ≠ "" := fun empty => named (empty ▸ List.mem_cons_self)
    rw [List.foldl_cons, addModule, if_neg here, List.push_toArray, ih later, List.map_cons,
      List.append_assoc, List.singleton_append]

theorem foldl_addListed {names : List String} (named : "" ∉ names) (record : ImportRecord) :
    names.foldl addListed record = record.addNames names := by
  induction names generalizing record with
  | nil => rfl
  | cons name names ih =>
    have later : "" ∉ names := fun listed => named (List.mem_cons_of_mem name listed)
    have here : name ≠ "" := fun empty => named (empty ▸ List.mem_cons_self)
    rw [List.foldl_cons, addListed, if_neg here, ih later]
    rfl

namespace Importer

variable (importer : Importer) {first last : Nat} {statements : List Statement}

theorem build_eq_fromRecord (row : Nat) (origin : ImportOrigin) {selection : Selection}
    (named : "" ∉ selection.names) :
    importer.build row origin selection = importer.fromRecord row origin selection := by
  cases selection with
  | everything => rfl
  | listed names => exact foldl_addListed named _

end Importer

/-- The loop with these statements left and these records found. -/
def Walk.of (left : List Statement) (found : List ImportRecord) : Walk :=
  ⟨left.reverse.toArray, found.toArray⟩

namespace Importer

variable (importer : Importer) {first last : Nat} {left : List Statement} {statement : Statement}

theorem step_nil (found : List ImportRecord) : importer.step (.of [] found) = .of [] found := rfl

/-- A round visits the next statement: its records are found, and its parts are left in its place. -/
theorem step_cons (stands : statement.StandsIn first last) (left : List Statement)
    (found : List ImportRecord) :
    importer.step (.of (statement :: left) found) =
      .of (statement.parts ++ left) (found ++ importer.records statement) := by
  have top : (Walk.of (statement :: left) found).stack.back? = some statement := by
    simp [Walk.of]
  have rest : (Walk.of (statement :: left) found).stack.pop = left.reverse.toArray := by
    simp [Walk.of]
  unfold step
  rw [top, rest]
  cases statement with
  | plainImport row modules => exact congrArg (Walk.mk _) (foldl_addModule row stands.2 found)
  | fromImport row origin selection =>
    have built := importer.build_eq_fromRecord row origin stands.2
    simp [Walk.of, built, Statement.parts, records]
  | futureImport row => simp [Walk.of, Statement.parts, records]
  | other parts => simp [Walk.of, Statement.parts, records]

/-- As many rounds as there are statements left are enough to find all their records. -/
theorem step_iterate (stand : Statement.StandIn first last left) {steps : Nat}
    (enough : Statement.sizeAll left ≤ steps) (found : List ImportRecord) :
    importer.step^[steps] (.of left found) = .of [] (found ++ importer.collectAll left) := by
  induction steps generalizing left found with
  | zero =>
    cases left with
    | nil => exact congrArg (Walk.of []) (List.append_nil found).symm
    | cons statement left =>
      rw [Statement.sizeAll_cons] at enough
      omega
  | succ steps ih =>
    rw [Function.iterate_succ_apply]
    cases left with
    | nil =>
      rw [importer.step_nil]
      exact ih stand (Nat.zero_le steps) found
    | cons statement left =>
      obtain ⟨middle, stands, later⟩ := stand
      rw [Statement.sizeAll_cons] at enough
      rw [importer.step_cons stands, ih (stands.parts.append later) (Nat.le_of_succ_le_succ enough),
        List.append_assoc, ← collectAll_cons]

end Importer

/-! What each import has. -/

/-- The records that an import statement has. -/
inductive Importer.Yields (importer : Importer) : Statement → List ImportRecord → Prop
  | plain (row : Nat) (modules : List String) :
    Yields importer (.plainImport row modules) (modules.map fun module => ⟨module, row + 1, false, []⟩)
  | absolute (row : Nat) (module : String) {selection : Selection} {kept : List String}
      (mentions : FirstMentions selection.names kept) :
    Yields importer (.fromImport row (.absolute module) selection) [⟨module, row + 1, false, kept⟩]
  | relative (row level : Nat) (suffix : String) {selection : Selection} {kept : List String}
      (mentions : FirstMentions selection.names kept) :
    Yields importer (.fromImport row (.relative level suffix) selection)
      [⟨Dotted.anchor importer.name level importer.isPackage suffix, row + 1, true, kept⟩]
  | future (row : Nat) : Yields importer (.futureImport row) []

theorem Importer.yields_fromImport (importer : Importer) (row : Nat) (origin : ImportOrigin)
    (selection : Selection) : importer.Yields (.fromImport row origin selection)
      (importer.records (.fromImport row origin selection)) := by
  obtain ⟨kept, mentions, same⟩ := importer.exists_fromRecord row origin selection
  rw [records, same]
  cases origin with
  | absolute module => exact .absolute row module mentions
  | relative level suffix => exact .relative row level suffix mentions

mutual

theorem Importer.yields_of_mem_imports (importer : Importer) : ∀ {statement other : Statement},
    other ∈ statement.imports → importer.Yields other (importer.records other)
  | .other _, _, listed => yields_of_mem_importsAll importer listed
  | .plainImport row modules, _, listed => List.mem_singleton.mp listed ▸ .plain row modules
  | .fromImport row origin selection, _, listed =>
    List.mem_singleton.mp listed ▸ importer.yields_fromImport row origin selection
  | .futureImport row, _, listed => List.mem_singleton.mp listed ▸ .future row

theorem Importer.yields_of_mem_importsAll (importer : Importer) :
    ∀ {statements : List Statement} {other : Statement},
      other ∈ Statement.importsAll statements → importer.Yields other (importer.records other)
  | _ :: _, _, listed => (List.mem_append.mp listed).elim
    (yields_of_mem_imports importer) (yields_of_mem_importsAll importer)

end

end LayerAtlas.SourceText
