import LayerAtlas.Proofs.Reading.ImportName
import LayerAtlas.SourceText.Imports

/-!
# Trees in the order of the text

The statements that are read from a text stand in its rows one behind the other, and no name in them is
empty. What has been found stands in front of where its reader stops, and readers only move forward, so
what is read next stands behind it. The records of the imports come in the same order.
-/
namespace LayerAtlas.SourceText

variable {fuel : Nat}

/-! Reading in order. -/

/-- What has been found stands in front of row `floor`, and the reader begins no higher than there. Then
what it gives, in which that is included, stands in front of where it stops. -/
structure Completes (floor : Nat) (seen : List Statement) (reader : Reader (List Statement)) : Prop where
  of_ok : ∀ {first cursor found next}, Statement.StandIn first floor seen → floor ≤ cursor.row →
    reader cursor = .ok (found, next) → Statement.StandIn first next.row found

/-- The statements that are read stand one behind the other in the rows over which the reader moves. -/
def InOrder (reader : Reader (List Statement)) : Prop :=
  ∀ floor, Completes floor [] reader

namespace Completes

variable {α : Type} {floor : Nat} {seen : List Statement} {reader : Reader α}
  {next : α → Reader (List Statement)}

theorem pure : Completes floor seen (Pure.pure seen) where
  of_ok := by
    rintro first cursor _ _ stand below ⟨⟩
    exact stand.mono (Nat.le_refl _) below

theorem stuck : Completes floor seen SourceText.stuck where
  of_ok := by
    intro first cursor found next _ _ run
    cases run

/-- A reader that finds no statements is passed. -/
theorem past [Forward reader] (each : ∀ found, Completes floor seen (next found)) :
    Completes floor seen (reader >>= next) where
  of_ok := by
    intro first cursor result last stand below run
    obtain ⟨found, middle, here, run⟩ := exists_of_bind_eq_ok run
    exact (each found).of_ok stand (Nat.le_trans below (Forward.precedes here).row) run

/-- The statements of an inner reader stand behind those found before. -/
theorem andThen {reader : Reader (List Statement)} {next : List Statement → Reader (List Statement)}
    (inOrder : InOrder reader) (each : ∀ floor body, Completes floor (seen ++ body) (next body)) :
    Completes floor seen (reader >>= next) where
  of_ok := by
    intro first cursor result last stand below run
    obtain ⟨body, middle, here, run⟩ := exists_of_bind_eq_ok run
    have behind := (inOrder cursor.row).of_ok (Nat.le_refl _) (Nat.le_refl _) here
    have both := (stand.mono (Nat.le_refl _) below).append behind
    exact (each middle.row body).of_ok both (Nat.le_refl _) run

/-- The statements that have been found are kept in reverse. -/
theorem collect {found : List Statement} {reader : Reader (List Statement)}
    {next : List Statement → Reader (List Statement)} (inOrder : InOrder reader)
    (each : ∀ floor body, Completes floor (body.reverse ++ found).reverse (next body)) :
    Completes floor found.reverse (reader >>= next) :=
  andThen inOrder fun floor body => by
    have both := each floor body
    rwa [List.reverse_append, List.reverse_reverse] at both

theorem single {reader : Reader Statement} {next : Statement → Reader (List Statement)}
    [Forward reader] (stands : ∀ cursor, Gives reader cursor (·.StandsIn cursor.row cursor.row))
    (each : ∀ floor statement, Completes floor (seen ++ [statement]) (next statement)) :
    Completes floor seen (reader >>= next) where
  of_ok := by
    intro first cursor result last stand below run
    obtain ⟨statement, middle, here, run⟩ := exists_of_bind_eq_ok run
    have behind := ((stands cursor).of_ok here).single
    have both := (stand.mono (Nat.le_refl _) below).append behind
    exact (each cursor.row statement).of_ok both (Forward.precedes here).row run

theorem get {next : Cursor → Reader (List Statement)}
    (each : ∀ start : Cursor, floor ≤ start.row → Completes floor seen (next start)) :
    Completes floor seen (get >>= next) where
  of_ok stand below run := (each _ below).of_ok stand below run

/-- Going back to a place behind everything that has been found. -/
theorem set {start : Cursor} {next : Unit → Reader (List Statement)} (below : floor ≤ start.row)
    (each : Completes floor seen (next ())) : Completes floor seen (set start >>= next) where
  of_ok stand _ run := each.of_ok stand below run

theorem ite {condition : Prop} [Decidable condition] {first second : Reader (List Statement)}
    (holds : Completes floor seen first) (fails : Completes floor seen second) :
    Completes floor seen (if condition then first else second) := by
  split
  · exact holds
  · exact fails

theorem either {first second : Reader (List Statement)} (one : Completes floor seen first)
    (other : Completes floor seen second) : Completes floor seen (either first second) where
  of_ok := by
    intro _ cursor _ _ stand below run
    unfold SourceText.either at run
    split at run
    · cases run
      exact one.of_ok stand below ‹_›
    · exact other.of_ok stand below run

end Completes

/-! Statements. -/

section Suite

variable (read : TermReader) [∀ level follow, Forward (read level follow)]

theorem inOrder_simpleLine : InOrder (simpleLine read fuel) := by
  induction fuel with
  | zero => exact fun _ => .stuck
  | succ fuel ih =>
    intro floor
    apply Completes.single fun cursor => standsIn_simpleStatement read
    intro floor statement
    refine .past fun isSemicolon => ?_
    apply Completes.ite
    · refine .past fun _ => .past fun _ => .past fun ends => ?_
      apply Completes.ite
      · exact .pure
      · exact .andThen ih fun floor later => .pure
    · refine .past fun ends => ?_
      exact .ite .pure .stuck

instance forward_atClause (text : String) : Forward (atClause text) where
  precedes := by
    intro cursor found next run
    unfold atClause at run
    split at run
    · rename_i here
      have moved := Forward.precedes here
      split at run <;> cases run
      · exact moved
      · exact .refl cursor
    · cases run
      exact .refl cursor
    · cases run

variable {suite : SuiteReader} (inOrder : InOrder suite)
include inOrder

theorem inOrder_conditionSuite (text : String) : InOrder (conditionSuite read suite text) := by
  intro floor
  repeat refine .past fun _ => ?_
  exact inOrder floor

omit [∀ level follow, Forward (read level follow)] read in
theorem inOrder_wordSuite (text : String) : InOrder (wordSuite suite text) := by
  intro floor
  refine .past fun begins => ?_
  apply Completes.ite
  · exact .past fun _ => .past fun _ => inOrder floor
  · exact .pure

theorem inOrder_elifSuites : InOrder (elifSuites read suite fuel) := by
  induction fuel with
  | zero => exact fun _ => .stuck
  | succ fuel ih =>
    intro floor
    refine .past fun begins => ?_
    apply Completes.ite
    · apply Completes.andThen (inOrder_conditionSuite read inOrder "elif")
      intro floor body
      exact .andThen ih fun _ _ => .pure
    · exact .pure

theorem inOrder_ifStatement : InOrder (ifStatement read suite fuel) := by
  intro floor
  apply Completes.andThen (inOrder_conditionSuite read inOrder "if")
  intro floor body
  apply Completes.andThen (inOrder_elifSuites read inOrder)
  intro floor elifs
  exact .andThen (inOrder_wordSuite inOrder "else") fun _ _ => .pure

theorem inOrder_whileStatement : InOrder (whileStatement read suite) := by
  intro floor
  apply Completes.andThen (inOrder_conditionSuite read inOrder "while")
  intro floor body
  exact .andThen (inOrder_wordSuite inOrder "else") fun _ _ => .pure

theorem inOrder_forStatement : InOrder (forStatement read suite fuel) := by
  intro floor
  repeat refine .past fun _ => ?_
  apply Completes.andThen inOrder
  intro floor body
  exact .andThen (inOrder_wordSuite inOrder "else") fun _ _ => .pure

theorem inOrder_withStatement : InOrder (withStatement read suite fuel) := by
  intro floor
  repeat refine .past fun _ => ?_
  exact inOrder floor

theorem inOrder_handlers (isStarred : Bool) : InOrder (handlers read suite isStarred fuel) := by
  induction fuel with
  | zero => exact fun _ => .stuck
  | succ fuel ih =>
    have handled (floor : Nat) : Completes floor [] (do
        let body ← suite
        let later ← handlers read suite isStarred fuel
        return body ++ later) :=
      .andThen inOrder fun _ _ => .andThen ih fun _ _ => .pure
    intro floor
    refine .get fun start below => .past fun begins => ?_
    apply Completes.ite
    · refine .past fun isStar => ?_
      apply Completes.ite
      -- A handler of the other kind is left for later.
      · exact .set below .pure
      · repeat refine .past fun _ => ?_
        apply Completes.ite
        · refine .past fun _ => .past fun isPair => ?_
          apply Completes.ite
          · exact .past fun _ => .past fun _ => .past fun _ => handled floor
          · exact handled floor
        · exact handled floor
    · exact .pure

theorem inOrder_tryStatement : InOrder (tryStatement read suite fuel) := by
  intro floor
  refine .past fun _ => .past fun _ => ?_
  apply Completes.andThen inOrder
  intro floor body
  -- The word behind the suite is looked at twice, so the second reading begins where the first one did.
  refine .get fun start below => .past fun handles => ?_
  apply Completes.ite
  · refine .past fun isStarred => .set below ?_
    apply Completes.andThen (inOrder_handlers read inOrder isStarred)
    intro floor handled
    apply Completes.andThen (inOrder_wordSuite inOrder "else")
    intro floor otherwise
    exact .andThen (inOrder_wordSuite inOrder "finally") fun _ _ => .pure
  · refine .past fun ends => ?_
    apply Completes.ite
    · exact .set below (.andThen (inOrder_wordSuite inOrder "finally") fun _ _ => .pure)
    · exact .stuck

theorem inOrder_functionStatement : InOrder (functionStatement read suite fuel) := by
  intro floor
  repeat refine .past fun _ => ?_
  apply Completes.ite
  · repeat refine .past fun _ => ?_
    exact inOrder floor
  · exact inOrder floor

theorem inOrder_classStatement : InOrder (classStatement read suite fuel) := by
  intro floor
  repeat refine .past fun _ => ?_
  apply Completes.ite
  · repeat refine .past fun _ => ?_
    exact inOrder floor
  · exact inOrder floor

theorem inOrder_asyncStatement : InOrder (asyncStatement read suite fuel) := by
  intro floor
  refine .past fun _ => .past fun _ => .past fun found => ?_
  split
  · exact inOrder_functionStatement read inOrder floor
  · exact inOrder_forStatement read inOrder floor
  · exact inOrder_withStatement read inOrder floor
  · exact .stuck

theorem inOrder_decoratedStatement : InOrder (decoratedStatement read suite fuel) := by
  induction fuel with
  | zero => exact fun _ => .stuck
  | succ fuel ih =>
    intro floor
    repeat refine .past fun _ => ?_
    apply Completes.ite
    · refine .past fun _ => .past fun isMore => ?_
      apply Completes.ite
      · exact ih floor
      · refine .past fun found => ?_
        split
        · exact inOrder_functionStatement read inOrder floor
        · exact inOrder_classStatement read inOrder floor
        · exact .past fun _ => .past fun _ => inOrder_functionStatement read inOrder floor
        · exact .stuck
    · exact .stuck

theorem inOrder_cases : InOrder (cases read suite fuel) := by
  induction fuel with
  | zero => exact fun _ => .stuck
  | succ fuel ih =>
    have bodies (floor : Nat) : Completes floor [] (do
        let body ← suite
        let later ← cases read suite fuel
        return body ++ later) :=
      .andThen inOrder fun _ _ => .andThen ih fun _ _ => .pure
    intro floor
    refine .past fun closes => ?_
    apply Completes.ite
    · exact .pure
    · repeat refine .past fun _ => ?_
      apply Completes.ite
      · exact .past fun _ => .past fun _ => .past fun _ => bodies floor
      · exact bodies floor

theorem inOrder_matchStatement : InOrder (matchStatement read suite fuel) := by
  intro floor
  iterate 4 refine .past fun _ => ?_
  refine .past fun start => ?_
  cases start with
  | line => exact .stuck
  | block => exact inOrder_cases read inOrder floor
  | empty => exact .pure

omit inOrder [∀ level follow, Forward (read level follow)] read in
/-- The parts of a compound statement stand where the statement stands. -/
theorem InOrder.compound {parts : SuiteReader} (inOrder : InOrder parts) :
    InOrder (do return [.other (← parts)]) := fun floor => {
  of_ok := by
    intro first cursor result last within below run
    obtain ⟨found, _, here, ⟨⟩⟩ := exists_of_bind_eq_ok run
    have stand : Statement.StandIn first last.row found := (inOrder floor).of_ok within below here
    exact Statement.StandsIn.single stand }

theorem inOrder_compoundStatement : InOrder (compoundStatement read suite fuel) := by
  have line : InOrder (simpleLine read fuel) := inOrder_simpleLine read
  intro floor
  refine .past fun isDecorated => ?_
  apply Completes.ite
  · exact (inOrder_decoratedStatement read inOrder).compound floor
  · refine .past fun found => ?_
    split
    · exact (inOrder_ifStatement read inOrder).compound floor
    · exact (inOrder_whileStatement read inOrder).compound floor
    · exact (inOrder_forStatement read inOrder).compound floor
    · exact (inOrder_tryStatement read inOrder).compound floor
    · exact (inOrder_withStatement read inOrder).compound floor
    · exact (inOrder_functionStatement read inOrder).compound floor
    · exact (inOrder_classStatement read inOrder).compound floor
    · exact .either ((inOrder_matchStatement read inOrder).compound floor) (line floor)
    · exact .either ((inOrder_asyncStatement read inOrder).compound floor) (line floor)
    · exact line floor

end Suite

/-! Texts. -/

theorem completes_block {statements : Reader (List Statement)} (inOrder : InOrder statements)
    (floor : Nat) (found : List Statement) :
    Completes floor found.reverse (block statements fuel found) := by
  induction fuel generalizing floor found with
  | zero => exact .stuck
  | succ fuel ih =>
    refine .past fun closes => ?_
    apply Completes.ite
    · exact .pure
    · exact .collect inOrder fun floor next => ih floor _

theorem inOrder_suite (read : TermReader) [∀ level follow, Forward (read level follow)]
    {statements : Reader (List Statement)} (inOrder : InOrder statements) :
    InOrder (suite read statements fuel) := by
  intro floor
  refine .past fun _ => .past fun start => ?_
  cases start with
  | line => exact inOrder_simpleLine read floor
  | block => exact completes_block inOrder floor []
  | empty => exact .pure

theorem inOrder_statements (fuel : Nat) : InOrder (statements fuel) := by
  induction fuel with
  | zero => exact fun _ => .stuck
  | succ fuel ih =>
    exact inOrder_compoundStatement (expression fuel) (inOrder_suite (expression fuel) ih)

theorem completes_allStatements (fuel steps floor : Nat) (found : List Statement) :
    Completes floor found.reverse (allStatements fuel steps found) := by
  induction steps generalizing floor found with
  | zero => exact .stuck
  | succ steps ih =>
    refine .past fun _ => .past fun next => ?_
    apply Completes.ite
    · exact .pure
    · exact .collect (inOrder_statements fuel) fun floor next => ih floor _

/-- The statements of a text stand in its rows one behind the other, and no name in them is empty. -/
theorem standIn_of_tree {text : String} {statements : List Statement}
    (read : tree text = .ok statements) : ∃ last, Statement.StandIn 0 last statements := by
  unfold tree at read
  dsimp only at read
  cases run : allStatements (2 * text.toList.length + 8) (2 * text.toList.length + 8) []
      (Cursor.start text.toList) with
  | error fault =>
    rw [run] at read
    cases read
  | ok result =>
    rw [run] at read
    obtain ⟨found, finish⟩ := result
    obtain rfl := Except.ok.inj read
    have whole := completes_allStatements (2 * text.toList.length + 8) (2 * text.toList.length + 8)
      0 []
    exact ⟨finish.row, whole.of_ok (Nat.le_refl 0) (Nat.zero_le _) run⟩

/-- The records of a text are those that the loop finds in its tree. -/
theorem exists_tree_of_read {text : String} {path : Path} {name : String} {records : List ImportRecord}
    (read : readImports text path name = .ok records) :
    ∃ statements last, tree text = .ok statements ∧ Statement.StandIn 0 last statements ∧
      records = Importer.visit ⟨name, path.isPackageInitializer⟩ statements := by
  unfold readImports at read
  split at read
  · split at read
    · next statements whole =>
      obtain rfl := Except.ok.inj read
      obtain ⟨last, stand⟩ := standIn_of_tree whole
      exact ⟨statements, last, whole, stand, rfl⟩
    · cases read
  · cases read

/-- A loop over a tree without errors records its imports in the order of the text and drops none: it finds
what a traversal from left to right finds, which is what each import statement has, one after the other.
Every text that can be read has such a tree, so its records come in the order of its lines. -/
theorem visit_in_source_order (importer : Importer) {first last : Nat} {statements : List Statement}
    (stand : Statement.StandIn first last statements) :
    (∀ steps, Statement.size (.other statements) ≤ steps →
      importer.step^[steps] (.start statements) = ⟨#[], (importer.visit statements).toArray⟩) ∧
    importer.visit statements = importer.collectAll statements ∧
    (∃ found, List.Forall₂ importer.Yields (Statement.importsAll statements) found ∧
      importer.visit statements = found.flatten) ∧
    ((importer.visit statements).Pairwise fun earlier later => earlier.line ≤ later.line) ∧
    ∀ text path name records, readImports text path name = .ok records →
      ∃ read last, tree text = .ok read ∧ Statement.StandIn 0 last read ∧
        records = Importer.collectAll ⟨name, path.isPackageInitializer⟩ read ∧
        records.Pairwise fun earlier later => earlier.line ≤ later.line := by
  have traversal := importer.visit_eq_collectAll statements
  rw [traversal]
  refine ⟨?_, rfl, ?_, (importer.inLines_collectAll stand).ordered, ?_⟩
  · intro steps enough
    have whole : Statement.StandIn first last [.other statements] := Statement.StandsIn.single stand
    have run := importer.step_iterate whole (enough : Statement.sizeAll [.other statements] ≤ steps) []
    rw [List.nil_append, Importer.collectAll, Importer.collect, Importer.collectAll,
      List.append_nil] at run
    exact run
  · refine ⟨(Statement.importsAll statements).map importer.records, ?_, ?_⟩
    · refine List.forall₂_map_right_iff.mpr (List.forall₂_same.mpr fun statement listed => ?_)
      exact importer.yields_of_mem_importsAll listed
    · rw [importer.collectAll_eq_flatMap, List.flatMap_def]
  · intro text path name records success
    obtain ⟨read, last, whole, within, rfl⟩ := exists_tree_of_read success
    refine ⟨read, last, whole, within, Importer.visit_eq_collectAll _ read, ?_⟩
    rw [Importer.visit_eq_collectAll]
    exact (Importer.inLines_collectAll _ within).ordered

/-- Imports of a `try` in a class, an import that is none, and a wildcard behind them. -/
def classStatements : List Statement :=
  [.other
    [.plainImport 1 ["os", "shop.order"],
      .other
        [.other [.fromImport 3 (.relative 1 "item") (.listed ["Item", "Line", "Item"])],
          .other [.futureImport 5, .other []]]],
    .fromImport 6 (.absolute "money") .everything]

theorem visit_in_source_order_class :
    Statement.StandIn 0 6 classStatements ∧
      (∀ steps, 10 ≤ steps → (Importer.step ⟨"shop.cart", false⟩)^[steps] (.start classStatements) =
        ⟨#[], #[⟨"os", 2, false, []⟩, ⟨"shop.order", 2, false, []⟩,
          ⟨"shop.item", 4, true, ["Item", "Line"]⟩, ⟨"money", 7, false, ["*"]⟩]⟩) ∧
      Importer.collectAll ⟨"shop.cart", false⟩ classStatements =
        [⟨"os", 2, false, []⟩, ⟨"shop.order", 2, false, []⟩, ⟨"shop.item", 4, true, ["Item", "Line"]⟩,
          ⟨"money", 7, false, ["*"]⟩] := by
  have plain : Statement.StandsIn 0 1 (.plainImport 1 ["os", "shop.order"]) := ⟨by decide, by decide⟩
  have listed : Statement.StandsIn 1 3
      (.fromImport 3 (.relative 1 "item") (.listed ["Item", "Line", "Item"])) :=
    ⟨by decide, by decide⟩
  have future : Statement.StandIn 3 5 [.futureImport 5, .other []] :=
    ⟨5, ⟨by decide, by decide⟩, 5, Nat.le_refl 5, Nat.le_refl 5⟩
  have body : Statement.StandIn 0 5 [.plainImport 1 ["os", "shop.order"],
      .other [.other [.fromImport 3 (.relative 1 "item") (.listed ["Item", "Line", "Item"])],
        .other [.futureImport 5, .other []]]] :=
    ⟨1, plain, 5, ⟨3, listed.single, 5, future, Nat.le_refl 5⟩, Nat.le_refl 5⟩
  have wildcard : Statement.StandsIn 5 6 (.fromImport 6 (.absolute "money") .everything) :=
    ⟨by decide, by decide⟩
  have stand : Statement.StandIn 0 6 classStatements := ⟨5, body, wildcard.single⟩
  obtain ⟨loop, traversal, _, _, _⟩ := visit_in_source_order ⟨"shop.cart", false⟩ stand
  have found : Importer.visit ⟨"shop.cart", false⟩ classStatements =
      [⟨"os", 2, false, []⟩, ⟨"shop.order", 2, false, []⟩, ⟨"shop.item", 4, true, ["Item", "Line"]⟩,
        ⟨"money", 7, false, ["*"]⟩] := by decide +kernel
  rw [found] at loop
  exact ⟨stand, loop, traversal.symm.trans found⟩

end LayerAtlas.SourceText
