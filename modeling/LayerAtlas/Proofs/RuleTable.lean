import LayerAtlas.Classify.RuleBook
import LayerAtlas.Proofs.Pattern.WholeToken

/-!
# Tables and the rules read from them

A table lists patterns, each with a role and the place where it applies. A book that is read from tables
has one rule for each pattern, in the order of the tables, and a rule matches the tokens that its pattern
covers when it is read by itself.
-/
namespace LayerAtlas

/-- One pattern of a table, with what its row says about it. -/
structure RuleRow where
  role : Role
  layer : Layer
  direction : Direction
  source : String
  deriving DecidableEq, Repr

namespace RuleRow

variable (dialect : PatternDialect)

/-- The pattern of the row, read by itself, matches the whole token. -/
def Covers (row : RuleRow) (token : String) : Prop :=
  ∃ regex, TokenPattern.alone dialect row.source = .ok regex ∧ regex.Covers token

/-- The pattern of the row does not close a group that it has not opened. -/
def Opened (row : RuleRow) : Prop :=
  TokenPattern.alone dialect row.source ≠ .error .unopenedGroup

instance : DecidablePred (Opened dialect) := fun row =>
  match read : TokenPattern.alone dialect row.source with
  | .ok _ => .isTrue fun unopened => nomatch read.symm.trans unopened
  | .error fault =>
    decidable_of_iff (fault ≠ .unopenedGroup) <| by
      rw [Opened, read]
      exact not_congr ⟨congrArg _, Except.error.inj⟩

end RuleRow

namespace RuleSpec

/-- The patterns of a row, each by itself. -/
def rows (spec : RuleSpec) : List RuleRow :=
  spec.patterns.map fun source => ⟨spec.role, spec.layer, spec.direction, source⟩

/-- All patterns of a table in their order. -/
def tableRows (specs : List RuleSpec) : List RuleRow :=
  specs.flatMap rows

theorem tableRows_append (first second : List RuleSpec) :
    tableRows (first ++ second) = tableRows first ++ tableRows second :=
  List.flatMap_append

end RuleSpec

/-- The row that a rule was read from. -/
def Rule.row (rule : Rule) : RuleRow :=
  ⟨rule.role, rule.layer, rule.direction, rule.pattern.source⟩

namespace RuleSpec

variable {dialect : PatternDialect}

theorem compile_eq_ok {spec : RuleSpec} {rules : List Rule}
    (success : spec.compile dialect = .ok rules) :
    rules.map Rule.row = spec.rows ∧
      ∀ rule ∈ rules, TokenPattern.compile dialect rule.pattern.source = .ok rule.pattern := by
  have read (source : String) (rule : Rule)
      (here : (TokenPattern.compile dialect source >>= fun pattern =>
        .ok ⟨spec.role, spec.layer, spec.direction, pattern⟩) = .ok rule) :
      rule.row = ⟨spec.role, spec.layer, spec.direction, source⟩ ∧
        TokenPattern.compile dialect rule.pattern.source = .ok rule.pattern := by
    obtain ⟨pattern, compiled, same⟩ := exists_of_bind here
    cases same
    have source := (TokenPattern.compile_cases compiled).1
    exact ⟨by rw [Rule.row, source], source ▸ compiled⟩
  constructor
  · exact map_of_mapM (fun source rule here => (read source rule here).1) success
  · intro rule member
    obtain ⟨source, _, here⟩ := exists_of_mem_mapM success member
    exact (read source rule here).2

theorem compileAll_eq_ok {specs : List RuleSpec} {rules : List Rule}
    (success : compileAll dialect specs = .ok rules) :
    rules.map Rule.row = tableRows specs ∧
      ∀ rule ∈ rules, TokenPattern.compile dialect rule.pattern.source = .ok rule.pattern := by
  obtain ⟨groups, read, same⟩ := exists_of_bind success
  cases same
  constructor
  · rw [List.map_flatten, tableRows, List.flatMap_def]
    rw [map_of_mapM (fun spec rules here => (compile_eq_ok here).1) read]
  · intro rule member
    obtain ⟨group, listed, inGroup⟩ := List.mem_flatten.mp member
    obtain ⟨spec, _, here⟩ := exists_of_mem_mapM read listed
    exact (compile_eq_ok here).2 rule inGroup

/-- A table that cannot be read names one of its patterns, which is rejected. -/
theorem compileAll_eq_error {specs : List RuleSpec} {fault : RuleError}
    (failed : compileAll dialect specs = .error fault) :
    ∃ row ∈ tableRows specs, TokenPattern.compile dialect row.source = .error fault := by
  cases read : specs.mapM (compile dialect) with
  | ok groups =>
    unfold compileAll at failed
    rw [read] at failed
    cases failed
  | error reported =>
    unfold compileAll at failed
    rw [read] at failed
    cases failed
    obtain ⟨spec, listed, failed⟩ := exists_of_mapM_error read
    obtain ⟨source, written, failed⟩ := exists_of_mapM_error failed
    refine ⟨⟨spec.role, spec.layer, spec.direction, source⟩,
      List.mem_flatMap.mpr ⟨spec, listed, List.mem_map.mpr ⟨source, written, rfl⟩⟩, ?_⟩
    cases rejected : TokenPattern.compile dialect source with
    | error reported =>
      rw [rejected] at failed
      cases failed
      rfl
    | ok pattern =>
      rw [rejected] at failed
      cases failed

end RuleSpec

namespace TokenPattern

/-- A text that is rejected is named as it was written. -/
theorem compile_eq_error {dialect : PatternDialect} {source : String} {fault : RuleError}
    (rejected : compile dialect source = .error fault) : ∃ reason, fault = .invalidPattern source reason := by
  unfold compile at rejected
  split at rejected <;> cases rejected
  exact ⟨_, rfl⟩

end TokenPattern

namespace RuleBook

open RuleSpec (tableRows)

variable {dialect : PatternDialect} {folderRules stemRules : List RuleSpec} {book : RuleBook}

/-- What a book that is read from tables holds. -/
theorem exists_of_ofSpecs (success : ofSpecs dialect folderRules stemRules = .ok book) :
    ∃ folder stem, RuleSpec.compileAll dialect folderRules = .ok folder ∧
      RuleSpec.compileAll dialect stemRules = .ok stem ∧
      MarkerSet.compile dialect Tables.scopeMarkers = .ok book.scopes ∧
      MarkerSet.compile dialect Tables.layerMarkers = .ok book.layers ∧
      MarkerSet.compile dialect Tables.directionMarkers = .ok book.directions ∧
      book.rules = folder ++ stem ∧
      book.stemRules = Rule.prioritize (stem.filter fun rule => rule.layer ≠ .undefined) := by
  obtain ⟨folder, folderRead, success⟩ := exists_of_bind success
  obtain ⟨stem, stemRead, success⟩ := exists_of_bind success
  obtain ⟨scopes, scopesRead, success⟩ := exists_of_bind success
  obtain ⟨layers, layersRead, success⟩ := exists_of_bind success
  obtain ⟨directions, directionsRead, success⟩ := exists_of_bind success
  cases success
  exact ⟨folder, stem, folderRead, stemRead, scopesRead, layersRead, directionsRead, rfl, rfl⟩

theorem ofSpecs_eq_ok (success : ofSpecs dialect folderRules stemRules = .ok book) :
    book.rules.map Rule.row = tableRows (folderRules ++ stemRules) ∧
      ∀ rule ∈ book.rules, TokenPattern.compile dialect rule.pattern.source = .ok rule.pattern := by
  obtain ⟨folder, stem, folderRead, stemRead, _, _, _, rules, _⟩ := exists_of_ofSpecs success
  obtain ⟨folderRows, folderCompiled⟩ := RuleSpec.compileAll_eq_ok folderRead
  obtain ⟨stemRows, stemCompiled⟩ := RuleSpec.compileAll_eq_ok stemRead
  rw [rules]
  constructor
  · rw [List.map_append, folderRows, stemRows, RuleSpec.tableRows_append]
  · intro rule member
    rcases List.mem_append.mp member with inFolder | inStem
    · exact folderCompiled rule inFolder
    · exact stemCompiled rule inStem

/-- Every rule was read from a row of the tables. -/
theorem row_mem_tableRows (success : ofSpecs dialect folderRules stemRules = .ok book) {rule : Rule}
    (member : rule ∈ book.rules) : rule.row ∈ tableRows (folderRules ++ stemRules) := by
  rw [← (ofSpecs_eq_ok success).1]
  exact List.mem_map_of_mem member

/-- The rules for stems are the rules of the table for stems that name a layer. -/
theorem mem_stemRules (success : ofSpecs dialect folderRules stemRules = .ok book) {rule : Rule} :
    rule ∈ book.stemRules →
      rule ∈ book.rules ∧ rule.row ∈ tableRows stemRules ∧ rule.layer ≠ .undefined := by
  obtain ⟨folder, stem, _, stemRead, _, _, _, rules, named⟩ := exists_of_ofSpecs success
  intro member
  unfold Rule.prioritize at named
  rw [named, List.mem_mergeSort, List.mem_filter, decide_eq_true_eq] at member
  obtain ⟨listed, layered⟩ := member
  rw [rules, ← (RuleSpec.compileAll_eq_ok stemRead).1]
  exact ⟨List.mem_append_right folder listed, List.mem_map_of_mem listed, layered⟩

/-- Each row of the table for stems that names a layer has its rule for stems. -/
theorem exists_stemRule (success : ofSpecs dialect folderRules stemRules = .ok book) {row : RuleRow}
    (listed : row ∈ tableRows stemRules) (layered : row.layer ≠ .undefined) :
    ∃ rule ∈ book.stemRules, rule.row = row := by
  obtain ⟨folder, stem, _, stemRead, _, _, _, _, named⟩ := exists_of_ofSpecs success
  rw [← (RuleSpec.compileAll_eq_ok stemRead).1] at listed
  obtain ⟨rule, member, rfl⟩ := List.mem_map.mp listed
  refine ⟨rule, ?_, rfl⟩
  unfold Rule.prioritize at named
  rw [named, List.mem_mergeSort, List.mem_filter, decide_eq_true_eq]
  exact ⟨member, layered⟩

/-- Tables that can be read give a book, in a dialect in which the usual markers are patterns. -/
theorem exists_ofSpecs {plain : RuleBook} {folder stem : List Rule}
    (markers : ofSpecs dialect [] [] = .ok plain)
    (folderRead : RuleSpec.compileAll dialect folderRules = .ok folder)
    (stemRead : RuleSpec.compileAll dialect stemRules = .ok stem) :
    ∃ book, ofSpecs dialect folderRules stemRules = .ok book ∧ book.rules = folder ++ stem := by
  obtain ⟨_, _, _, _, scopes, layers, directions, _, _⟩ := exists_of_ofSpecs markers
  unfold ofSpecs
  rw [folderRead, stemRead, scopes, layers, directions]
  exact ⟨_, rfl, rfl⟩

/-- The usual markers are patterns. -/
theorem exists_plain : ∃ plain, ofSpecs .basic [] [] = .ok plain :=
  exists_of_isOk (by decide +kernel)

/-- Tables with a pattern that is rejected give no book, and a pattern of theirs is named. -/
theorem ofSpecs_of_error {row : RuleRow} {fault : RuleError}
    (listed : row ∈ tableRows (folderRules ++ stemRules))
    (failed : TokenPattern.compile dialect row.source = .error fault) :
    ∃ first ∈ tableRows (folderRules ++ stemRules), ∃ reason,
      ofSpecs dialect folderRules stemRules = .error (.invalidPattern first.source reason) := by
  have named {specs : List RuleSpec} {reported : RuleError}
      (failed : RuleSpec.compileAll dialect specs = .error reported)
      (within : ∀ row ∈ tableRows specs, row ∈ tableRows (folderRules ++ stemRules)) :
      ∃ first ∈ tableRows (folderRules ++ stemRules), ∃ reason,
        reported = .invalidPattern first.source reason := by
    obtain ⟨first, found, rejected⟩ := RuleSpec.compileAll_eq_error failed
    obtain ⟨reason, rfl⟩ := TokenPattern.compile_eq_error rejected
    exact ⟨first, within first found, reason, rfl⟩
  have rows := RuleSpec.tableRows_append folderRules stemRules
  have readable {specs : List RuleSpec} {rules : List Rule}
      (read : RuleSpec.compileAll dialect specs = .ok rules) : row ∉ tableRows specs := by
    intro member
    obtain ⟨rowsOf, compiled⟩ := RuleSpec.compileAll_eq_ok read
    rw [← rowsOf] at member
    obtain ⟨rule, inRules, rfl⟩ := List.mem_map.mp member
    have here := compiled rule inRules
    rw [show rule.pattern.source = rule.row.source from rfl, failed] at here
    cases here
  cases folderRead : RuleSpec.compileAll dialect folderRules with
  | error reported =>
    obtain ⟨first, found, reason, rfl⟩ := named folderRead fun row member => by
      rw [rows]
      exact List.mem_append_left _ member
    exact ⟨first, found, reason, by unfold ofSpecs; rw [folderRead]; rfl⟩
  | ok folder =>
    cases stemRead : RuleSpec.compileAll dialect stemRules with
    | error reported =>
      obtain ⟨first, found, reason, rfl⟩ := named stemRead fun row member => by
        rw [rows]
        exact List.mem_append_right _ member
      refine ⟨first, found, reason, ?_⟩
      unfold ofSpecs
      rw [folderRead, stemRead]
      rfl
    | ok stem =>
      rw [rows] at listed
      rcases List.mem_append.mp listed with inFolder | inStem
      · exact absurd inFolder (readable folderRead)
      · exact absurd inStem (readable stemRead)

end RuleBook

end LayerAtlas
