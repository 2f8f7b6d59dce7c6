import LayerAtlas.Proofs.Coherence
import LayerAtlas.Proofs.Pattern.LetterCase

/-!
# The usual book

All texts of the usual tables are patterns, so the usual book is read from these tables. The form of each
pattern shows that it does not tell the cases of a letter apart. What the tables say is evaluated with the
patterns spelled out: the letters of a literal would be read from its bytes anew wherever one is looked at.
-/
namespace LayerAtlas

namespace TokenPattern

/-- The pattern that letters make between anchors. -/
def ofLetters (letters : List Char) : Except PatternFault Regex :=
  Regex.parse .basic ("(?i)^(?:".toList ++ letters ++ ")$".toList)

/-- Whether letters make a pattern whose form shows that it does not tell the cases apart. -/
def isCaselessSpelling (letters : List Char) : Bool :=
  match ofLetters letters with
  | .ok regex => regex.isCaseless
  | .error _ => false

/-- Whether a text is a pattern whose form shows that it does not tell the cases apart. -/
def isCaselessSource (source : String) : Bool :=
  match compile .basic source with
  | .ok pattern => pattern.regex.isCaseless
  | .error _ => false

variable {source : String} {pattern : TokenPattern}

theorem isCaseless_of_compile (caseless : isCaselessSource source = true)
    (compiled : compile .basic source = .ok pattern) : pattern.regex.isCaseless = true := by
  unfold isCaselessSource at caseless
  rwa [compiled] at caseless

theorem isCaselessSource_eq (source : String) :
    isCaselessSource source = isCaselessSpelling source.toList := by
  unfold isCaselessSource isCaselessSpelling compile
  change _ = match Regex.parse .basic (anchored source) with
    | .ok regex => regex.isCaseless
    | .error _ => false
  cases Regex.parse .basic (anchored source) <;> rfl

theorem exists_of_isCaselessSource (caseless : isCaselessSource source = true) :
    ∃ pattern, compile .basic source = .ok pattern := by
  unfold isCaselessSource at caseless
  split at caseless
  · exact ⟨_, ‹_›⟩
  · cases caseless

end TokenPattern

namespace RuleSpec

/-- The rows of a table, each with the letters of its pattern. -/
def spelledRows (specs : List RuleSpec) : List (RuleRow × List Char) :=
  (tableRows specs).map fun row => (row, row.source.toList)

theorem forall_of_spelledRows {specs : List RuleSpec} {test : RuleRow × List Char → Bool}
    (passes : (spelledRows specs).all test = true) :
    ∀ row ∈ tableRows specs, test (row, row.source.toList) = true :=
  fun _ listed => List.all_eq_true.1 passes _ (List.mem_map_of_mem listed)

/-- A table of which every text is a pattern can be read. -/
theorem exists_compileAll {dialect : PatternDialect} {specs : List RuleSpec}
    (readable : ∀ row ∈ tableRows specs,
      ∃ pattern, TokenPattern.compile dialect row.source = .ok pattern) :
    ∃ rules, compileAll dialect specs = .ok rules := by
  cases read : compileAll dialect specs with
  | ok rules => exact ⟨rules, rfl⟩
  | error fault =>
    obtain ⟨row, listed, failed⟩ := compileAll_eq_error read
    obtain ⟨pattern, compiled⟩ := readable row listed
    cases compiled.symm.trans failed

end RuleSpec

namespace Tables

open RuleSpec (tableRows)

theorem caseless_rows : ∀ row ∈ tableRows (folderRules ++ stemRules),
    TokenPattern.isCaselessSource row.source = true := by
  have spelled : (RuleSpec.spelledRows (folderRules ++ stemRules)).all
      (fun row => TokenPattern.isCaselessSpelling row.2) = true := by
    rw [RuleSpec.spelledRows, RuleSpec.tableRows_append]
    simp only [tableRows, RuleSpec.rows, folderRules, stemRules, rule, List.flatMap_cons,
      List.flatMap_nil, List.map_append, List.map_cons, List.map_nil, String.reduceToList]
    decide +kernel
  intro row listed
  rw [TokenPattern.isCaselessSource_eq]
  exact RuleSpec.forall_of_spelledRows spelled row listed

theorem caseless_words :
    (∀ row ∈ scopeMarkers, TokenPattern.isCaselessSource ("|".intercalate row.2) = true) ∧
    (∀ row ∈ layerMarkers, TokenPattern.isCaselessSource ("|".intercalate row.2) = true) ∧
    ∀ row ∈ directionMarkers, TokenPattern.isCaselessSource ("|".intercalate row.2) = true := by
  decide +kernel

end Tables

namespace RuleBook

-- Comparing the two books by their definitions would otherwise compile every pattern of the tables.
attribute [local irreducible] ofSpecs in
theorem standard_eq : standard = ofSpecsOrEmpty .basic Tables.folderRules Tables.stemRules := rfl

/-- The usual tables can be read. -/
theorem accepted_standard : ofSpecs .basic Tables.folderRules Tables.stemRules = .ok standard := by
  have readable (specs : List RuleSpec)
      (within : ∀ row ∈ RuleSpec.tableRows specs,
        row ∈ RuleSpec.tableRows (Tables.folderRules ++ Tables.stemRules)) :
      ∃ rules, RuleSpec.compileAll .basic specs = .ok rules :=
    RuleSpec.exists_compileAll fun row listed =>
      TokenPattern.exists_of_isCaselessSource (Tables.caseless_rows row (within row listed))
  have rows := RuleSpec.tableRows_append Tables.folderRules Tables.stemRules
  obtain ⟨folder, folderRead⟩ := readable Tables.folderRules fun row listed => by
    rw [rows]
    exact List.mem_append_left _ listed
  obtain ⟨stem, stemRead⟩ := readable Tables.stemRules fun row listed => by
    rw [rows]
    exact List.mem_append_right _ listed
  obtain ⟨plain, markers⟩ := exists_plain
  obtain ⟨book, accepted, _⟩ := exists_ofSpecs markers folderRead stemRead
  rw [standard_eq, ofSpecsOrEmpty, accepted]

end RuleBook

/-! ## The book row by row -/

/-- The pattern of a text; nothing is matched by a text that is none. -/
def TokenPattern.orEmpty (source : String) : TokenPattern :=
  (compile .basic source).toOption.getD ⟨source, .empty⟩

/-- The rule that is read from a row. -/
def Rule.ofRow (row : RuleRow) : Rule :=
  ⟨row.role, row.layer, row.direction, .orEmpty row.source⟩

theorem RuleSpec.map_ofRow {specs : List RuleSpec} {rules : List Rule}
    (success : compileAll .basic specs = .ok rules) : rules = (tableRows specs).map Rule.ofRow := by
  obtain ⟨rows, compiled⟩ := compileAll_eq_ok success
  rw [← rows, List.map_map]
  refine (List.map_id rules).symm.trans (List.map_congr_left fun rule listed => ?_)
  change rule = ⟨rule.role, rule.layer, rule.direction, .orEmpty rule.pattern.source⟩
  rw [TokenPattern.orEmpty, compiled rule listed]
  rfl

/-- The markers of a table, none if it cannot be read. -/
def MarkerSet.orEmpty {α : Type} (table : List (α × List String)) : MarkerSet α :=
  (compile .basic table).toOption.getD empty

namespace RuleBook

/-- A book that could be read from tables holds the rules that are read from their rows. So a rule which is
not tried need not be read. -/
theorem eq_ofRows {book : RuleBook} {folderRules stemRules : List RuleSpec}
    (accepted : ofSpecs .basic folderRules stemRules = .ok book) : book = {
      scopes := .orEmpty Tables.scopeMarkers
      layers := .orEmpty Tables.layerMarkers
      directions := .orEmpty Tables.directionMarkers
      rules := (RuleSpec.tableRows (folderRules ++ stemRules)).map Rule.ofRow
      stemRules := Rule.prioritize
        (((RuleSpec.tableRows stemRules).map Rule.ofRow).filter fun rule => rule.layer ≠ .undefined) } := by
  obtain ⟨folder, stem, folderRead, stemRead, scopes, layers, directions, rules, stems⟩ :=
    exists_of_ofSpecs accepted
  have known {α : Type} {table : List (α × List String)} {markers : MarkerSet α}
      (compiled : MarkerSet.compile .basic table = .ok markers) : markers = .orEmpty table := by
    rw [MarkerSet.orEmpty, compiled]
    rfl
  rw [RuleSpec.tableRows_append, List.map_append, ← RuleSpec.map_ofRow folderRead,
    ← RuleSpec.map_ofRow stemRead, ← known scopes, ← known layers, ← known directions, ← rules, ← stems]

end RuleBook

end LayerAtlas
