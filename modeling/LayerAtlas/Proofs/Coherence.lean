import LayerAtlas.Proofs.RuleChoice

/-!
# Passports whose parts agree

The parts of a passport come from different stages: the scope from the first folder, the layer from
folders or the stem, the side from folders and the layer, the role from the rules that the layer and the
side allow. What holds them together is that the layer settles whether there is a side, and that a rule is
only asked where its layer and its side are admitted.
-/
namespace LayerAtlas

/-- The parts of a passport agree. -/
structure Passport.Coherent (passport : Passport) : Prop where
  root : passport.scope = .root →
    passport.context = "root" ∧ passport.layer = .composition ∧ passport.zone = none
  shared : passport.scope = .shared → passport.context = "shared" ∧ passport.zone = none
  sideless : passport.direction = .none ↔ passport.layer ∈ [.domain, .app, .composition, .global]
  sided : passport.direction ∈ [.driving, .driven, .undefined, .none]
  unfound : passport.method = .unknown ↔ passport.role = .unknown
  unnamed : passport.method = .unknown ↔ passport.ruleLayer = none
  ruleLayer : ∀ layer, passport.ruleLayer = some layer →
    layer = passport.role.layer ∧ (layer = passport.layer ∨ layer = .global)

namespace MarkerSet

variable {α : Type} {dialect : PatternDialect} {table : List (α × List String)} {markers : MarkerSet α}

/-- The pattern of a row was read from the words that the table gives for its value. -/
theorem exists_of_mem_rows {row : α × TokenPattern} (compiled : compile dialect table = .ok markers)
    (member : row ∈ markers.rows) :
    ∃ words, (row.1, words) ∈ table ∧
      TokenPattern.compile dialect ("|".intercalate words) = .ok row.2 := by
  obtain ⟨rows, read, same⟩ := exists_of_bind compiled
  cases same
  obtain ⟨entry, listed, entryRead⟩ := exists_of_mem_mapM read member
  obtain ⟨pattern, patternRead, same⟩ := exists_of_bind entryRead
  cases same
  exact ⟨entry.2, listed, patternRead⟩

/-- A word stands only for values of the table. -/
theorem exists_of_lookup {token : String} {value : α} (compiled : compile dialect table = .ok markers)
    (found : markers.lookup token = some value) : ∃ words, (value, words) ∈ table := by
  obtain ⟨row, first, rfl⟩ := Option.map_eq_some_iff.mp found
  obtain ⟨words, listed, _⟩ := exists_of_mem_rows compiled (List.mem_of_find?_eq_some first)
  exact ⟨words, listed⟩

end MarkerSet

namespace Territory

variable {book : RuleBook} {folders : List String} {stem : String}

theorem scope_ofContext : (ofContext book folders stem).scope = .context := by
  unfold ofContext
  split <;> rfl

theorem ofPath_of_root (scope : (ofPath book folders stem).scope = .root) :
    (ofPath book folders stem).context = "root" ∧ (ofPath book folders stem).zone = none := by
  unfold ofPath at scope ⊢
  split at scope
  · exact ⟨rfl, rfl⟩
  · cases scope
  all_goals
    rw [scope_ofContext] at scope
    cases scope

theorem ofPath_of_shared (scope : (ofPath book folders stem).scope = .shared) :
    (ofPath book folders stem).context = "shared" ∧ (ofPath book folders stem).zone = none := by
  unfold ofPath at scope ⊢
  split at scope
  · cases scope
  · exact ⟨rfl, rfl⟩
  all_goals
    rw [scope_ofContext] at scope
    cases scope

end Territory

namespace RuleBook

open RuleSpec (tableRows)

variable {book : RuleBook} {dialect : PatternDialect} {folderRules stemRules : List RuleSpec}

/-- Every rule of the book names a known role of its own layer, and words for a side name one of the
two. -/
structure Orderly (book : RuleBook) : Prop where
  rules : ∀ rule ∈ book.rules, rule.role ≠ .unknown ∧ rule.role.layer = rule.layer
  sides : ∀ token side, book.directions.lookup token = some side → side = .driving ∨ side = .driven

theorem orderly_empty : empty.Orderly where
  rules := fun _ member => absurd member List.not_mem_nil
  sides := fun _ _ found => nomatch found

/-- Tables whose rows are in order give an orderly book. -/
theorem orderly_ofSpecs (accepted : ofSpecs dialect folderRules stemRules = .ok book)
    (rows : ∀ row ∈ tableRows (folderRules ++ stemRules),
      row.role ≠ .unknown ∧ row.role.layer = row.layer) : book.Orderly where
  rules := fun rule member => rows rule.row (row_mem_tableRows accepted member)
  sides := by
    intro token side found
    obtain ⟨_, _, _, _, _, _, read, _⟩ := exists_of_ofSpecs accepted
    obtain ⟨words, listed⟩ := MarkerSet.exists_of_lookup read found
    simp only [Tables.directionMarkers, List.mem_cons, List.not_mem_nil, Prod.mk.injEq] at listed
    rcases listed with ⟨rfl, _⟩ | ⟨rfl, _⟩ | none
    · exact .inl rfl
    · exact .inr rfl
    · exact none.elim

/-- The book of these tables, or the one without rules where they cannot be read. -/
def ofSpecsOrEmpty (dialect : PatternDialect) (folderRules stemRules : List RuleSpec) : RuleBook :=
  match ofSpecs dialect folderRules stemRules with
  | .ok book => book
  | .error _ => empty

theorem orderly_ofSpecsOrEmpty (rows : ∀ row ∈ tableRows (folderRules ++ stemRules),
    row.role ≠ .unknown ∧ row.role.layer = row.layer) :
    (ofSpecsOrEmpty dialect folderRules stemRules).Orderly := by
  unfold ofSpecsOrEmpty
  split
  · next accepted => exact orderly_ofSpecs accepted rows
  · exact orderly_empty

-- Comparing the two books by their definitions would otherwise compile every pattern of the tables.
attribute [local irreducible] ofSpecs in
theorem orderly_standard : standard.Orderly :=
  show (ofSpecsOrEmpty .basic Tables.folderRules Tables.stemRules).Orderly from
    orderly_ofSpecsOrEmpty (by decide +kernel)

/-- The rule that names the role at these coordinates: the first that covers a folder, else the first
that covers the stem. -/
def winner? (book : RuleBook) (coordinates : Coordinates) (stem : String) : Option Rule :=
  let pool := book.pool coordinates.layer coordinates.direction
  (Rule.matchFolders pool coordinates.tokens).or (Rule.matchStem pool stem)

/-- Only a rule that is admitted at the coordinates wins. -/
theorem admitted_of_winner {coordinates : Coordinates} {stem : String} {rule : Rule}
    (won : book.winner? coordinates stem = some rule) :
    rule ∈ book.rules ∧ rule.row.AdmittedAt coordinates.layer coordinates.direction := by
  rw [← mem_pool]
  rcases Option.or_eq_some_iff.mp won with byFolder | ⟨_, byStem⟩
  · exact List.mem_of_find?_eq_some byFolder
  · exact List.mem_of_find?_eq_some byStem

/-- The role is that of the winner, if there is one. -/
theorem role_of_winner (book : RuleBook) (coordinates : Coordinates) (stem : String) :
    match book.winner? coordinates stem with
    | some rule => ∃ method, method ≠ .unknown ∧
        book.role coordinates stem = (rule.role, method, some rule.layer)
    | none => book.role coordinates stem = (.unknown, .unknown, none) := by
  unfold winner?
  dsimp only
  cases byFolder : Rule.matchFolders (book.pool coordinates.layer coordinates.direction)
      coordinates.tokens with
  | some rule => exact ⟨.structural, nofun, role_of_folder byFolder⟩
  | none =>
    cases byStem : Rule.matchStem (book.pool coordinates.layer coordinates.direction) stem with
    | some rule => exact ⟨.name, nofun, role_of_stem byFolder byStem⟩
    | none => exact role_of_none byFolder byStem

/-- A side is given exactly where the layer has sides or is open, and never as either. -/
theorem direction_spec (orderly : book.Orderly) (discovery : Discovery) :
    (discovery.direction book = .none ↔
      discovery.layer ∈ [.domain, .app, .composition, .global]) ∧
    discovery.direction book ∈ [.driving, .driven, .undefined, .none] := by
  unfold Discovery.direction
  have found : ((discovery.remaining.findSome? book.directions.lookup).getD .undefined) ∈
      [Direction.driving, .driven, .undefined] := by
    cases first : discovery.remaining.findSome? book.directions.lookup with
    | none => decide
    | some side =>
      obtain ⟨token, _, named⟩ := List.exists_of_findSome?_eq_some first
      rcases orderly.sides token side named with rfl | rfl <;> decide
  generalize (discovery.remaining.findSome? book.directions.lookup).getD .undefined = side at found
  cases discovery.layer <;> cases side <;> simp_all [Layer.isDirectional]

/-- What the rules answer agrees with itself and with the layer. -/
theorem role_spec (orderly : book.Orderly) (coordinates : Coordinates) (stem : String) :
    let answer := book.role coordinates stem
    (answer.2.1 = .unknown ↔ answer.1 = .unknown) ∧ (answer.2.1 = .unknown ↔ answer.2.2 = none) ∧
      ∀ layer, answer.2.2 = some layer →
        layer = answer.1.layer ∧ (layer = coordinates.layer ∨ layer = .global) := by
  have won := role_of_winner book coordinates stem
  cases winner : book.winner? coordinates stem with
  | none =>
    rw [winner] at won
    rw [won]
    simp
  | some rule =>
    rw [winner] at won
    obtain ⟨method, known, answer⟩ := won
    obtain ⟨member, admitted, _⟩ := admitted_of_winner winner
    obtain ⟨role, ownLayer⟩ := orderly.rules rule member
    rw [answer]
    refine ⟨by simp [known, role], by simp [known], ?_⟩
    rintro _ ⟨⟩
    exact ⟨ownLayer.symm, admitted⟩

theorem coherent_unresolved : Passport.unresolved.Coherent where
  root := nofun
  shared := nofun
  sideless := by decide
  sided := by decide
  unfound := by decide
  unnamed := by decide
  ruleLayer := nofun

theorem coherent_passport (orderly : book.Orderly) (folders : List String) (stem : String) :
    (book.passport folders stem).Coherent := by
  obtain ⟨sideless, sided⟩ := direction_spec orderly (Discovery.ofPath book folders stem)
  obtain ⟨unfound, unnamed, ruleLayer⟩ :=
    role_spec orderly ((Discovery.ofPath book folders stem).coordinates book) stem
  refine ⟨fun scope => ?_, Territory.ofPath_of_shared, sideless, sided, unfound, unnamed, ruleLayer⟩
  obtain ⟨context, zone⟩ := Territory.ofPath_of_root scope
  exact ⟨context, if_pos scope, zone⟩

section Winner

variable {folders : List String} {stem : String} {rule : Rule}

theorem direction_passport (book : RuleBook) (folders : List String) (stem : String) :
    (book.passport folders stem).direction =
      ((Discovery.ofPath book folders stem).coordinates book).direction := rfl

theorem passport_of_no_winner
    (none : book.winner? ((Discovery.ofPath book folders stem).coordinates book) stem = none) :
    (book.passport folders stem).role = .unknown := by
  have answer := role_of_winner book ((Discovery.ofPath book folders stem).coordinates book) stem
  rw [none] at answer
  exact (passport_of_role answer).1

/-- A rule that wins gives its role and its layer, and one for a single side is on the module's side. -/
theorem passport_of_winner
    (won : book.winner? ((Discovery.ofPath book folders stem).coordinates book) stem = some rule) :
    (book.passport folders stem).role = rule.role ∧
      (book.passport folders stem).ruleLayer = some rule.layer ∧
      (rule.direction = .driving ∨ rule.direction = .driven →
        (book.passport folders stem).direction = rule.direction) := by
  have answer := role_of_winner book ((Discovery.ofPath book folders stem).coordinates book) stem
  rw [won] at answer
  obtain ⟨method, _, answer⟩ := answer
  obtain ⟨role, _, ruleLayer⟩ := passport_of_role answer
  refine ⟨role, ruleLayer, fun side => ?_⟩
  rw [direction_passport]
  obtain ⟨_, same | either | ⟨neither, _⟩⟩ := (admitted_of_winner won).2
  · exact same.symm
  · rw [show rule.direction = .any from either] at side
    rcases side with side | side <;> cases side
  · rw [show rule.direction = .none from neither] at side
    rcases side with side | side <;> cases side

end Winner

/-- The rule that names the role of a file; none for a file outside the root or without a rule. -/
def winnerAt? (book : RuleBook) (root path : Path) : Option Rule :=
  (foldersAndStem? root path).bind fun (folders, stem) =>
    book.winner? ((Discovery.ofPath book folders stem).coordinates book) stem

/-- The books that there are: that of the usual tables, that without rules, and those of tables in which
each row names a known role of its own layer. -/
def IsOffered (book : RuleBook) : Prop :=
  book = standard ∨ book = empty ∨
    ∃ dialect folderRules stemRules, ofSpecs dialect folderRules stemRules = .ok book ∧
      ∀ row ∈ tableRows (folderRules ++ stemRules),
        row.role ≠ .unknown ∧ row.role.layer = row.layer

theorem IsOffered.orderly (offered : book.IsOffered) : book.Orderly := by
  rcases offered with usual | ruleless | ⟨dialect, folderRules, stemRules, accepted, rows⟩
  · rw [usual]
    exact orderly_standard
  · rw [ruleless]
    exact orderly_empty
  · exact orderly_ofSpecs accepted rows

/-- The books that there are are orderly, whatever their patterns are read as. In an orderly book every
passport is coherent, that of a file outside the root too: its role and the layer of its rule are those of
the rule that wins, and a rule for one side only wins at a module on that side. -/
theorem classifyPath_coherent :
    (∀ book : RuleBook, book.IsOffered → book.Orderly) ∧
    ∀ book : RuleBook, book.Orderly → ∀ root path : Path,
      (book.classifyPath root path).Coherent ∧
      (book.winnerAt? root path = none ↔ (book.classifyPath root path).role = .unknown) ∧
      ∀ rule, book.winnerAt? root path = some rule →
        (book.classifyPath root path).role = rule.role ∧
        (book.classifyPath root path).ruleLayer = some rule.layer ∧
        (rule.direction = .driving ∨ rule.direction = .driven →
          (book.classifyPath root path).direction = rule.direction) := by
  refine ⟨fun _ offered => offered.orderly, fun book orderly root path => ?_⟩
  unfold classifyPath winnerAt?
  cases foldersAndStem? root path with
  | none => exact ⟨coherent_unresolved, by simp [Passport.unresolved], fun _ won => by cases won⟩
  | some below =>
    obtain ⟨folders, stem⟩ := below
    rw [Option.bind_some]
    refine ⟨coherent_passport orderly folders stem, ⟨passport_of_no_winner, fun unknown => ?_⟩,
      fun rule => passport_of_winner⟩
    refine Option.eq_none_iff_forall_ne_some.mpr fun rule won => ?_
    exact (orderly.rules rule (admitted_of_winner won).1).1
      ((passport_of_winner won).1.symm.trans unknown)

theorem classifyPath_coherent_standard :
    standard.IsOffered ∧ standard.Orderly ∧
      (standard.classifyPath ⟨"src"⟩ ⟨"src/crm/domain/entities/order.py"⟩).Coherent := by
  obtain ⟨orderly, coherent⟩ := classifyPath_coherent
  have offered : standard.IsOffered := .inl rfl
  exact ⟨offered, orderly standard offered,
    (coherent standard (orderly standard offered) ⟨"src"⟩ ⟨"src/crm/domain/entities/order.py"⟩).1⟩

end RuleBook

end LayerAtlas
