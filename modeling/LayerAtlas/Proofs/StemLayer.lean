import LayerAtlas.Proofs.ContextBorder
import LayerAtlas.Proofs.StandardBook

/-!
# Layers that a stem suggests

Where no folder names a layer, the stem suggests one by the first rule for stems that matches it, whatever
side that rule is for. The role is then sought among the rules that the layer and the side admit. Where no
folder names the side, it is open in a layer with sides, which admits rules for no side and for either, and
none for one side alone. So a stem can suggest a layer and still name no role, but only by rules that are
each for one side.
-/
namespace LayerAtlas

/-- What a book says about a word can be read off the table. -/
theorem MarkerSet.isMarker_of_compile {α : Type} {table : List (α × List String)}
    {markers : MarkerSet α} {token : String} {marked : Bool} (compiled : compile .basic table = .ok markers)
    (seen : (compile .basic table).toOption.map (·.isMarker token) = some marked) :
    markers.isMarker token = marked := by
  rw [compiled] at seen
  exact Option.some.inj seen

/-- Whether the pattern of the row, as rules read it, matches a token. -/
def RuleRow.isMatch (row : RuleRow) (token : String) : Bool :=
  match TokenPattern.compile .basic row.source with
  | .ok pattern => pattern.isMatch token
  | .error _ => false

theorem RuleRow.isMatch_eq (row : RuleRow) (token : String) :
    row.isMatch token =
      match TokenPattern.ofLetters row.source.toList with
      | .ok regex => regex.isMatch token
      | .error _ => false := by
  unfold isMatch TokenPattern.compile
  change _ = match Regex.parse .basic (TokenPattern.anchored row.source) with
    | .ok regex => regex.isMatch token
    | .error _ => false
  cases Regex.parse .basic (TokenPattern.anchored row.source) <;> rfl

namespace Territory

variable {book : RuleBook} {folders : List String} {stem folder : String}

theorem mem_of_mem_ofContext (left : folder ∈ (ofContext book folders stem).remaining) :
    folder ∈ folders := by
  cases marked : folders.findIdx? book.layers.isMarker with
  | none =>
    rw [ofContext_of_unmarked marked] at left
    exact List.mem_of_mem_drop left
  | some border =>
    cases border with
    | zero => rwa [ofContext_of_front marked] at left
    | succ border =>
      rw [ofContext_of_marked marked] at left
      exact List.mem_of_mem_drop left

/-- What remains of a path is part of it. -/
theorem mem_of_mem_ofPath (left : folder ∈ (ofPath book folders stem).remaining) :
    folder ∈ folders := by
  unfold ofPath at left
  split at left
  · exact List.mem_of_mem_drop left
  · exact List.mem_of_mem_drop left
  all_goals exact mem_of_mem_ofContext left

end Territory

namespace Discovery

variable {book : RuleBook} {folders : List String} {stem : String}

/-- Where no folder is a layer marker, the stem alone tells the layer. -/
theorem layerSeed_of_unmarked (unmarked : ∀ folder ∈ folders, book.layers.isMarker folder = false) :
    (ofPath book folders stem).layerSeed = (book.layerOfStem? stem).getD .undefined := by
  have nothing : (Territory.ofPath book folders stem).remaining.findSome? book.layers.lookup = none :=
    MarkerSet.findSome?_of_unmarked fun folder left =>
      unmarked folder (Territory.mem_of_mem_ofPath left)
  rw [layerSeed_ofPath, nothing, Option.none_or]

/-- Where no folder is a marker for a side, the layer alone tells the side. -/
theorem direction_of_unmarked
    (unmarked : ∀ folder ∈ folders, book.directions.isMarker folder = false) :
    (ofPath book folders stem).direction book =
      if (ofPath book folders stem).layer.isDirectional ∨ (ofPath book folders stem).layer = .undefined
      then .undefined else .none := by
  have nothing : (ofPath book folders stem).remaining.findSome? book.directions.lookup = none :=
    MarkerSet.findSome?_of_unmarked fun folder left =>
      unmarked folder (Territory.mem_of_mem_ofPath left)
  unfold direction
  rw [nothing]
  rfl

end Discovery

/-- In a layer with sides that is open and in one without sides alike, a row of the layer is admitted that is
not for one side alone. -/
theorem RuleRow.admittedAt_of_plain {row : RuleRow} {layer : Layer} (own : row.layer = layer)
    (plain : row.direction = .none ∨ row.direction = .any) :
    row.AdmittedAt layer (if layer.isDirectional then .undefined else .none) := by
  refine ⟨.inl own, ?_⟩
  rcases plain with neither | either
  · cases layer.isDirectional with
    | false => exact .inl neither
    | true => exact .inr (.inr ⟨neither, rfl⟩)
  · exact .inr (.inl either)

/-- The layer that the stem suggests is that of the passport, and the side is open where the layer has
sides. The role is known just in case a rule of the pool matches a searched folder or the stem, and it is
missing only in a layer with sides of which each rule that matches the stem is for one side. -/
structure Passport.SuggestedByStem (book : RuleBook) (layer : Layer) (folders : List String)
    (stem : String) (passport : Passport) : Prop where
  settled : passport.layer = layer
  side : passport.direction = if layer.isDirectional then .undefined else .none
  known : passport.role ≠ .unknown ↔ ∃ rule ∈ book.pool passport.layer passport.direction,
    (∃ folder ∈ book.searchedFolders folders stem, rule.isMatch folder = true) ∨
      rule.isMatch stem = true
  missing : passport.role = .unknown → layer.isDirectional = true ∧
    ∀ rule ∈ book.rules, rule.layer = layer → rule.isMatch stem = true →
      rule.direction = .driving ∨ rule.direction = .driven

namespace RuleBook

variable {book : RuleBook} {layer : Layer} {folders : List String} {stem : String}

theorem role_passport (book : RuleBook) (folders : List String) (stem : String) :
    (book.passport folders stem).role =
      (book.role ((Discovery.ofPath book folders stem).coordinates book) stem).1 := rfl

/-- There is a winner where a rule of the pool matches a token or the stem. -/
theorem isSome_winner?_iff {coordinates : Coordinates} :
    (book.winner? coordinates stem).isSome = true ↔
      ∃ rule ∈ book.pool coordinates.layer coordinates.direction,
        (∃ token ∈ coordinates.tokens, rule.isMatch token = true) ∨ rule.isMatch stem = true := by
  unfold winner? Rule.matchFolders Rule.matchStem
  simp only [Option.isSome_or, Bool.or_eq_true, List.find?_isSome, List.any_eq_true]
  constructor
  · rintro (⟨rule, pooled, covered⟩ | ⟨rule, pooled, covered⟩)
    · exact ⟨rule, pooled, .inl covered⟩
    · exact ⟨rule, pooled, .inr covered⟩
  · rintro ⟨rule, pooled, covered | covered⟩
    · exact .inl ⟨rule, pooled, covered⟩
    · exact .inr ⟨rule, pooled, covered⟩

/-- In an orderly book the role is known where there is a winner. -/
theorem role_ne_unknown_iff (orderly : book.Orderly) (coordinates : Coordinates) (stem : String) :
    (book.role coordinates stem).1 ≠ .unknown ↔ (book.winner? coordinates stem).isSome = true := by
  have answer := role_of_winner book coordinates stem
  cases winner : book.winner? coordinates stem with
  | none =>
    rw [winner] at answer
    rw [answer]
    simp
  | some rule =>
    rw [winner] at answer
    obtain ⟨method, _, answer⟩ := answer
    rw [answer]
    simpa using (orderly.rules rule (admitted_of_winner winner).1).1

/-- The layer that a stem suggests is that of a rule for stems that matches it. -/
theorem exists_of_layerOfStem? (suggested : book.layerOfStem? stem = some layer) :
    ∃ rule ∈ book.stemRules, rule.isMatch stem = true ∧ rule.layer = layer := by
  obtain ⟨rule, first, named⟩ := Option.map_eq_some_iff.mp suggested
  have covered := List.find?_some first
  exact ⟨rule, List.mem_of_find?_eq_some first, covered, named⟩

/-- Where all rules for stems that match are of one layer, the stem suggests it. -/
theorem layerOfStem?_eq_some {rule : Rule} (listed : rule ∈ book.stemRules)
    (isMatch : rule.isMatch stem = true)
    (agree : ∀ rule ∈ book.stemRules, rule.isMatch stem = true → rule.layer = layer) :
    book.layerOfStem? stem = some layer := by
  unfold layerOfStem?
  cases first : book.stemRules.find? fun rule => rule.isMatch stem with
  | none => exact absurd isMatch (List.find?_eq_none.mp first rule listed)
  | some found =>
    have covered := List.find?_some first
    rw [Option.map_some, agree found (List.mem_of_find?_eq_some first) covered]

/-- The rules for stems are rules of the book, each for a layer, and for one side only in a layer that has
sides. No rule is for an open side. -/
structure Sided (book : RuleBook) : Prop where
  listed : ∀ rule ∈ book.stemRules, rule ∈ book.rules
  layered : ∀ rule ∈ book.stemRules, rule.layer ≠ .undefined
  sideless : ∀ rule ∈ book.stemRules, rule.layer.isDirectional = false →
    rule.direction = .none ∨ rule.direction = .any
  settled : ∀ rule ∈ book.rules, rule.direction ≠ .undefined

section Suggested

variable (sided : book.Sided) (orderly : book.Orderly)
  (unmarked : ∀ folder ∈ folders,
    book.layers.isMarker folder = false ∧ book.directions.isMarker folder = false)
  (placed : (Discovery.ofPath book folders stem).scope ≠ .root)
  (suggested : book.layerOfStem? stem = some layer)

include unmarked placed suggested in
theorem layer_of_suggested : (Discovery.ofPath book folders stem).layer = layer := by
  have seed : (Discovery.ofPath book folders stem).layerSeed = (book.layerOfStem? stem).getD .undefined :=
    Discovery.layerSeed_of_unmarked fun folder member => (unmarked folder member).1
  unfold Discovery.layer
  rw [if_neg placed, seed, suggested, Option.getD_some]

include sided unmarked placed suggested in
/-- The side is open in a layer with sides, and there is none in any other. -/
theorem direction_of_suggested :
    (Discovery.ofPath book folders stem).direction book =
      if layer.isDirectional then .undefined else .none := by
  obtain ⟨rule, listed, _, named⟩ := exists_of_layerOfStem? suggested
  have known : layer ≠ .undefined := named ▸ sided.layered rule listed
  rw [Discovery.direction_of_unmarked fun folder member => (unmarked folder member).2,
    layer_of_suggested unmarked placed suggested]
  simp only [known, or_false]

include sided orderly unmarked placed suggested in
/-- A rule of the layer that is not for one side alone names a role where it matches the stem. -/
theorem role_of_plain {rule : Rule} (inBook : rule ∈ book.rules) (own : rule.layer = layer)
    (plain : rule.direction = .none ∨ rule.direction = .any) (covered : rule.isMatch stem = true) :
    (book.passport folders stem).role ≠ .unknown := by
  rw [role_passport, role_ne_unknown_iff orderly, isSome_winner?_iff]
  refine ⟨rule, mem_pool.mpr ⟨inBook, ?_⟩, .inr covered⟩
  change rule.row.AdmittedAt (Discovery.ofPath book folders stem).layer
    ((Discovery.ofPath book folders stem).direction book)
  rw [layer_of_suggested unmarked placed suggested,
    direction_of_suggested sided unmarked placed suggested]
  exact RuleRow.admittedAt_of_plain own plain

include sided orderly unmarked placed suggested in
/-- A role is missing only in a layer with sides, and only where each rule of the layer that matches the
stem is for one side. -/
theorem one_sided_of_unknown (unknown : (book.passport folders stem).role = .unknown) :
    layer.isDirectional = true ∧ ∀ rule ∈ book.rules, rule.layer = layer → rule.isMatch stem = true →
      rule.direction = .driving ∨ rule.direction = .driven := by
  have known {rule : Rule} (inBook : rule ∈ book.rules) (own : rule.layer = layer)
      (covered : rule.isMatch stem = true) : ¬(rule.direction = .none ∨ rule.direction = .any) :=
    fun plain => role_of_plain sided orderly unmarked placed suggested inBook own plain covered unknown
  constructor
  · obtain ⟨rule, listed, covered, own⟩ := exists_of_layerOfStem? suggested
    by_contra sideless
    rw [Bool.not_eq_true] at sideless
    exact known (sided.listed rule listed) own covered (sided.sideless rule listed (own ▸ sideless))
  · intro rule inBook own covered
    have plain := known inBook own covered
    have settled := sided.settled rule inBook
    cases direction : rule.direction <;> simp_all

end Suggested

theorem passport_of_suggested (sided : book.Sided) (orderly : book.Orderly)
    (unmarked : ∀ folder ∈ folders,
      book.layers.isMarker folder = false ∧ book.directions.isMarker folder = false)
    (placed : (book.passport folders stem).scope ≠ .root)
    (suggested : book.layerOfStem? stem = some layer) :
    (book.passport folders stem).SuggestedByStem book layer folders stem where
  settled := layer_of_suggested unmarked placed suggested
  side := direction_of_suggested sided unmarked placed suggested
  known := by
    rw [role_passport, role_ne_unknown_iff orderly, isSome_winner?_iff]
    rfl
  missing := one_sided_of_unknown sided orderly unmarked placed suggested

open RuleSpec (tableRows)

variable {folderRules stemRules : List RuleSpec}

theorem sided_ofSpecs {dialect : PatternDialect} (accepted : ofSpecs dialect folderRules stemRules = .ok book)
    (sideless : ∀ row ∈ tableRows stemRules, row.layer.isDirectional = false →
      row.direction = .none ∨ row.direction = .any)
    (settled : ∀ row ∈ tableRows (folderRules ++ stemRules), row.direction ≠ .undefined) :
    book.Sided where
  listed := fun _ member => (mem_stemRules accepted member).1
  layered := fun _ member => (mem_stemRules accepted member).2.2
  sideless := fun rule member => sideless rule.row (mem_stemRules accepted member).2.1
  settled := fun rule member => settled rule.row (row_mem_tableRows accepted member)

theorem sided_standard : standard.Sided :=
  sided_ofSpecs accepted_standard (by decide +kernel) (by decide +kernel)

theorem isMatch_row (accepted : ofSpecs .basic folderRules stemRules = .ok book) {rule : Rule}
    (inBook : rule ∈ book.rules) (token : String) : rule.row.isMatch token = rule.isMatch token := by
  have compiled : TokenPattern.compile .basic rule.row.source = .ok rule.pattern :=
    (ofSpecs_eq_ok accepted).2 rule inBook
  unfold RuleRow.isMatch
  rw [compiled]
  rfl

/-- Where all rows for stems that match are of one layer, the stem suggests it. -/
theorem layerOfStem?_of_rows (accepted : ofSpecs .basic folderRules stemRules = .ok book) {row : RuleRow}
    (listed : row ∈ tableRows stemRules) (covered : row.isMatch stem = true)
    (known : layer ≠ .undefined)
    (agree : ∀ row ∈ tableRows stemRules, row.isMatch stem = true → row.layer = layer) :
    book.layerOfStem? stem = some layer := by
  have layered : row.layer ≠ .undefined := agree row listed covered ▸ known
  obtain ⟨rule, member, rfl⟩ := exists_stemRule accepted listed layered
  refine layerOfStem?_eq_some member ?_ ?_
  · exact (isMatch_row accepted (mem_stemRules accepted member).1 stem).symm.trans covered
  · intro other otherMember otherCovered
    obtain ⟨inBook, otherListed, _⟩ := mem_stemRules accepted otherMember
    exact agree other.row otherListed ((isMatch_row accepted inBook stem).trans otherCovered)

section Billing

/-- The folder is no marker in any book. -/
theorem unmarked_billing (accepted : ofSpecs .basic folderRules stemRules = .ok book) :
    book.scopes.isMarker "billing" = false ∧ book.layers.isMarker "billing" = false ∧
      book.directions.isMarker "billing" = false := by
  obtain ⟨_, _, _, _, scopes, layers, directions, _, _⟩ := exists_of_ofSpecs accepted
  exact ⟨MarkerSet.isMarker_of_compile scopes (by decide +kernel),
    MarkerSet.isMarker_of_compile layers (by decide +kernel),
    MarkerSet.isMarker_of_compile directions (by decide +kernel)⟩

theorem ofPath_billing (accepted : ofSpecs .basic folderRules stemRules = .ok book) (stem : String) :
    Territory.ofPath book ["billing"] stem = ⟨.context, "billing", none, []⟩ := by
  obtain ⟨plain, unmarked, _⟩ := unmarked_billing accepted
  have scopeless : book.scopes.isMarker (["billing"].headD stem) = false := plain
  have borderless : ["billing"].findIdx? book.layers.isMarker = none := by
    rw [List.findIdx?_eq_none_iff, List.forall_mem_singleton]
    exact unmarked
  exact (Territory.ofPath_of_plain scopeless).trans (Territory.ofContext_of_unmarked borderless)

theorem scope_billing (accepted : ofSpecs .basic folderRules stemRules = .ok book) (stem : String) :
    (book.passport ["billing"] stem).scope = .context :=
  congrArg Territory.scope (ofPath_billing accepted stem)

/-- Whether a row that is spelled out matches the stem of a broker only if it is that of the brokers, and the
stem of a facade only if it is for ports. -/
def matchesPortsOnly (row : RuleRow × List Char) : Bool :=
  match TokenPattern.ofLetters row.2 with
  | .ok regex =>
    (!regex.isMatch "order_broker" || row.1 = ⟨.port .broker, .ports, .driven, ".+_broker"⟩) &&
      (!regex.isMatch "facade" || row.1.layer = .ports)
  | .error _ => true

/-- A single row matches the stem of a broker, and all rows that match that of a facade are for ports. -/
theorem matching_rows : ∀ row ∈ tableRows (Tables.folderRules ++ Tables.stemRules),
    (row.isMatch "order_broker" = true → row = ⟨.port .broker, .ports, .driven, ".+_broker"⟩) ∧
      (row.isMatch "facade" = true → row.layer = .ports) := by
  have spelled : (RuleSpec.spelledRows (Tables.folderRules ++ Tables.stemRules)).all
      matchesPortsOnly = true := by
    rw [RuleSpec.spelledRows, RuleSpec.tableRows_append]
    simp only [tableRows, RuleSpec.rows, Tables.folderRules, Tables.stemRules, Tables.rule,
      List.flatMap_cons, List.flatMap_nil, List.map_append, List.map_cons, List.map_nil,
      String.reduceToList]
    decide +kernel
  intro row listed
  have only := RuleSpec.forall_of_spelledRows spelled row listed
  rw [RuleRow.isMatch_eq, RuleRow.isMatch_eq]
  unfold matchesPortsOnly at only
  cases read : TokenPattern.ofLetters row.source.toList with
  | error fault => simp
  | ok regex =>
    rw [read] at only
    simpa [← Bool.not_eq_true, ← imp_iff_not_or] using only

theorem mem_of_stem_row {row : RuleRow} (listed : row ∈ tableRows Tables.stemRules) :
    row ∈ tableRows (Tables.folderRules ++ Tables.stemRules) := by
  rw [RuleSpec.tableRows_append]
  exact List.mem_append_right _ listed

theorem unmarked_standard : ∀ folder ∈ ["billing"],
    standard.layers.isMarker folder = false ∧ standard.directions.isMarker folder = false :=
  List.forall_mem_singleton.2 (unmarked_billing accepted_standard).2

theorem placed_standard (stem : String) : (standard.passport ["billing"] stem).scope ≠ .root := by
  rw [scope_billing accepted_standard]
  decide

/-- No rule that is admitted among the ports while the side is open matches the stem of a broker. -/
theorem unfit_broker : ∀ rule ∈ standard.pool .ports .undefined, rule.isMatch "order_broker" = false := by
  intro rule pooled
  obtain ⟨inBook, _, admitted⟩ := mem_pool.mp pooled
  have listed := row_mem_tableRows accepted_standard inBook
  by_contra covered
  rw [Bool.not_eq_false, ← isMatch_row accepted_standard inBook] at covered
  rw [(matching_rows rule.row listed).1 covered] at admitted
  rcases admitted with same | either | ⟨neither, _⟩
  · cases same
  · cases either
  · cases neither

end Billing

/-- Below the root, where no folder is a marker for a layer or a side and the scope is not that of the
root, a layer that the stem suggests is that of the module. -/
theorem classifyPath_of_suggested {root path : Path}
    (below : foldersAndStem? root path = some (folders, stem))
    (unmarked : ∀ folder ∈ folders,
      standard.layers.isMarker folder = false ∧ standard.directions.isMarker folder = false)
    (placed : (standard.classifyPath root path).scope ≠ .root)
    (suggested : standard.layerOfStem? stem = some layer) :
    (standard.classifyPath root path).SuggestedByStem standard layer folders stem := by
  rw [classifyPath_eq_passport below] at placed ⊢
  exact passport_of_suggested sided_standard orderly_standard unmarked placed suggested

theorem classifyPath_of_suggested_facade :
    let path : Path := ⟨"src/billing/facade.py"⟩
    foldersAndStem? ⟨"src"⟩ path = some (["billing"], "facade") ∧
      (∀ folder ∈ ["billing"],
        standard.layers.isMarker folder = false ∧ standard.directions.isMarker folder = false) ∧
      (standard.classifyPath ⟨"src"⟩ path).scope ≠ .root ∧
      standard.layerOfStem? "facade" = some .ports ∧
      (standard.classifyPath ⟨"src"⟩ path).SuggestedByStem standard .ports ["billing"] "facade" := by
  intro path
  have below : foldersAndStem? ⟨"src"⟩ path = some (["billing"], "facade") := by decide +kernel
  have placed : (standard.classifyPath ⟨"src"⟩ path).scope ≠ .root := by
    rw [classifyPath_eq_passport below]
    exact placed_standard "facade"
  have listed : ⟨.port .facade, .ports, .driving, "facade"⟩ ∈ tableRows Tables.stemRules := by
    decide +kernel
  have suggested : standard.layerOfStem? "facade" = some .ports :=
    layerOfStem?_of_rows accepted_standard listed (by decide +kernel) (by decide)
      fun row member => (matching_rows row (mem_of_stem_row member)).2
  exact ⟨below, unmarked_standard, placed, suggested,
    classifyPath_of_suggested below unmarked_standard placed suggested⟩

/-- A stem can suggest a layer by a rule for one side, and then name no role. -/
theorem one_sided_stem_names_no_role :
    let path : Path := ⟨"src/billing/order_broker.py"⟩
    let passport := standard.classifyPath ⟨"src"⟩ path
    foldersAndStem? ⟨"src"⟩ path = some (["billing"], "order_broker") ∧
      (∀ folder ∈ ["billing"],
        standard.layers.isMarker folder = false ∧ standard.directions.isMarker folder = false) ∧
      passport.scope ≠ .root ∧ standard.layerOfStem? "order_broker" = some .ports ∧
      passport.layer = .ports ∧ passport.direction = .undefined ∧ passport.role = .unknown ∧
      ∀ rule ∈ standard.pool .ports .undefined, rule.isMatch "order_broker" = false := by
  have below : foldersAndStem? ⟨"src"⟩ ⟨"src/billing/order_broker.py"⟩ =
      some (["billing"], "order_broker") := by
    decide +kernel
  have placed := placed_standard "order_broker"
  have listed : ⟨.port .broker, .ports, .driven, ".+_broker"⟩ ∈ tableRows Tables.stemRules := by
    decide +kernel
  have suggested : standard.layerOfStem? "order_broker" = some .ports := by
    refine layerOfStem?_of_rows accepted_standard listed (by decide +kernel) (by decide) ?_
    intro row member covered
    rw [(matching_rows row (mem_of_stem_row member)).1 covered]
  have told := passport_of_suggested sided_standard orderly_standard unmarked_standard placed suggested
  have searched : standard.searchedFolders ["billing"] "order_broker" = [] := by
    unfold searchedFolders
    rw [ofPath_billing accepted_standard]
    rfl
  have side := told.side.trans (if_pos rfl)
  -- The passport is named only here: the evaluations above would carry the whole book along with it.
  intro path passport
  rw [show passport = standard.passport ["billing"] "order_broker" from classifyPath_eq_passport below]
  refine ⟨below, unmarked_standard, placed, suggested, told.settled, side, ?_, unfit_broker⟩
  by_contra known
  obtain ⟨rule, pooled, ⟨folder, member, _⟩ | covered⟩ := told.known.mp known
  · rw [searched] at member
    cases member
  · rw [told.settled, side] at pooled
    rw [unfit_broker rule pooled] at covered
    cases covered

end RuleBook

end LayerAtlas
