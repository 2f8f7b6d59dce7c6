import LayerAtlas.Proofs.ContextBorder
import LayerAtlas.Proofs.StandardBook

/-!
# Classification without regard to case

No pattern of the usual tables tells the cases of a letter apart. So a path in lower case is classified as
the path itself, but for the names of its context and its zone, which are those of the path in lower case;
and of two paths that agree up to case each is classified as their common path in lower case.
-/
namespace LayerAtlas

section Texts

theorem asciiLower_append (first second : String) :
    asciiLower (first ++ second) = asciiLower first ++ asciiLower second := by
  simp [asciiLower, String.ofList_append]

theorem asciiLower_eq_empty_iff {text : String} : asciiLower text = "" ↔ text = "" := by
  simp [asciiLower]

theorem asciiLower_intercalate (folders : List String) :
    ".".intercalate (folders.map asciiLower) = asciiLower (".".intercalate folders) := by
  induction folders with
  | nil => rfl
  | cons first rest ih =>
    cases rest with
    | nil => simp
    | cons second rest =>
      rw [List.map_cons, List.map_cons, String.intercalate_cons_cons, String.intercalate_cons_cons,
        asciiLower_append, asciiLower_append, ← ih]
      rfl

theorem headD_map_asciiLower (folders : List String) (stem : String) :
    (folders.map asciiLower).headD (asciiLower stem) = asciiLower (folders.headD stem) := by
  cases folders <;> rfl

end Texts

namespace MarkerSet

variable {α : Type} {markers : MarkerSet α}

/-- No row tells the cases apart. -/
def Caseless (markers : MarkerSet α) : Prop :=
  ∀ row ∈ markers.rows, row.2.regex.isCaseless = true

theorem caseless_of_compile {table : List (α × List String)} (compiled : compile .basic table = .ok markers)
    (words : ∀ row ∈ table, TokenPattern.isCaselessSource ("|".intercalate row.2) = true) :
    markers.Caseless := by
  intro row member
  obtain ⟨synonyms, listed, read⟩ := exists_of_mem_rows compiled member
  exact TokenPattern.isCaseless_of_compile (words _ listed) read

theorem lookup_asciiLower (caseless : markers.Caseless) (token : String) :
    markers.lookup (asciiLower token) = markers.lookup token := by
  have first : markers.rows.find? (fun row => row.2.isMatch (asciiLower token)) =
      markers.rows.find? fun row => row.2.isMatch token :=
    List.find?_congr fun row member => Regex.isMatch_asciiLower (caseless row member) token
  unfold lookup
  rw [first]

theorem isMarker_asciiLower (caseless : markers.Caseless) (token : String) :
    markers.isMarker (asciiLower token) = markers.isMarker token := by
  rw [isMarker_eq_isSome_lookup, isMarker_eq_isSome_lookup, lookup_asciiLower caseless]

theorem findSome?_asciiLower (caseless : markers.Caseless) (folders : List String) :
    (folders.map asciiLower).findSome? markers.lookup = folders.findSome? markers.lookup := by
  have same : markers.lookup ∘ asciiLower = markers.lookup := funext (lookup_asciiLower caseless)
  rw [List.findSome?_map, same]

end MarkerSet

namespace Rule

variable {rule : Rule} {pool : List Rule}

theorem isMatch_asciiLower (caseless : rule.pattern.regex.isCaseless = true) (token : String) :
    rule.isMatch (asciiLower token) = rule.isMatch token := by
  unfold isMatch TokenPattern.isMatch
  exact Regex.isMatch_asciiLower caseless token

theorem matchFolders_asciiLower
    (caseless : ∀ rule ∈ pool, rule.pattern.regex.isCaseless = true) (tokens : List String) :
    matchFolders pool (tokens.map asciiLower) = matchFolders pool tokens := by
  have fits : ∀ rule ∈ pool, (tokens.map asciiLower).any rule.isMatch = tokens.any rule.isMatch := by
    intro rule member
    simp only [List.any_map, Function.comp_def, isMatch_asciiLower (caseless rule member)]
  exact List.find?_congr fits

theorem matchStem_asciiLower
    (caseless : ∀ rule ∈ pool, rule.pattern.regex.isCaseless = true) (stem : String) :
    matchStem pool (asciiLower stem) = matchStem pool stem := by
  rw [matchStem_eq, matchStem_eq]
  exact matchFolders_asciiLower caseless [stem]

end Rule

/-- No pattern of the book tells the cases apart. -/
structure RuleBook.Caseless (book : RuleBook) : Prop where
  scopes : book.scopes.Caseless
  layers : book.layers.Caseless
  directions : book.directions.Caseless
  rules : ∀ rule ∈ book.rules, rule.pattern.regex.isCaseless = true
  stemRules : ∀ rule ∈ book.stemRules, rule.pattern.regex.isCaseless = true

def Territory.lower (territory : Territory) : Territory where
  scope := territory.scope
  context := asciiLower territory.context
  zone := territory.zone.map asciiLower
  remaining := territory.remaining.map asciiLower

def Discovery.lower (discovery : Discovery) : Discovery where
  scope := discovery.scope
  context := asciiLower discovery.context
  zone := discovery.zone.map asciiLower
  remaining := discovery.remaining.map asciiLower
  stem := asciiLower discovery.stem
  layerSeed := discovery.layerSeed

/-- The passport with the names of context and zone in lower case. -/
def Passport.lower (passport : Passport) : Passport :=
  { passport with
    context := asciiLower passport.context
    zone := passport.zone.map asciiLower }

/-- Two passports that differ at most in the case of the letters in the names of context and zone. -/
structure Passport.Alike (first second : Passport) : Prop where
  scope : first.scope = second.scope
  context : asciiLower first.context = asciiLower second.context
  zone : first.zone.map asciiLower = second.zone.map asciiLower
  layer : first.layer = second.layer
  direction : first.direction = second.direction
  role : first.role = second.role
  method : first.method = second.method
  ruleLayer : first.ruleLayer = second.ruleLayer

theorem Passport.alike_of_lower {first second : Passport} (same : first.lower = second.lower) :
    first.Alike second := by
  simp only [lower, mk.injEq] at same
  obtain ⟨scope, context, zone, layer, direction, role, method, ruleLayer⟩ := same
  exact ⟨scope, context, zone, layer, direction, role, method, ruleLayer⟩

section Stages

variable {book : RuleBook}

namespace Territory

theorem zoneOf_asciiLower (folders : List String) :
    zoneOf (folders.map asciiLower) = (zoneOf folders).map asciiLower := by
  unfold zoneOf
  simp only [asciiLower_intercalate, asciiLower_eq_empty_iff]
  split <;> rfl

theorem findIdx?_asciiLower (caseless : book.Caseless) (folders : List String) :
    (folders.map asciiLower).findIdx? book.layers.isMarker = folders.findIdx? book.layers.isMarker := by
  have same : book.layers.isMarker ∘ asciiLower = book.layers.isMarker :=
    funext (MarkerSet.isMarker_asciiLower caseless.layers)
  rw [List.findIdx?_map, same]

theorem ofContext_asciiLower (caseless : book.Caseless) (folders : List String) (stem : String) :
    ofContext book (folders.map asciiLower) (asciiLower stem) = (ofContext book folders stem).lower := by
  -- The border lies at the same place on both paths, so both take the same branch.
  have place := findIdx?_asciiLower caseless folders
  cases marked : folders.findIdx? book.layers.isMarker with
  | none =>
    rw [ofContext_of_unmarked marked, ofContext_of_unmarked (place.trans marked), headD_map_asciiLower,
      ← List.map_drop]
    rfl
  | some border =>
    cases border with
    | zero =>
      rw [ofContext_of_front marked, ofContext_of_front (place.trans marked), headD_map_asciiLower]
      rfl
    | succ border =>
      rw [ofContext_of_marked marked, ofContext_of_marked (place.trans marked), ← List.map_drop,
        ← List.map_drop, ← List.map_take, headD_map_asciiLower, zoneOf_asciiLower]
      rfl

theorem ofPath_asciiLower (caseless : book.Caseless) (folders : List String) (stem : String) :
    ofPath book (folders.map asciiLower) (asciiLower stem) = (ofPath book folders stem).lower := by
  have root : asciiLower "root" = "root" := by decide
  have shared : asciiLower "shared" = "shared" := by decide
  unfold ofPath
  rw [headD_map_asciiLower, MarkerSet.lookup_asciiLower caseless.scopes]
  split
  · rw [← List.map_drop, lower, root]
    rfl
  · rw [← List.map_drop, lower, shared]
    rfl
  all_goals exact ofContext_asciiLower caseless folders stem

end Territory

namespace RuleBook

theorem layerOfStem?_asciiLower (caseless : book.Caseless) (stem : String) :
    book.layerOfStem? (asciiLower stem) = book.layerOfStem? stem :=
  congrArg (Option.map fun rule : Rule => rule.layer)
    (Rule.matchStem_asciiLower caseless.stemRules stem)

theorem isMarker_asciiLower (caseless : book.Caseless) (token : String) :
    book.isMarker (asciiLower token) = book.isMarker token := by
  unfold isMarker
  rw [MarkerSet.isMarker_asciiLower caseless.scopes, MarkerSet.isMarker_asciiLower caseless.layers,
    MarkerSet.isMarker_asciiLower caseless.directions]

end RuleBook

namespace Discovery

theorem ofPath_asciiLower (caseless : book.Caseless) (folders : List String) (stem : String) :
    ofPath book (folders.map asciiLower) (asciiLower stem) = (ofPath book folders stem).lower := by
  unfold ofPath
  simp only [Territory.ofPath_asciiLower caseless, Territory.lower,
    MarkerSet.findSome?_asciiLower caseless.layers, RuleBook.layerOfStem?_asciiLower caseless]
  rfl

theorem direction_lower (caseless : book.Caseless) (discovery : Discovery) :
    discovery.lower.direction book = discovery.direction book := by
  have side : discovery.lower.remaining.findSome? book.directions.lookup =
      discovery.remaining.findSome? book.directions.lookup :=
    MarkerSet.findSome?_asciiLower caseless.directions discovery.remaining
  unfold Discovery.direction
  rw [side]
  rfl

theorem tokens_lower (caseless : book.Caseless) (discovery : Discovery) :
    (discovery.lower.coordinates book).tokens =
      (discovery.coordinates book).tokens.map asciiLower := by
  have kept : (fun folder => !book.isMarker folder) ∘ asciiLower = fun folder => !book.isMarker folder :=
    funext fun folder => congrArg not (RuleBook.isMarker_asciiLower caseless folder)
  change (discovery.remaining.map asciiLower).filter _ = _
  rw [List.filter_map, kept]
  rfl

theorem coordinates_lower (caseless : book.Caseless) (discovery : Discovery) :
    discovery.lower.coordinates book =
      { discovery.coordinates book with
        tokens := (discovery.coordinates book).tokens.map asciiLower } := by
  rw [← tokens_lower caseless]
  change Coordinates.mk _ (discovery.lower.direction book) _ = _
  rw [direction_lower caseless]
  rfl

end Discovery

namespace RuleBook

theorem role_asciiLower (caseless : book.Caseless) (coordinates : Coordinates) (stem : String) :
    book.role { coordinates with tokens := coordinates.tokens.map asciiLower } (asciiLower stem) =
      book.role coordinates stem := by
  have pool : ∀ rule ∈ book.pool coordinates.layer coordinates.direction,
      rule.pattern.regex.isCaseless = true :=
    fun rule member => caseless.rules rule (mem_pool.mp member).1
  unfold role
  simp only [Rule.matchFolders_asciiLower pool, Rule.matchStem_asciiLower pool]

/-- A path in lower case is classified as the path is. -/
theorem passport_asciiLower (caseless : book.Caseless) (folders : List String) (stem : String) :
    book.passport (folders.map asciiLower) (asciiLower stem) = (book.passport folders stem).lower := by
  unfold passport
  simp only [Discovery.ofPath_asciiLower caseless, Discovery.coordinates_lower caseless,
    role_asciiLower caseless]
  rfl

end RuleBook

end Stages

namespace RuleBook

variable {book : RuleBook} {folderRules stemRules : List RuleSpec}

theorem caseless_ofSpecs (accepted : ofSpecs .basic folderRules stemRules = .ok book)
    (rows : ∀ row ∈ RuleSpec.tableRows (folderRules ++ stemRules),
      TokenPattern.isCaselessSource row.source = true) : book.Caseless := by
  obtain ⟨_, _, _, _, scopes, layers, directions, _, _⟩ := exists_of_ofSpecs accepted
  have compiled := (ofSpecs_eq_ok accepted).2
  obtain ⟨scopeWords, layerWords, directionWords⟩ := Tables.caseless_words
  have rules : ∀ rule ∈ book.rules, rule.pattern.regex.isCaseless = true := by
    intro rule member
    have caseless : TokenPattern.isCaselessSource rule.pattern.source = true :=
      rows rule.row (row_mem_tableRows accepted member)
    exact TokenPattern.isCaseless_of_compile caseless (compiled rule member)
  exact ⟨MarkerSet.caseless_of_compile scopes scopeWords,
    MarkerSet.caseless_of_compile layers layerWords,
    MarkerSet.caseless_of_compile directions directionWords, rules,
    fun rule member => rules rule (mem_stemRules accepted member).1⟩

theorem caseless_standard : standard.Caseless :=
  caseless_ofSpecs accepted_standard Tables.caseless_rows

/-- In a caseless book two paths that agree up to case are classified alike. -/
theorem alike_classifyPath (caseless : book.Caseless) {root path other : Path}
    {folders otherFolders : List String} {stem otherStem : String}
    (below : foldersAndStem? root path = some (folders, stem))
    (otherBelow : foldersAndStem? root other = some (otherFolders, otherStem))
    (sameFolders : folders.map asciiLower = otherFolders.map asciiLower)
    (sameStem : asciiLower stem = asciiLower otherStem) :
    (book.classifyPath root path).Alike (book.classifyPath root other) := by
  rw [classifyPath_eq_passport below, classifyPath_eq_passport otherBelow]
  apply Passport.alike_of_lower
  rw [← passport_asciiLower caseless, ← passport_asciiLower caseless, sameFolders, sameStem]

/-- Two paths whose folders and stems agree up to the case of letters get the same passport, but for the
case of the letters in the names of context and zone. -/
theorem classifyPath_ignores_case {root path other : Path} {folders otherFolders : List String}
    {stem otherStem : String} (below : foldersAndStem? root path = some (folders, stem))
    (otherBelow : foldersAndStem? root other = some (otherFolders, otherStem))
    (sameFolders : folders.map asciiLower = otherFolders.map asciiLower)
    (sameStem : asciiLower stem = asciiLower otherStem) :
    (standard.classifyPath root path).Alike (standard.classifyPath root other) :=
  alike_classifyPath caseless_standard below otherBelow sameFolders sameStem

theorem classifyPath_ignores_case_order :
    let path : Path := ⟨"src/Sales/BILLING/Domain/Entities/Order.py"⟩
    let other : Path := ⟨"src/sales/billing/DOMAIN/entities/order.py"⟩
    let folders := ["Sales", "BILLING", "Domain", "Entities"]
    let otherFolders := ["sales", "billing", "DOMAIN", "entities"]
    foldersAndStem? ⟨"src"⟩ path = some (folders, "Order") ∧
      foldersAndStem? ⟨"src"⟩ other = some (otherFolders, "order") ∧
      folders.map asciiLower = otherFolders.map asciiLower ∧ asciiLower "Order" = asciiLower "order" ∧
      (standard.classifyPath ⟨"src"⟩ path).Alike (standard.classifyPath ⟨"src"⟩ other) := by
  intro path other folders otherFolders
  have below : foldersAndStem? ⟨"src"⟩ path = some (folders, "Order") := by decide +kernel
  have otherBelow : foldersAndStem? ⟨"src"⟩ other = some (otherFolders, "order") := by decide +kernel
  have sameFolders : folders.map asciiLower = otherFolders.map asciiLower := by decide
  have sameStem : asciiLower "Order" = asciiLower "order" := by decide
  exact ⟨below, otherBelow, sameFolders, sameStem,
    classifyPath_ignores_case below otherBelow sameFolders sameStem⟩

end RuleBook

end LayerAtlas
