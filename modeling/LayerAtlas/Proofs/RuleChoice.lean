import LayerAtlas.Classify.Classification
import LayerAtlas.Proofs.RuleTable

/-!
# The rule that is chosen

Of the rules that are admitted at the coordinates of a module and fit one of its folders, the one that
names its role is the least by the weight of its layer, then by the length of its pattern, longer first,
then by its place in the tables. Sorting keeps the places of equal rules, so the first fitting rule of a
sorted pool is the least of all.
-/
namespace LayerAtlas

/-! Sorting that keeps the places of equals. -/

section Stability

variable {α : Type} {le : α → α → Bool} {before : α → α → Prop}

/-- The places of a list stand in their order. -/
theorem pairwise_lt_zipIdx (items : List α) : items.zipIdx.Pairwise fun p q => p.2 < q.2 := by
  rw [← List.pairwise_map (f := Prod.snd) (R := (· < ·)), List.zipIdx_map_snd]
  exact List.pairwise_lt_range'

/-- What comes before what in a list still does after sorting, among items that are equal. -/
theorem pairwise_mergeSort_of_pairwise (trans : ∀ a b c, le a b → le b c → le a c)
    (total : ∀ a b, le a b || le b a) {items : List α} (placed : items.Pairwise before) :
    (items.mergeSort le).Pairwise fun a b => le a b ∧ (le b a → before a b) := by
  have sorted := List.pairwise_mergeSort (List.zipIdxLE_trans trans) (List.zipIdxLE_total total)
    items.zipIdx
  have perm := List.mergeSort_perm items.zipIdx (List.zipIdxLE le)
  have distinct : (items.zipIdx.mergeSort (List.zipIdxLE le)).Pairwise fun p q => p.2 ≠ q.2 :=
    (perm.pairwise_iff fun differ same => differ same.symm).mpr
      ((pairwise_lt_zipIdx items).imp Nat.ne_of_lt)
  rw [← List.mergeSort_zipIdx, List.pairwise_map]
  refine (sorted.and distinct).imp_of_mem ?_
  rintro ⟨a, i⟩ ⟨b, j⟩ listedA listedB ⟨ordered, differ⟩
  have placeA : items[i]? = some a := List.mem_zipIdx_iff_getElem?.mp (perm.mem_iff.mp listedA)
  have placeB : items[j]? = some b := List.mem_zipIdx_iff_getElem?.mp (perm.mem_iff.mp listedB)
  obtain ⟨boundA, rfl⟩ := List.getElem?_eq_some_iff.mp placeA
  obtain ⟨boundB, rfl⟩ := List.getElem?_eq_some_iff.mp placeB
  unfold List.zipIdxLE at ordered
  dsimp only at ordered differ ⊢
  split at ordered
  · next forward =>
    refine ⟨forward, fun back => ?_⟩
    rw [if_pos back] at ordered
    exact List.pairwise_iff_getElem.mp placed i j boundA boundB
      (Nat.lt_of_le_of_ne (of_decide_eq_true ordered) differ)
  · cases ordered

end Stability

namespace Rule

theorem goesBefore_iff {a b : Rule} :
    a.goesBefore b = true ↔ a.weight < b.weight ∨ a.weight = b.weight ∧
      b.pattern.source.utf8ByteSize ≤ a.pattern.source.utf8ByteSize := by
  simp [goesBefore]

theorem goesBefore_trans (a b c : Rule) (first : a.goesBefore b) (second : b.goesBefore c) :
    a.goesBefore c := by
  rw [goesBefore_iff] at first second ⊢
  omega

theorem goesBefore_total (a b : Rule) : a.goesBefore b || b.goesBefore a := by
  rw [Bool.or_eq_true, goesBefore_iff, goesBefore_iff]
  omega

/-- A stem is searched as a single folder is. -/
theorem matchStem_eq (pool : List Rule) (stem : String) :
    matchStem pool stem = matchFolders pool [stem] := by
  simp only [matchStem, matchFolders, List.any_cons, List.any_nil, Bool.or_false]

end Rule

namespace RuleRow

/-- One place of a table comes before another: by the weight of the layer, then by the length of the
pattern in bytes, longer first, then by position. -/
def Precedes (first second : RuleRow × Nat) : Prop :=
  first.1.layer.weight < second.1.layer.weight ∨
    first.1.layer.weight = second.1.layer.weight ∧
      (second.1.source.utf8ByteSize < first.1.source.utf8ByteSize ∨
        second.1.source.utf8ByteSize = first.1.source.utf8ByteSize ∧ first.2 ≤ second.2)

/-- A row of a table that fits, and that comes before all others that do. -/
structure Chosen (rows : List RuleRow) (fits : RuleRow → Prop) (row : RuleRow) (place : Nat) : Prop where
  listed : rows[place]? = some row
  suits : fits row
  least : ∀ other otherPlace, rows[otherPlace]? = some other → fits other →
    Precedes (row, place) (other, otherPlace)

/-- A row may name a role at these coordinates: its layer is the same or it is valid in any, and its
side is the same, either, or none while the side is open. -/
def AdmittedAt (layer : Layer) (direction : Direction) (row : RuleRow) : Prop :=
  (row.layer = layer ∨ row.layer = .global) ∧
    (row.direction = direction ∨ row.direction = .any ∨
      row.direction = .none ∧ direction = .undefined)

/-- A row may name a role at these coordinates, and its pattern covers one of the tokens. -/
def Fits (dialect : PatternDialect) (layer : Layer) (direction : Direction) (tokens : List String)
    (row : RuleRow) : Prop :=
  row.AdmittedAt layer direction ∧ ∃ token ∈ tokens, row.Covers dialect token

end RuleRow

/-- A role is named by the least row that fits one of the folders, else by the least row that fits the
stem; it is unknown where no row fits. -/
def Passport.NamedByLeast (dialect : PatternDialect) (rows : List RuleRow) (folders : List String)
    (stem : String) (passport : Passport) : Prop :=
  let fits := RuleRow.Fits dialect passport.layer passport.direction
  (∃ row place, RuleRow.Chosen rows (fits folders) row place ∧
    passport.role = row.role ∧ passport.method = .structural ∧ passport.ruleLayer = some row.layer) ∨
  ((∀ row ∈ rows, ¬fits folders row) ∧
    ∃ row place, RuleRow.Chosen rows (fits [stem]) row place ∧
      passport.role = row.role ∧ passport.method = .name ∧ passport.ruleLayer = some row.layer) ∨
  ((∀ row ∈ rows, ¬fits folders row) ∧ (∀ row ∈ rows, ¬fits [stem] row) ∧
    passport.role = .unknown ∧ passport.method = .unknown ∧ passport.ruleLayer = none)

namespace RuleBook

variable {book : RuleBook} {layer : Layer} {direction : Direction}

theorem applies_iff (rule : Rule) :
    applies layer direction rule = true ↔ rule.row.AdmittedAt layer direction := by
  simp [applies, Direction.admits, RuleRow.AdmittedAt, Rule.row, or_assoc, and_comm]

theorem mem_pool {rule : Rule} :
    rule ∈ book.pool layer direction ↔ rule ∈ book.rules ∧ rule.row.AdmittedAt layer direction := by
  unfold pool Rule.prioritize
  rw [List.mem_mergeSort, List.mem_filter, applies_iff]

/-- The places of a book at which a rule is admitted, in the order of trial. -/
def placedPool (book : RuleBook) (layer : Layer) (direction : Direction) : List (Rule × Nat) :=
  (book.rules.zipIdx.filter fun placed => applies layer direction placed.1).mergeSort
    fun first second => first.1.goesBefore second.1

theorem map_placedPool : (book.placedPool layer direction).map (·.1) = book.pool layer direction := by
  have kept : (book.rules.zipIdx.filter fun placed => applies layer direction placed.1).map Prod.fst =
      book.rules.filter (applies layer direction) := by
    have front := List.zipIdx_map_fst 0 book.rules
    exact List.filter_map.symm.trans (congrArg (List.filter (applies layer direction)) front)
  unfold placedPool pool Rule.prioritize
  rw [← kept]
  exact List.map_mergeSort fun _ _ _ _ => rfl

theorem mem_placedPool {rule : Rule} {place : Nat} :
    (rule, place) ∈ book.placedPool layer direction ↔
      book.rules[place]? = some rule ∧ rule.row.AdmittedAt layer direction := by
  unfold placedPool
  rw [List.mem_mergeSort, List.mem_filter, List.mem_zipIdx_iff_getElem?, applies_iff]

theorem pairwise_placedPool : (book.placedPool layer direction).Pairwise fun first second =>
    RuleRow.Precedes (first.1.row, first.2) (second.1.row, second.2) := by
  have stable : (book.placedPool layer direction).Pairwise fun first second =>
      first.1.goesBefore second.1 ∧ (second.1.goesBefore first.1 → first.2 < second.2) :=
    pairwise_mergeSort_of_pairwise (fun a b c => Rule.goesBefore_trans a.1 b.1 c.1)
      (fun a b => Rule.goesBefore_total a.1 b.1)
      ((pairwise_lt_zipIdx book.rules).filter fun placed => applies layer direction placed.1)
  refine stable.imp ?_
  rintro ⟨a, i⟩ ⟨b, j⟩ ⟨ordered, placed⟩
  dsimp only at ordered placed
  rw [Rule.goesBefore_iff] at ordered placed
  change a.weight < b.weight ∨ a.weight = b.weight ∧
    (b.pattern.source.utf8ByteSize < a.pattern.source.utf8ByteSize ∨
      b.pattern.source.utf8ByteSize = a.pattern.source.utf8ByteSize ∧ i ≤ j)
  omega

/-- The first rule of a pool that passes a test is the least row that fits, where the test tells of a
rule whether its row fits. -/
theorem find?_pool (book : RuleBook) (layer : Layer) (direction : Direction) (test : Rule → Bool)
    (fits : RuleRow → Prop)
    (tells : ∀ rule ∈ book.rules, test rule = true ↔ fits rule.row) :
    (∃ rule place, (book.pool layer direction).find? test = some rule ∧
      RuleRow.Chosen (book.rules.map Rule.row) (fun row => row.AdmittedAt layer direction ∧ fits row)
        rule.row place) ∨
    ((book.pool layer direction).find? test = none ∧
      ∀ row ∈ book.rules.map Rule.row, row.AdmittedAt layer direction → ¬fits row) := by
  have known {rule : Rule} {place : Nat} (listed : (rule, place) ∈ book.placedPool layer direction) :
      test rule = true ↔ fits rule.row :=
    tells rule (List.mem_of_getElem? (mem_placedPool.mp listed).1)
  rw [← map_placedPool, List.find?_map]
  cases found : (book.placedPool layer direction).find? (test ∘ (·.1)) with
  | none =>
    refine .inr ⟨rfl, ?_⟩
    intro row listed admitted fitting
    obtain ⟨rule, inBook, rfl⟩ := List.mem_map.mp listed
    obtain ⟨place, _, here⟩ := List.mem_iff_getElem.mp inBook
    have pooled : (rule, place) ∈ book.placedPool layer direction :=
      mem_placedPool.mpr ⟨List.getElem?_eq_some_iff.mpr ⟨_, here⟩, admitted⟩
    exact List.find?_eq_none.mp found _ pooled ((known pooled).mpr fitting)
  | some first =>
    obtain ⟨rule, place⟩ := first
    obtain ⟨passes, front, behind, split, failing⟩ := List.find?_eq_some_iff_append.mp found
    have pooled : (rule, place) ∈ book.placedPool layer direction := List.mem_of_find?_eq_some found
    obtain ⟨here, admitted⟩ := mem_placedPool.mp pooled
    refine .inl ⟨rule, place, rfl, ?_, ⟨admitted, (known pooled).mp passes⟩, ?_⟩
    · rw [List.getElem?_map, here]
      rfl
    · rintro other otherPlace listed ⟨otherAdmitted, otherFits⟩
      rw [List.getElem?_map] at listed
      obtain ⟨otherRule, otherHere, rfl⟩ := Option.map_eq_some_iff.mp listed
      have otherPooled : (otherRule, otherPlace) ∈ book.placedPool layer direction :=
        mem_placedPool.mpr ⟨otherHere, otherAdmitted⟩
      have otherPasses := (known otherPooled).mpr otherFits
      have ordered : (book.placedPool layer direction).Pairwise _ := pairwise_placedPool
      rw [split] at otherPooled ordered
      -- Nothing in front of the first rule that passes fits.
      rcases List.mem_append.mp otherPooled with inFront | fromHere
      · exact absurd otherPasses (by simpa using failing _ inFront)
      rcases List.mem_cons.mp fromHere with same | later
      · cases same
        exact .inr ⟨rfl, .inr ⟨rfl, Nat.le_refl _⟩⟩
      · exact (List.pairwise_cons.mp (List.pairwise_append.mp ordered).2.1).1 _ later

open RuleSpec (tableRows)

variable {dialect : PatternDialect} {folderRules stemRules : List RuleSpec}

theorem isMatch_iff_covers (accepted : ofSpecs dialect folderRules stemRules = .ok book) {rule : Rule}
    (inBook : rule ∈ book.rules) (opened : rule.row.Opened dialect) (token : String) :
    rule.isMatch token = true ↔ rule.row.Covers dialect token := by
  have compiled := (ofSpecs_eq_ok accepted).2 rule inBook
  obtain ⟨_, ⟨regex, known, _, _⟩ | unopened⟩ := TokenPattern.compile_cases compiled
  · have matching := TokenPattern.isMatch_iff_covers compiled known token
    constructor
    · exact fun isMatch => ⟨regex, known, matching.mp isMatch⟩
    · rintro ⟨other, otherKnown, covers⟩
      cases known.symm.trans otherKnown
      exact matching.mpr covers
  · exact absurd unopened opened

/-- The folders below the border of a context that are no markers. -/
def searchedFolders (book : RuleBook) (folders : List String) (stem : String) : List String :=
  (Territory.ofPath book folders stem).remaining.filter fun folder => !book.isMarker folder

/-- The first rule of a pool that matches one of the tokens is the least row that fits them, where rules
match what their rows cover. -/
theorem matchFolders_pool
    (matching : ∀ rule ∈ book.rules, ∀ token,
      rule.isMatch token = true ↔ rule.row.Covers dialect token)
    (layer : Layer) (direction : Direction) (tokens : List String) :
    (∃ rule place, Rule.matchFolders (book.pool layer direction) tokens = some rule ∧
      RuleRow.Chosen (book.rules.map Rule.row) (RuleRow.Fits dialect layer direction tokens)
        rule.row place) ∨
    (Rule.matchFolders (book.pool layer direction) tokens = none ∧
      ∀ row ∈ book.rules.map Rule.row, ¬RuleRow.Fits dialect layer direction tokens row) := by
  have tells : ∀ rule ∈ book.rules, tokens.any rule.isMatch = true ↔
      ∃ token ∈ tokens, rule.row.Covers dialect token := by
    intro rule inBook
    rw [List.any_eq_true]
    simp only [matching rule inBook]
  refine (find?_pool book layer direction (fun rule => tokens.any rule.isMatch)
    (fun row => ∃ token ∈ tokens, row.Covers dialect token) tells).imp_right ?_
  exact fun ⟨found, nothing⟩ => ⟨found, fun row listed fits => nothing row listed fits.1 fits.2⟩

section Role

variable {coordinates : Coordinates} {stem : String} {rule : Rule}

theorem role_of_folder (found : Rule.matchFolders
    (book.pool coordinates.layer coordinates.direction) coordinates.tokens = some rule) :
    book.role coordinates stem = (rule.role, .structural, some rule.layer) := by
  unfold role
  dsimp only
  rw [found]

theorem role_of_stem (noFolder : Rule.matchFolders
    (book.pool coordinates.layer coordinates.direction) coordinates.tokens = none)
    (found : Rule.matchStem (book.pool coordinates.layer coordinates.direction) stem = some rule) :
    book.role coordinates stem = (rule.role, .name, some rule.layer) := by
  unfold role
  dsimp only
  rw [noFolder, found]

theorem role_of_none (noFolder : Rule.matchFolders
    (book.pool coordinates.layer coordinates.direction) coordinates.tokens = none)
    (noStem : Rule.matchStem (book.pool coordinates.layer coordinates.direction) stem = none) :
    book.role coordinates stem = (.unknown, .unknown, none) := by
  unfold role
  dsimp only
  rw [noFolder, noStem]

end Role

/-- What a passport says about the role is what the rules answered. -/
theorem passport_of_role {folders : List String} {stem : String} {role : Role} {method : MatchMethod}
    {ruleLayer : Option Layer}
    (answer : book.role ((Discovery.ofPath book folders stem).coordinates book) stem =
      (role, method, ruleLayer)) :
    (book.passport folders stem).role = role ∧ (book.passport folders stem).method = method ∧
      (book.passport folders stem).ruleLayer = ruleLayer := by
  unfold passport
  dsimp only
  rw [answer]
  exact ⟨rfl, rfl, rfl⟩

/-- The passport of a file below the root is the one that its folders and its stem give. -/
theorem classifyPath_eq_passport {root path : Path} {folders : List String} {stem : String}
    (below : foldersAndStem? root path = some (folders, stem)) :
    book.classifyPath root path = book.passport folders stem := by
  unfold classifyPath
  rw [below]

end RuleBook

end LayerAtlas
