import LayerAtlas.Proofs.Reading.ImportStatement

/-!
# Layouts that leave names whole

A layout is plain where every gap inside a dotted name is white space and no comment between the dots of
a relative import holds a dot. From a plain layout the readers get what the tokens say. The layout with
single blanks is plain, so every other plain one tells the same.
-/
namespace LayerAtlas.SourceText

/-- The segments of a dotted name behind the first one. -/
def dotted (names : List String) : List Char :=
  names.flatMap fun name => '.' :: name.toList

theorem toList_join (first : String) (names : List String) :
    (Dotted.join (first :: names)).toList = first.toList ++ dotted names := by
  induction names generalizing first with
  | nil => simp [Dotted.join, dotted]
  | cons second names ih =>
    have split : Dotted.join (first :: second :: names) =
        first ++ "." ++ Dotted.join (second :: names) := String.intercalate_cons_cons
    rw [split, String.toList_append, String.toList_append, ih]
    simp [dotted]

/-! Plain layouts. -/

def WrittenName.IsPlain {mayEnd : Bool} (name : WrittenName mayEnd) : Prop :=
  ∀ segment ∈ name.later, ∀ c ∈ segment.before.text ++ segment.behind.text, isBlank c = true

def WrittenList.IsPlain {mayEnd : Bool} : WrittenList mayEnd → Prop
  | last item => item.name.IsPlain
  | ended item _ => item.name.IsPlain
  | more item _ _ later => item.name.IsPlain ∧ later.IsPlain

def WrittenListing.IsPlain : WrittenListing → Prop
  | bare _ names => names.IsPlain
  | bracketed _ _ names _ => names.IsPlain

def WrittenSelection.IsPlain : WrittenSelection → Prop
  | everything _ => True
  | listed listing => listing.IsPlain

def WrittenOrigin.IsPlain : WrittenOrigin → Prop
  | absolute _ name _ _ => name.IsPlain
  | parent _ dots _ => ∀ gap ∈ dots, '.' ∉ gap.text
  | below _ dots _ name _ _ => (∀ gap ∈ dots, '.' ∉ gap.text) ∧ name.IsPlain

/-- What a `__future__` import lists is not recorded. -/
def WrittenImport.IsPlain : WrittenImport → Prop
  | plain _ names => names.IsPlain
  | selective origin selection => origin.IsPlain ∧ selection.IsPlain
  | future _ _ _ => True

/-! What is read from a plain layout. -/

section Plain

variable {mayEnd : Bool}

theorem filter_eq_nil_of_blank {text : List Char} (blank : ∀ c ∈ text, isBlank c = true) :
    text.filter (fun c => !isBlank c) = [] :=
  List.filter_eq_nil_iff.mpr fun c listed => by simp [blank c listed]

theorem filter_of_isName {name : String} (named : isName name = true) :
    name.toList.filter (fun c => !isBlank c) = name.toList := by
  obtain ⟨c, others, chars, _, _, solid⟩ := exists_of_isName named
  rw [chars]
  exact List.filter_eq_self.mpr fun d listed => by simp [solid d listed]

/-- White space around the dots leaves no trace in the name. -/
theorem WrittenName.fromText_of_isPlain {name : WrittenName mayEnd} (plain : name.IsPlain) :
    Recovery.fromText.name name = Recovery.fromTokens.name name := by
  obtain ⟨first, segments⟩ := name
  have later : (segments.flatMap WrittenSegment.text).filter (fun c => !isBlank c) =
      dotted (segments.map fun segment => segment.word.text) := by
    induction segments with
    | nil => rfl
    | cons segment segments ih =>
      have around := plain segment List.mem_cons_self
      have before := filter_eq_nil_of_blank fun c listed =>
        around c (List.mem_append_left segment.behind.text listed)
      have behind := filter_eq_nil_of_blank fun c listed =>
        around c (List.mem_append_right segment.before.text listed)
      have dot : isBlank '.' = false := rfl
      have others := ih fun other listed => plain other (List.mem_cons_of_mem segment listed)
      rw [List.flatMap_cons, List.filter_append, others, WrittenSegment.text, List.filter_append, before,
        List.filter_cons_of_pos (by simp [dot]), List.filter_append, behind,
        filter_of_isName segment.word.named]
      simp [dotted]
  rw [← String.toList_inj]
  change (dropBlanks (String.ofList (first.text.toList ++ segments.flatMap WrittenSegment.text))).toList =
    (Dotted.join (first.text :: segments.map fun segment => segment.word.text)).toList
  rw [dropBlanks, String.toList_ofList, String.toList_ofList, List.filter_append, later, toList_join,
    filter_of_isName first.named]

theorem WrittenList.fromText_of_isPlain {list : WrittenList mayEnd} (plain : list.IsPlain) :
    list.names .fromText = list.names .fromTokens := by
  induction list with
  | last item => rw [names, names, WrittenName.fromText_of_isPlain plain]
  | ended item before => rw [names, names, WrittenName.fromText_of_isPlain plain]
  | more item before behind later ih =>
    rw [names, names, WrittenName.fromText_of_isPlain plain.1, ih plain.2]

theorem WrittenListing.fromText_of_isPlain {listing : WrittenListing} (plain : listing.IsPlain) :
    listing.names .fromText = listing.names .fromTokens := by
  cases listing <;> exact WrittenList.fromText_of_isPlain plain

theorem WrittenSelection.fromText_of_isPlain {selection : WrittenSelection} (plain : selection.IsPlain) :
    selection.selection .fromText = selection.selection .fromTokens := by
  cases selection with
  | everything before => rw [WrittenSelection.selection, WrittenSelection.selection]
  | listed listing =>
    rw [WrittenSelection.selection, WrittenSelection.selection,
      WrittenListing.fromText_of_isPlain plain]

/-- Every dot in the text of a level is one of its tokens. -/
theorem level_of_undotted {dots : List (Gap false)} (undotted : ∀ gap ∈ dots, '.' ∉ gap.text) :
    Recovery.fromText.level dots = Recovery.fromTokens.level dots := by
  change (dotsText dots).count '.' = dots.length + 1
  induction dots with
  | nil => rfl
  | cons gap dots ih =>
    have others := ih fun other listed => undotted other (List.mem_cons_of_mem gap listed)
    have dot : ['.'].count '.' = 1 := rfl
    rw [dotsText_cons, List.count_append, List.count_append, others, dot,
      List.count_eq_zero_of_not_mem (undotted gap List.mem_cons_self), List.length_cons]
    omega

theorem WrittenOrigin.fromText_of_isPlain {origin : WrittenOrigin} (plain : origin.IsPlain) :
    origin.origin .fromText = origin.origin .fromTokens := by
  cases origin with
  | absolute before name past behind =>
    rw [WrittenOrigin.origin, WrittenOrigin.origin, WrittenName.fromText_of_isPlain plain]
  | parent before dots behind =>
    rw [WrittenOrigin.origin, WrittenOrigin.origin, level_of_undotted plain]
  | below before dots inner name other behind =>
    rw [WrittenOrigin.origin, WrittenOrigin.origin, level_of_undotted plain.1,
      WrittenName.fromText_of_isPlain plain.2]

theorem WrittenImport.fromText_of_isPlain {statement : WrittenImport} (plain : statement.IsPlain)
    (row : Nat) : statement.statement .fromText row = statement.statement .fromTokens row := by
  cases statement with
  | plain before names =>
    rw [WrittenImport.statement, WrittenImport.statement, WrittenList.fromText_of_isPlain plain]
  | selective origin selection =>
    rw [WrittenImport.statement, WrittenImport.statement, WrittenOrigin.fromText_of_isPlain plain.1,
      WrittenSelection.fromText_of_isPlain plain.2]
  | future before behind listing => rw [WrittenImport.statement, WrittenImport.statement]

/-! The layout with single blanks. -/

theorem WrittenName.isPlain_oneLine (name : WrittenName mayEnd) : name.oneLine.IsPlain := by
  intro segment listed c inGap
  obtain ⟨written, _, rfl⟩ := List.mem_map.mp listed
  have blank : c = ' ' := by simpa using inGap
  rw [blank]
  decide

theorem WrittenList.isPlain_oneLine (list : WrittenList mayEnd) : list.oneLine.IsPlain := by
  induction list with
  | last item => exact item.name.isPlain_oneLine
  | ended item before => exact item.name.isPlain_oneLine
  | more item before behind later ih => exact ⟨item.name.isPlain_oneLine, ih⟩

theorem WrittenListing.isPlain_oneLine (listing : WrittenListing) : listing.oneLine.IsPlain := by
  cases listing with
  | bare before names => exact names.isPlain_oneLine
  | bracketed before inner names outer => exact names.isPlain_oneLine

theorem undotted_blanks (dots : List (Gap false)) :
    ∀ gap ∈ dots.map fun _ => Gap.blank false, '.' ∉ gap.text := by
  intro gap listed
  obtain ⟨_, _, rfl⟩ := List.mem_map.mp listed
  simp

theorem WrittenImport.isPlain_oneLine (statement : WrittenImport) : statement.oneLine.IsPlain := by
  cases statement with
  | plain before names => exact names.isPlain_oneLine
  | selective origin selection =>
    constructor
    · cases origin with
      | absolute before name past behind => exact name.isPlain_oneLine
      | parent before dots behind => exact undotted_blanks dots
      | below before dots inner name other behind => exact ⟨undotted_blanks dots, name.isPlain_oneLine⟩
    · cases selection with
      | everything before => trivial
      | listed listing => exact listing.isPlain_oneLine
  | future before behind listing => trivial

theorem WrittenName.fromTokens_oneLine (name : WrittenName mayEnd) :
    Recovery.fromTokens.name name.oneLine = Recovery.fromTokens.name name := by
  have words : name.oneLine.words = name.words := by
    simp [WrittenName.words, oneLine]
  exact congrArg Dotted.join words

theorem WrittenList.fromTokens_oneLine (list : WrittenList mayEnd) :
    list.oneLine.names .fromTokens = list.names .fromTokens := by
  induction list with
  | last item => exact congrArg (fun name => [name]) item.name.fromTokens_oneLine
  | ended item before => exact congrArg (fun name => [name]) item.name.fromTokens_oneLine
  | more item before behind later ih =>
    rw [oneLine, names, names, ih]
    exact congrArg (fun name => name :: later.names .fromTokens) item.name.fromTokens_oneLine

theorem level_blanks (dots : List (Gap false)) :
    Recovery.fromTokens.level (dots.map fun _ => Gap.blank false) = Recovery.fromTokens.level dots :=
  congrArg (· + 1) (List.length_map _)

/-- The tokens stay the same. -/
theorem WrittenImport.fromTokens_oneLine (statement : WrittenImport) (row : Nat) :
    statement.oneLine.statement .fromTokens row = statement.statement .fromTokens row := by
  cases statement with
  | plain before names => exact congrArg (Statement.plainImport row) names.fromTokens_oneLine
  | selective origin selection =>
    have origins : origin.oneLine.origin .fromTokens = origin.origin .fromTokens := by
      cases origin with
      | absolute before name past behind =>
        exact congrArg ImportOrigin.absolute name.fromTokens_oneLine
      | parent before dots behind =>
        exact congrArg (ImportOrigin.relative · "") (level_blanks dots)
      | below before dots inner name other behind =>
        have level := level_blanks dots
        have suffix := name.fromTokens_oneLine
        simp only [WrittenOrigin.oneLine, WrittenOrigin.origin, level, suffix]
    have selections : selection.oneLine.selection .fromTokens = selection.selection .fromTokens := by
      cases selection with
      | everything before => rfl
      | listed listing =>
        cases listing with
        | bare before names => exact congrArg Selection.listed names.fromTokens_oneLine
        | bracketed before inner names outer =>
          exact congrArg Selection.listed names.fromTokens_oneLine
    rw [WrittenImport.oneLine, WrittenImport.statement, WrittenImport.statement, origins, selections]
  | future before behind listing => rfl

end Plain

end LayerAtlas.SourceText
