import LayerAtlas.Proofs.Reading.Gap
import LayerAtlas.SourceText.Tree

/-!
# Import statements as they are written

The tokens of an import statement with the gaps between them. A gap is there for every pair of
neighbours, and where two words are neighbours it is not empty. The same statement has many layouts; one
of them, `oneLine`, puts a single blank into every gap.
-/
namespace LayerAtlas.SourceText

/-- A word that can name something. -/
structure Identifier where
  text : String
  named : isName text = true

/-- A dot and the word behind it. -/
structure WrittenSegment (mayEnd : Bool) where
  before : Gap mayEnd
  behind : Gap false
  word : Identifier

/-- A dotted name. `mayEnd` says whether the line may end behind it. -/
structure WrittenName (mayEnd : Bool) where
  first : Identifier
  later : List (WrittenSegment mayEnd)

/-- The name that an imported name gets here. -/
structure WrittenAlias (mayEnd : Bool) where
  before : Space mayEnd
  behind : Space false
  word : Identifier

structure WrittenItem (mayEnd : Bool) where
  name : WrittenName mayEnd
  given : Option (WrittenAlias mayEnd)

/-- Imported names with the commas between them. -/
inductive WrittenList (mayEnd : Bool) where
  | last (item : WrittenItem mayEnd)
  /-- One more comma behind the last name. -/
  | ended (item : WrittenItem mayEnd) (before : Gap mayEnd)
  | more (item : WrittenItem mayEnd) (before behind : Gap mayEnd) (later : WrittenList mayEnd)

/-- Imported names in parentheses or without, behind the word `import`. -/
inductive WrittenListing where
  | bare (before : Space false) (names : WrittenList true)
  | bracketed (before inner : Gap false) (names : WrittenList false) (outer : Gap false)

inductive WrittenSelection where
  | everything (before : Gap false)
  | listed (listing : WrittenListing)

/-- Where names are imported from, between the words `from` and `import`. A relative origin has a first
dot and as many more as there are gaps in `dots`. -/
inductive WrittenOrigin where
  | absolute (before : Space false) (name : WrittenName false)
      (past : name.first.text ≠ "__future__") (behind : Space false)
  | parent (before : Gap false) (dots : List (Gap false)) (behind : Gap false)
  | below (before : Gap false) (dots : List (Gap false)) (inner : Gap false)
      (name : WrittenName false) (other : name.first.text ≠ "import") (behind : Space false)

inductive WrittenImport where
  | plain (before : Space false) (names : WrittenList true)
  | selective (origin : WrittenOrigin) (selection : WrittenSelection)
  | future (before behind : Space false) (listing : WrittenListing)

/-! The text. -/

def WrittenSegment.text {mayEnd : Bool} (segment : WrittenSegment mayEnd) : List Char :=
  segment.before.text ++ '.' :: (segment.behind.text ++ segment.word.text.toList)

def WrittenName.text {mayEnd : Bool} (name : WrittenName mayEnd) : List Char :=
  name.first.text.toList ++ name.later.flatMap WrittenSegment.text

def WrittenAlias.text {mayEnd : Bool} (given : WrittenAlias mayEnd) : List Char :=
  given.before.text ++ ("as".toList ++ (given.behind.text ++ given.word.text.toList))

def WrittenItem.text {mayEnd : Bool} (item : WrittenItem mayEnd) : List Char :=
  item.name.text ++ item.given.elim [] WrittenAlias.text

def WrittenList.text {mayEnd : Bool} : WrittenList mayEnd → List Char
  | last item => item.text
  | ended item before => item.text ++ (before.text ++ [','])
  | more item before behind later => item.text ++ (before.text ++ ([','] ++ (behind.text ++ later.text)))

/-- The gap behind the word `import`. -/
def WrittenListing.before : WrittenListing → Gap false
  | bare before _ => before.toGap
  | bracketed before _ _ _ => before

def WrittenListing.body : WrittenListing → List Char
  | bare _ names => names.text
  | bracketed _ inner names outer =>
    ['('] ++ (inner.text ++ (names.text ++ (outer.text ++ [')'])))

def WrittenSelection.before : WrittenSelection → Gap false
  | everything before => before
  | listed listing => listing.before

def WrittenSelection.body : WrittenSelection → List Char
  | everything _ => ['*']
  | listed listing => listing.body

/-- The dots in front of a relative origin. -/
def dotsText (dots : List (Gap false)) : List Char :=
  ['.'] ++ dots.flatMap fun gap => gap.text ++ ['.']

/-- The gap behind the word `from`. -/
def WrittenOrigin.before : WrittenOrigin → Gap false
  | absolute before _ _ _ => before.toGap
  | parent before _ _ => before
  | below before _ _ _ _ _ => before

def WrittenOrigin.body : WrittenOrigin → List Char
  | absolute _ name _ behind => name.text ++ behind.text
  | parent _ dots behind => dotsText dots ++ behind.text
  | below _ dots inner name _ behind => dotsText dots ++ (inner.text ++ (name.text ++ behind.text))

def WrittenImport.text : WrittenImport → List Char
  | plain before names => "import".toList ++ (before.text ++ names.text)
  | selective origin selection =>
    "from".toList ++ (origin.before.text ++ (origin.body ++
      ("import".toList ++ (selection.before.text ++ selection.body))))
  | future before behind listing =>
    "from".toList ++ (before.text ++ ("__future__".toList ++ (behind.text ++
      ("import".toList ++ (listing.before.text ++ listing.body)))))

section Text

variable (before behind : Space false)

/-! The equations of the definition, proved by computation: Lean's own take long over the keywords. -/

theorem WrittenImport.text_plain (names : WrittenList true) :
    (plain before names).text = "import".toList ++ (before.text ++ names.text) := rfl

theorem WrittenImport.text_selective (origin : WrittenOrigin) (selection : WrittenSelection) :
    (selective origin selection).text =
      "from".toList ++ (origin.before.text ++ (origin.body ++
        ("import".toList ++ (selection.before.text ++ selection.body)))) := rfl

theorem WrittenImport.text_future (listing : WrittenListing) :
    (future before behind listing).text =
      "from".toList ++ (before.text ++ ("__future__".toList ++ (behind.text ++
        ("import".toList ++ (listing.before.text ++ listing.body))))) := rfl

end Text

/-! The tokens. -/

def WrittenName.words {mayEnd : Bool} (name : WrittenName mayEnd) : List String :=
  name.first.text :: name.later.map fun segment => segment.word.text

def WrittenName.tokens {mayEnd : Bool} (name : WrittenName mayEnd) : List String :=
  name.first.text :: name.later.flatMap fun segment => [".", segment.word.text]

def WrittenItem.tokens {mayEnd : Bool} (item : WrittenItem mayEnd) : List String :=
  item.name.tokens ++ item.given.elim [] fun given => ["as", given.word.text]

def WrittenList.tokens {mayEnd : Bool} : WrittenList mayEnd → List String
  | last item => item.tokens
  | ended item _ => item.tokens ++ [","]
  | more item _ _ later => item.tokens ++ "," :: later.tokens

def WrittenListing.tokens : WrittenListing → List String
  | bare _ names => names.tokens
  | bracketed _ _ names _ => "(" :: (names.tokens ++ [")"])

def WrittenSelection.tokens : WrittenSelection → List String
  | everything _ => ["*"]
  | listed listing => listing.tokens

def WrittenOrigin.tokens : WrittenOrigin → List String
  | absolute _ name _ _ => name.tokens
  | parent _ dots _ => "." :: dots.map fun _ => "."
  | below _ dots _ name _ _ => "." :: (dots.map (fun _ => ".") ++ name.tokens)

def WrittenImport.tokens : WrittenImport → List String
  | plain _ names => "import" :: names.tokens
  | selective origin selection => "from" :: (origin.tokens ++ "import" :: selection.tokens)
  | future _ _ listing => "from" :: "__future__" :: "import" :: listing.tokens

/-! The layout with single blanks. -/

def WrittenName.oneLine {mayEnd : Bool} (name : WrittenName mayEnd) : WrittenName mayEnd :=
  ⟨name.first, name.later.map fun segment => ⟨.blank mayEnd, .blank false, segment.word⟩⟩

def WrittenItem.oneLine {mayEnd : Bool} (item : WrittenItem mayEnd) : WrittenItem mayEnd :=
  ⟨item.name.oneLine, item.given.map fun given => ⟨.blank mayEnd, .blank false, given.word⟩⟩

def WrittenList.oneLine {mayEnd : Bool} : WrittenList mayEnd → WrittenList mayEnd
  | last item => .last item.oneLine
  | ended item _ => .ended item.oneLine (.blank mayEnd)
  | more item _ _ later => .more item.oneLine (.blank mayEnd) (.blank mayEnd) later.oneLine

def WrittenListing.oneLine : WrittenListing → WrittenListing
  | bare _ names => .bare (.blank false) names.oneLine
  | bracketed _ _ names _ => .bracketed (.blank false) (.blank false) names.oneLine (.blank false)

def WrittenSelection.oneLine : WrittenSelection → WrittenSelection
  | everything _ => .everything (.blank false)
  | listed listing => .listed listing.oneLine

def WrittenOrigin.oneLine : WrittenOrigin → WrittenOrigin
  | absolute _ name past _ => .absolute (.blank false) name.oneLine past (.blank false)
  | parent _ dots _ => .parent (.blank false) (dots.map fun _ => .blank false) (.blank false)
  | below _ dots _ name other _ =>
    .below (.blank false) (dots.map fun _ => .blank false) (.blank false) name.oneLine other
      (.blank false)

def WrittenImport.oneLine : WrittenImport → WrittenImport
  | plain _ names => .plain (.blank false) names.oneLine
  | selective origin selection => .selective origin.oneLine selection.oneLine
  | future _ _ listing => .future (.blank false) (.blank false) listing.oneLine

/-- Tokens with a blank in front of each. -/
def led (tokens : List String) : List Char :=
  tokens.flatMap fun token => ' ' :: token.toList

@[simp] theorem led_nil : led [] = [] := rfl

@[simp] theorem led_cons (token : String) (tokens : List String) :
    led (token :: tokens) = ' ' :: (token.toList ++ led tokens) := by
  simp [led]

@[simp] theorem led_append (front back : List String) : led (front ++ back) = led front ++ led back :=
  List.flatMap_append

/-- Tokens separated by single blanks, behind another token. -/
theorem toList_intercalate_blank (token : String) (tokens : List String) :
    (" ".intercalate (token :: tokens)).toList = token.toList ++ led tokens := by
  induction tokens generalizing token with
  | nil => simp
  | cons second tokens ih =>
    rw [String.intercalate_cons_cons, String.toList_append, String.toList_append, ih]
    simp

@[simp] theorem Gap.text_blank (mayEnd : Bool) : (Gap.blank mayEnd).text = [' '] := rfl

@[simp] theorem Space.text_blank (mayEnd : Bool) : (Space.blank mayEnd).text = [' '] := rfl

section OneLine

variable {mayEnd : Bool}

theorem WrittenName.led_tokens (name : WrittenName mayEnd) :
    led name.tokens = ' ' :: name.oneLine.text := by
  have later (segments : List (WrittenSegment mayEnd)) :
      led (segments.flatMap fun segment => [".", segment.word.text]) =
        (segments.map fun segment : WrittenSegment mayEnd =>
          (⟨.blank mayEnd, .blank false, segment.word⟩ : WrittenSegment mayEnd)).flatMap
          WrittenSegment.text := by
    induction segments with
    | nil => rfl
    | cons segment segments ih => simp [WrittenSegment.text, ih]
  simp [tokens, oneLine, text, later]

theorem WrittenItem.led_tokens (item : WrittenItem mayEnd) :
    led item.tokens = ' ' :: item.oneLine.text := by
  cases given : item.given <;>
    simp [tokens, oneLine, text, given, item.name.led_tokens, WrittenAlias.text]

theorem WrittenList.led_tokens (list : WrittenList mayEnd) :
    led list.tokens = ' ' :: list.oneLine.text := by
  induction list with
  | last item => exact item.led_tokens
  | ended item before => simp [tokens, oneLine, text, item.led_tokens]
  | more item before behind later ih => simp [tokens, oneLine, text, item.led_tokens, ih]

theorem WrittenListing.led_tokens (listing : WrittenListing) :
    led listing.tokens = ' ' :: listing.oneLine.body := by
  cases listing with
  | bare before names => exact names.led_tokens
  | bracketed before inner names outer => simp [tokens, oneLine, body, names.led_tokens]

theorem WrittenListing.text_before (listing : WrittenListing) :
    listing.oneLine.before.text = [' '] := by
  cases listing <;> rfl

theorem WrittenSelection.led_tokens (selection : WrittenSelection) :
    led selection.tokens = ' ' :: selection.oneLine.body := by
  cases selection with
  | everything before => rfl
  | listed listing => exact listing.led_tokens

theorem WrittenSelection.text_before (selection : WrittenSelection) :
    selection.oneLine.before.text = [' '] := by
  cases selection with
  | everything before => rfl
  | listed listing => exact listing.text_before

theorem led_dots (dots : List (Gap false)) :
    led ("." :: dots.map fun _ => ".") = ' ' :: dotsText (dots.map fun _ => .blank false) := by
  induction dots with
  | nil => rfl
  | cons gap dots ih => simpa [dotsText] using ih

theorem WrittenOrigin.led_tokens (origin : WrittenOrigin) :
    led origin.tokens ++ [' '] = ' ' :: origin.oneLine.body := by
  cases origin with
  | absolute before name past behind => simp [tokens, oneLine, body, name.led_tokens]
  | parent before dots behind =>
    rw [tokens, led_dots]
    simp [oneLine, body]
  | below before dots inner name other behind =>
    rw [tokens, ← List.cons_append, led_append, led_dots]
    simp [oneLine, body, name.led_tokens]

theorem WrittenOrigin.text_before (origin : WrittenOrigin) : origin.oneLine.before.text = [' '] := by
  cases origin <;> rfl

/-- The layout with single blanks is the list of tokens with blanks in between. -/
theorem WrittenImport.text_oneLine (statement : WrittenImport) :
    String.ofList statement.oneLine.text = " ".intercalate statement.tokens := by
  rw [← String.toList_inj, String.toList_ofList]
  cases statement with
  | plain before names =>
    rw [tokens, toList_intercalate_blank, names.led_tokens]
    rfl
  | selective origin selection =>
    have behind (later : List Char) :
        led origin.tokens ++ ' ' :: later = ' ' :: (origin.oneLine.body ++ later) := by
      simpa using congrArg (· ++ later) origin.led_tokens
    rw [tokens, toList_intercalate_blank, led_append, led_cons, selection.led_tokens, behind]
    simp only [oneLine, text_selective, origin.text_before, selection.text_before, List.cons_append,
      List.nil_append]
  | future before behind listing =>
    rw [tokens, toList_intercalate_blank, led_cons, led_cons, listing.led_tokens]
    simp only [oneLine, text_future, listing.text_before, Space.text_blank, List.cons_append,
      List.nil_append]

end OneLine

end LayerAtlas.SourceText
