import LayerAtlas.Proofs.ImportOrder
import LayerAtlas.Proofs.Reading.PlainLayout
import LayerAtlas.SourceText.Imports

/-!
# Texts of import statements in any layout

A text of import statements, one on each line, is read to its end whatever stands in the gaps between
the tokens. Where nothing but white space stands in the gaps of dotted names, and no comment with a dot
between the dots of a relative import, the records are those of the same tokens with single blanks in
between: the layout does not matter.
-/
namespace LayerAtlas.SourceText

/-- Lines with one import statement each. The last line may end with the text. -/
inductive WrittenText where
  | nothing
  | unended (statement : WrittenImport) (tail : Tail)
  | line (statement : WrittenImport) (tail : Tail) (behind : Gap false) (later : WrittenText)

namespace WrittenText

def text : WrittenText → List Char
  | nothing => []
  | unended statement tail => statement.text ++ tail.text
  | line statement tail behind later =>
    (statement.text ++ tail.text) ++ (('\n' :: behind.text) ++ later.text)

def imports : WrittenText → List WrittenImport
  | nothing => []
  | unended statement _ => [statement]
  | line statement _ _ later => statement :: later.imports

/-- The statements of a text that begins in this row. -/
def statements (recovery : Recovery) : (row : Nat) → WrittenText → List Statement
  | _, nothing => []
  | row, unended statement _ => [statement.statement recovery row]
  | row, line statement tail behind later =>
    statement.statement recovery row ::
      later.statements recovery
        (row + (statement.text ++ tail.text).count '\n' + ('\n' :: behind.text).count '\n')

def records (recovery : Recovery) (importer : Importer) (written : WrittenText) : List ImportRecord :=
  (written.statements recovery 0).flatMap importer.records

end WrittenText

/-! Reading the text. -/

variable {rest blanks front : List Char} {fuel : Nat}

theorem spans_closesBlock (isGap : IsGap false true front) (next : rest = [] ∨ BeginsToken rest) :
    Spans closesBlock front rest false := by
  intro position row
  obtain ⟨margin, closed, passed⟩ := passBlanks_of_isGap false isGap [] rest .start rfl rfl
    position row
  unfold closesBlock Cursor.passBlanks
  obtain rfl | ⟨c, after, rfl, solid⟩ := next
  · rw [passBlanks_nil] at passed
    simp only [passed, isUndercut_of_nil]
    rfl
  · rw [passBlanks_of_not_mem _ _ _ solid _ _ _ closed] at passed
    simp only [passed, isUndercut_of_nil]
    rfl

theorem spans_atLineEnd (ends : EndsLine rest) : Spans atLineEnd [] rest true := by
  intro position row
  obtain rfl | ⟨after, rfl⟩ := ends <;> rfl

theorem WrittenImport.beginsToken (statement : WrittenImport) (after : List Char) :
    BeginsToken (statement.text ++ after) := by
  cases statement <;> exact beginsToken_cons (by decide) _

theorem WrittenImport.length_pos (statement : WrittenImport) : 0 < statement.text.length := by
  cases statement <;> exact Nat.succ_pos _

/-- The line is a statement by itself, and its end is not read. -/
theorem simpleLine_of_written (read : TermReader) (statement : WrittenImport) (tail : Tail)
    (ends : EndsLine rest) (enough : statement.text.length + 1 < fuel) :
    ∀ position row, simpleLine read fuel ⟨(statement.text ++ tail.text) ++ rest, position, row, []⟩ =
      .ok ([statement.statement .fromText row],
        ⟨rest, position + (statement.text ++ tail.text).length,
          row + (statement.text ++ tail.text).count '\n', []⟩) := by
  intro position row
  obtain ⟨fuel, rfl⟩ : ∃ more, fuel = more + 1 := ⟨fuel - 1, by omega⟩
  have whole := simpleStatement_of_written read (.of_tail tail ends) statement
    (Nat.lt_of_succ_lt_succ enough) position row
  have single : Spans (lookingAt ";") [] rest false := by
    refine spans_lookingAt_other rfl (?_ : _ ≠ some ';')
    obtain rfl | ⟨after, rfl⟩ := ends <;> simp
  rw [simpleLine, bind_of_ok whole, single.look_step, if_neg (by decide),
    (spans_atLineEnd ends).look_step, if_pos rfl]
  rfl

theorem statements_of_written (statement : WrittenImport) (tail : Tail) (ends : EndsLine rest)
    (enough : statement.text.length + 2 < fuel) (position row : Nat) :
    statements fuel ⟨(statement.text ++ tail.text) ++ rest, position, row, []⟩ =
      .ok ([statement.statement .fromText row],
        ⟨rest, position + (statement.text ++ tail.text).length,
          row + (statement.text ++ tail.text).count '\n', []⟩) := by
  obtain ⟨fuel, rfl⟩ : ∃ more, fuel = more + 1 := ⟨fuel - 1, by omega⟩
  have line := simpleLine_of_written (expression fuel) statement tail ends
    (Nat.lt_of_succ_lt_succ enough) position row
  have kind := statement.spans_keyword (tail.text ++ rest)
  rw [← List.append_assoc] at kind
  have plain : Spans (lookingAt "@") [] ((statement.text ++ tail.text) ++ rest) false := by
    rw [List.append_assoc]
    refine spans_lookingAt_other rfl (?_ : _ ≠ some '@')
    cases statement <;>
      simp [WrittenImport.text_plain, WrittenImport.text_selective, WrittenImport.text_future]
  rw [statements, compoundStatement, plain.look_step, if_neg (by decide), kind.look_step]
  cases statement <;> exact line

theorem allStatements_end (isGap : IsGap false true front) (fuel steps : Nat)
    (found : List Statement) (position row : Nat) :
    allStatements fuel (steps + 1) found ⟨front ++ [], position, row, []⟩ =
      .ok (found.reverse, ⟨[], position + front.length, row + front.count '\n', []⟩) := by
  have done : Spans peek [] [] none := fun _ _ => rfl
  rw [allStatements, (spans_closesBlock isGap (.inl rfl)).step, done.look_step]
  rfl

theorem allStatements_step (isGap : IsGap false true front) (statement : WrittenImport) (tail : Tail)
    (ends : EndsLine rest) (enough : statement.text.length + 2 < fuel) (steps : Nat)
    (found : List Statement) (position row : Nat) :
    allStatements fuel (steps + 1) found
        ⟨front ++ ((statement.text ++ tail.text) ++ rest), position, row, []⟩ =
      allStatements fuel steps (statement.statement .fromText (row + front.count '\n') :: found)
        ⟨rest, position + front.length + (statement.text ++ tail.text).length,
          row + front.count '\n' + (statement.text ++ tail.text).count '\n', []⟩ := by
  have token := statement.beginsToken (tail.text ++ rest)
  rw [← List.append_assoc] at token
  have begun : ∃ c, Spans peek [] ((statement.text ++ tail.text) ++ rest) (some c) := by
    obtain ⟨c, after, begins, _⟩ := token
    rw [begins]
    exact ⟨c, fun _ _ => rfl⟩
  obtain ⟨c, here⟩ := begun
  rw [allStatements, (spans_closesBlock isGap (.inr token)).step, here.look_step, if_neg (by simp),
    bind_of_ok (statements_of_written statement tail ends enough _ _)]
  rfl

namespace WrittenText

/-- The statements are read one line after another, from the gap in front of the first one on. -/
theorem allStatements_of_written (written : WrittenText) {steps : Nat} (isGap : IsGap false true front)
    (enough : written.text.length + 2 < fuel) (bounded : written.text.length < steps)
    (found : List Statement) (position row : Nat) :
    ∃ finish, allStatements fuel steps found ⟨front ++ written.text, position, row, []⟩ =
      .ok (found.reverse ++ written.statements .fromText (row + front.count '\n'), finish) := by
  induction written generalizing steps front found position row with
  | nothing =>
    obtain ⟨steps, rfl⟩ : ∃ more, steps = more + 1 := ⟨steps - 1, by omega⟩
    have whole := allStatements_end isGap fuel steps found position row
    exact ⟨_, whole.trans (by rw [statements, List.append_nil])⟩
  | unended statement tail =>
    rw [text, List.length_append] at enough bounded
    have some := statement.length_pos
    obtain ⟨steps, rfl⟩ : ∃ more, steps = more + 2 := ⟨steps - 2, by omega⟩
    have bound : statement.text.length + 2 < fuel := by omega
    have line := allStatements_step isGap statement tail (.inl rfl) bound (steps + 1) found position row
    rw [List.append_nil] at line
    have done := allStatements_end (.nothing : IsGap false true []) fuel steps
      (statement.statement .fromText (row + front.count '\n') :: found)
      (position + front.length + (statement.text ++ tail.text).length)
      (row + front.count '\n' + (statement.text ++ tail.text).count '\n')
    exact ⟨_, (line.trans done).trans (by rw [List.reverse_cons]; rfl)⟩
  | line statement tail behind later ih =>
    simp only [text, List.length_append, List.length_cons] at enough bounded
    have some := statement.length_pos
    obtain ⟨steps, rfl⟩ : ∃ more, steps = more + 1 := ⟨steps - 1, by omega⟩
    have bound : statement.text.length + 2 < fuel := by omega
    have line := allStatements_step isGap statement tail (.inr ⟨behind.text ++ later.text, rfl⟩) bound
      steps found position row
    have enough : later.text.length + 2 < fuel := by omega
    have bounded : later.text.length < steps := by omega
    obtain ⟨finish, done⟩ := ih (.lineBreak rfl behind.isGap) enough bounded
      (statement.statement .fromText (row + front.count '\n') :: found)
      (position + front.length + (statement.text ++ tail.text).length)
      (row + front.count '\n' + (statement.text ++ tail.text).count '\n')
    refine ⟨finish, (line.trans done).trans ?_⟩
    rw [statements, List.reverse_cons, List.append_assoc, List.singleton_append]

theorem tree_of_written (written : WrittenText) :
    tree (String.ofList written.text) = .ok (written.statements .fromText 0) := by
  have begins : Cursor.start written.text = ⟨written.text, 0, 0, []⟩ := by
    cases written with
    | nothing => rfl
    | unended statement tail => cases statement <;> rfl
    | line statement tail behind later => cases statement <;> rfl
  generalize fuelOf : 2 * written.text.length + 8 = fuel
  obtain ⟨finish, whole⟩ := allStatements_of_written written (.nothing : IsGap false true [])
    (by omega : written.text.length + 2 < fuel) (by omega : written.text.length < fuel) [] 0 0
  unfold tree
  dsimp only
  rw [String.toList_ofList, fuelOf, begins]
  exact congrArg (Except.map Prod.fst) whole

end WrittenText

/-! Records. -/

/-- Import statements have no parts to visit. -/
theorem visit_of_imports (importer : Importer) {statements : List Statement}
    (imports : ∀ statement ∈ statements, ∀ parts, statement ≠ .other parts) :
    importer.visit statements = statements.flatMap importer.records := by
  rw [importer.visit_eq_collectAll]
  induction statements with
  | nil => rfl
  | cons statement statements ih =>
    have later := ih fun other listed => imports other (List.mem_cons_of_mem statement listed)
    have single : importer.collect statement = importer.records statement := by
      have whole := imports statement List.mem_cons_self
      cases statement with
      | other parts => exact absurd rfl (whole parts)
      | _ => rfl
    rw [Importer.collectAll, single, later, List.flatMap_cons]

theorem WrittenImport.statement_ne_other (statement : WrittenImport) (recovery : Recovery) (row : Nat)
    (parts : List Statement) : statement.statement recovery row ≠ .other parts := by
  cases statement <;> exact Statement.noConfusion

theorem WrittenText.statements_ne_other (written : WrittenText) (recovery : Recovery) (row : Nat) :
    ∀ statement ∈ written.statements recovery row, ∀ parts, statement ≠ .other parts := by
  induction written generalizing row with
  | nothing => exact fun _ listed => absurd listed List.not_mem_nil
  | unended statement tail =>
    intro other listed
    obtain rfl := List.mem_singleton.mp listed
    exact statement.statement_ne_other recovery row
  | line statement tail behind later ih =>
    intro other listed
    rcases List.mem_cons.mp listed with rfl | listed
    · exact statement.statement_ne_other recovery row
    · exact ih _ other listed

/-- A text is read in every layout. From each dotted name the records keep what is left of its text
without white space. -/
theorem readImports_of_written (written : WrittenText) {path : Path}
    (language : Language.ofPath? path = some .python) (name : String) :
    readImports (String.ofList written.text) path name =
      .ok (written.records .fromText ⟨name, path.isPackageInitializer⟩) := by
  unfold readImports
  rw [if_pos language, written.tree_of_written]
  exact congrArg Except.ok (visit_of_imports _ (written.statements_ne_other .fromText 0))

/-! What a text imports. -/

/-- What a record says apart from its line. -/
def content (record : ImportRecord) : String × Bool × List String :=
  (record.module, record.isRelative, record.names)

theorem content_addName {record other : ImportRecord} (same : content record = content other)
    (name : String) : content (record.addName name) = content (other.addName name) := by
  obtain ⟨modules, flags, names⟩ : record.module = other.module ∧
      record.isRelative = other.isRelative ∧ record.names = other.names := by
    simpa [content] using same
  unfold ImportRecord.addName
  rw [names]
  split
  · exact same
  · rw [content, content, modules, flags]

theorem content_addNames {record other : ImportRecord} (same : content record = content other)
    (names : List String) : content (record.addNames names) = content (other.addNames names) := by
  unfold ImportRecord.addNames
  induction names generalizing record other with
  | nil => exact same
  | cons name names ih => exact ih (content_addName same name)

/-- The line of a statement is in the line of its records only. -/
theorem content_records (importer : Importer) (statement : WrittenImport) (recovery : Recovery)
    (row : Nat) :
    (importer.records (statement.statement recovery row)).map content =
      (importer.records (statement.statement recovery 0)).map content := by
  cases statement with
  | plain before names =>
    simp [WrittenImport.statement, Importer.records, content, ImportRecord.whole]
  | selective origin selection =>
    have single : content (importer.fromRecord row (origin.origin recovery)
        (selection.selection recovery)) = content (importer.fromRecord 0 (origin.origin recovery)
          (selection.selection recovery)) := by
      unfold Importer.fromRecord
      refine content_addNames ?_ _
      cases origin <;> rfl
    exact congrArg (fun only => [only]) single
  | future before behind listing => rfl

namespace WrittenText

def IsPlain (written : WrittenText) : Prop :=
  ∀ statement ∈ written.imports, statement.IsPlain

/-- What the tokens import, in the order of the text. -/
def contents (written : WrittenText) (importer : Importer) : List (String × Bool × List String) :=
  written.imports.flatMap fun statement =>
    (importer.records (statement.statement .fromTokens 0)).map content

theorem content_of_isPlain {written : WrittenText} (plain : written.IsPlain) (importer : Importer) :
    (written.records .fromText importer).map content = written.contents importer := by
  have single {statement : WrittenImport} (plain : statement.IsPlain) (row : Nat) :
      (importer.records (statement.statement .fromText row)).map content =
        (importer.records (statement.statement .fromTokens 0)).map content := by
    rw [WrittenImport.fromText_of_isPlain plain, content_records]
  have whole (row : Nat) : ((written.statements .fromText row).flatMap importer.records).map content =
      written.contents importer := by
    induction written generalizing row with
    | nothing => rfl
    | unended statement tail =>
      have here := single (plain statement (List.mem_singleton_self statement)) row
      simpa [statements, contents, imports] using here
    | line statement tail behind later ih =>
      have here := single (plain statement List.mem_cons_self) row
      have others := ih fun other listed => plain other (List.mem_cons_of_mem statement listed)
      rw [statements, List.flatMap_cons, List.map_append, here, others]
      rfl
  exact whole 0

/-- The same tokens with single blanks, each statement on a line of its own. -/
def oneLine : WrittenText → WrittenText
  | nothing => .nothing
  | unended statement _ => .line statement.oneLine .nothing (.nothing false) .nothing
  | line statement _ _ later => .line statement.oneLine .nothing (.nothing false) later.oneLine

def compact (written : WrittenText) : String :=
  String.join (written.imports.map fun statement => " ".intercalate statement.tokens ++ "\n")

theorem text_oneLine (written : WrittenText) : String.ofList written.oneLine.text = written.compact := by
  have lines : written.oneLine.text = written.imports.flatMap fun statement =>
      statement.oneLine.text ++ ['\n'] := by
    induction written with
    | nothing => rfl
    | unended statement tail => simp [oneLine, text, imports, Tail.nothing, Gap.nothing]
    | line statement tail behind later ih =>
      simp [oneLine, text, imports, ih, Tail.nothing, Gap.nothing]
  rw [← String.toList_inj, String.toList_ofList, lines, compact, String.toList_join]
  simp [List.flatMap_map, ← WrittenImport.text_oneLine]

theorem imports_oneLine (written : WrittenText) :
    written.oneLine.imports = written.imports.map WrittenImport.oneLine := by
  induction written with
  | nothing => rfl
  | unended statement tail => rfl
  | line statement tail behind later ih => simp [oneLine, imports, ih]

theorem isPlain_oneLine (written : WrittenText) : written.oneLine.IsPlain := by
  intro statement listed
  rw [imports_oneLine] at listed
  obtain ⟨other, _, rfl⟩ := List.mem_map.mp listed
  exact other.isPlain_oneLine

theorem contents_oneLine (written : WrittenText) (importer : Importer) :
    written.oneLine.contents importer = written.contents importer := by
  rw [contents, contents, imports_oneLine, List.flatMap_map]
  simp only [WrittenImport.fromTokens_oneLine]

end WrittenText

/-! Absolute modules. -/

def WrittenList.modules {mayEnd : Bool} : WrittenList mayEnd → List (List String)
  | last item => [item.name.words]
  | ended item _ => [item.name.words]
  | more item _ _ later => item.name.words :: later.modules

/-- The words of each absolute module that a statement names. -/
def WrittenImport.modules : WrittenImport → List (List String)
  | plain _ names => names.modules
  | selective (.absolute _ name _ _) _ => [name.words]
  | selective _ _ => []
  | future _ _ _ => []

def WrittenText.modules (written : WrittenText) : List (List String) :=
  written.imports.flatMap WrittenImport.modules

theorem WrittenList.names_fromTokens {mayEnd : Bool} (list : WrittenList mayEnd) :
    list.names .fromTokens = list.modules.map Dotted.join := by
  induction list with
  | last item => rfl
  | ended item before => rfl
  | more item before behind later ih => rw [names, ih, modules, List.map_cons]; rfl

theorem addNames_keeps (record : ImportRecord) (names : List String) :
    (record.addNames names).module = record.module ∧
      (record.addNames names).isRelative = record.isRelative := by
  unfold ImportRecord.addNames
  induction names generalizing record with
  | nil => exact ⟨rfl, rfl⟩
  | cons name names ih =>
    obtain ⟨module, relative⟩ := ih (record.addName name)
    rw [List.foldl_cons, module, relative]
    unfold ImportRecord.addName
    split <;> exact ⟨rfl, rfl⟩

/-- The modules of the records that are not relative. -/
def absoluteModules (records : List ImportRecord) : List String :=
  (records.filter fun record => !record.isRelative).map (·.module)

theorem absoluteModules_addNames (record : ImportRecord) (names : List String) :
    absoluteModules [record.addNames names] = absoluteModules [record] := by
  obtain ⟨module, relative⟩ := addNames_keeps record names
  unfold absoluteModules
  rw [List.filter_cons, List.filter_cons, relative]
  split
  · exact congrArg (fun name => [name]) module
  · rfl

theorem absoluteModules_records (importer : Importer) (statement : WrittenImport) (row : Nat) :
    absoluteModules (importer.records (statement.statement .fromTokens row)) =
      statement.modules.map Dotted.join := by
  cases statement with
  | plain before names =>
    have whole (names : List String) : absoluteModules (names.map fun module =>
        ImportRecord.whole module (row + 1) false) = names := by
      simp [absoluteModules, ImportRecord.whole, List.filter_map, Function.comp_def]
    exact (whole _).trans names.names_fromTokens
  | selective origin selection =>
    cases origin <;> exact absoluteModules_addNames _ _
  | future before behind listing => rfl

/-- Which modules are absolute is told by what the records say. -/
theorem absoluteModules_of_content (records : List ImportRecord) :
    absoluteModules records =
      ((records.map content).filter fun said => !said.2.1).map Prod.fst := by
  simp [absoluteModules, content, List.filter_map, Function.comp_def]

theorem WrittenText.absoluteModules_contents (written : WrittenText) (importer : Importer) :
    ((written.contents importer).filter fun said => !said.2.1).map Prod.fst =
      written.modules.map Dotted.join := by
  rw [contents, modules, List.filter_flatMap, List.map_flatMap, List.map_flatMap]
  simp only [← absoluteModules_of_content, absoluteModules_records]

/-! The theorem. -/

/-- The layout of import statements does not change what they import, unless something other than white
space stands inside a dotted name or a comment with a dot stands between the dots of a relative import. -/
theorem readImports_ignores_layout (written : WrittenText) {path : Path}
    (language : Language.ofPath? path = some .python) (name : String) :
    ∃ records, readImports (String.ofList written.text) path name = .ok records ∧
      records = written.records .fromText ⟨name, path.isPackageInitializer⟩ ∧
      (written.IsPlain →
        (∃ spaced, readImports written.compact path name = .ok spaced ∧
          records.map content = spaced.map content) ∧
        absoluteModules records = written.modules.map Dotted.join) := by
  refine ⟨_, readImports_of_written written language name, rfl, fun plain => ?_⟩
  have said := WrittenText.content_of_isPlain plain ⟨name, path.isPackageInitializer⟩
  have spaced := WrittenText.content_of_isPlain written.isPlain_oneLine
    ⟨name, path.isPackageInitializer⟩
  have read := readImports_of_written written.oneLine language name
  rw [written.text_oneLine] at read
  refine ⟨⟨_, read, ?_⟩, ?_⟩
  · rw [said, spaced, written.contents_oneLine]
  · rw [absoluteModules_of_content, said, written.absoluteModules_contents]

/-- A line break behind a backslash, blanks around a dot, and a list over several lines. -/
def linesText : WrittenText :=
  .line
    (.selective
      (.absolute ⟨⟨" \\\n\t".toList, .blank rfl (.joined (.blank rfl .nothing))⟩, by decide⟩
        ⟨⟨"shop", rfl⟩, [⟨.blank false, ⟨['\t'], .blank rfl .nothing⟩, ⟨"order", rfl⟩⟩]⟩ (by decide)
        (.blank false))
      (.listed (.bracketed (.nothing false)
        ⟨"\n# first\n".toList, .lineBreak rfl
          (@IsGap.comment false true " first".toList [] rfl (by decide) .nothing)⟩
        (.more ⟨⟨⟨"Line", rfl⟩, []⟩, some ⟨.blank false, .blank false, ⟨"Item", rfl⟩⟩⟩
          (.nothing false) ⟨['\n'], .lineBreak rfl .nothing⟩
          (.ended ⟨⟨⟨"Total", rfl⟩, []⟩, none⟩ (.nothing false)))
        ⟨['\n'], .lineBreak rfl .nothing⟩)))
    .nothing (.nothing false) .nothing

theorem readImports_ignores_layout_lines :
    ∃ records spaced,
      readImports "from \\\n\tshop .\torder import(\n# first\nLine as Item,\nTotal,\n)\n" ⟨"main.py"⟩
        "main" = .ok records ∧
      readImports "from shop . order import ( Line as Item , Total , )\n" ⟨"main.py"⟩ "main" =
        .ok spaced ∧
      records.map content = spaced.map content ∧ absoluteModules records = ["shop.order"] := by
  have text : String.ofList linesText.text =
      "from \\\n\tshop .\torder import(\n# first\nLine as Item,\nTotal,\n)\n" := by decide +kernel
  have compact : linesText.compact = "from shop . order import ( Line as Item , Total , )\n" := by
    decide +kernel
  have modules : linesText.modules.map Dotted.join = ["shop.order"] := by decide +kernel
  have plain : linesText.IsPlain := by
    intro statement listed
    obtain rfl := List.mem_singleton.mp listed
    refine ⟨?_, ?_, ?_⟩
    · intro segment among c inGap
      obtain rfl := List.mem_singleton.mp among
      have blank : c = ' ' ∨ c = '\t' := by simpa using inGap
      rcases blank with rfl | rfl <;> decide
    · exact fun segment among => absurd among List.not_mem_nil
    · exact fun segment among => absurd among List.not_mem_nil
  obtain ⟨records, read, _, told⟩ := readImports_ignores_layout linesText
    (rfl : Language.ofPath? ⟨"main.py"⟩ = some .python) "main"
  obtain ⟨⟨spaced, single, same⟩, absolute⟩ := told plain
  rw [text] at read
  rw [compact] at single
  rw [modules] at absolute
  exact ⟨records, spaced, read, single, same, absolute⟩

/-- A dotted name over two lines that a backslash joins. -/
def joinedText : WrittenText :=
  .line
    (.plain (.blank false)
      (.last ⟨⟨⟨"shop", rfl⟩, [⟨.nothing true, ⟨['\\', '\n'], .joined .nothing⟩, ⟨"order", rfl⟩⟩]⟩, none⟩))
    .nothing (.nothing false) .nothing

/-- The backslash that joins two lines is no white space: inside a dotted name it stays. -/
theorem joined_line_stays_in_name :
    String.ofList joinedText.text = "import shop.\\\norder\n" ∧
      joinedText.compact = "import shop . order\n" ∧
      (readImports (String.ofList joinedText.text) ⟨"main.py"⟩ "main").toOption =
        some [⟨"shop.\\order", 1, false, []⟩] ∧
      (readImports joinedText.compact ⟨"main.py"⟩ "main").toOption =
        some [⟨"shop.order", 1, false, []⟩] := by
  decide +kernel

end LayerAtlas.SourceText
