import LayerAtlas.Proofs.Reading.ImportText

/-!
# Reading a line that imports one name

A text of one line that imports one name from a module, perhaps under another name, is read as one record.
The record tells the module and the name that the import has there; the other name is nowhere in it.
-/
namespace LayerAtlas.SourceText

/-- A line that imports one name from a module, perhaps under another name. -/
def fromImportLine (origin symbol : String) (given : Option String) : String :=
  "from " ++ origin ++ " import " ++ symbol ++ given.elim "" (" as " ++ ·) ++ "\n"

/-- The names of a module from which something can be imported by its dotted name. -/
structure IsOrigin (names : List String) : Prop where
  named : ∀ name ∈ names, isName name = true
  /-- That name stands for something else. -/
  past : names.head? ≠ some "__future__"

variable {first : String} {names : List String} {symbol : String} {given : Option String}

/-- The words of a name with nothing but dots between them. -/
def tightName (first : String) (names : List String)
    (named : ∀ name ∈ first :: names, isName name = true) : WrittenName false where
  first := ⟨first, named first List.mem_cons_self⟩
  later := names.attach.map fun ⟨name, listed⟩ =>
    ⟨.nothing false, .nothing false, ⟨name, named name (List.mem_cons_of_mem first listed)⟩⟩

theorem words_tightName (named : ∀ name ∈ first :: names, isName name = true) :
    (tightName first names named).words = first :: names := by
  simp [tightName, WrittenName.words, Function.comp_def]

theorem text_tightName (named : ∀ name ∈ first :: names, isName name = true) :
    (tightName first names named).text = (Dotted.join (first :: names)).toList := by
  have later : (tightName first names named).later.flatMap WrittenSegment.text = dotted names := by
    simp [tightName, dotted, WrittenSegment.text, Gap.nothing, List.flatMap_map]
  rw [WrittenName.text, later, toList_join]
  rfl

theorem text_single {mayEnd : Bool} (word : Identifier) :
    (⟨word, []⟩ : WrittenName mayEnd).text = word.text.toList :=
  List.append_nil _

theorem isPlain_tightName (named : ∀ name ∈ first :: names, isName name = true) :
    (tightName first names named).IsPlain := by
  intro segment listed c inGap
  obtain ⟨written, _, rfl⟩ := List.mem_map.mp listed
  exact absurd inGap List.not_mem_nil

section Line

variable (origin : IsOrigin (first :: names)) (named : isName symbol = true)
  (other : ∀ name ∈ given, isName name = true)

/-- The tokens of the line with a blank between words. -/
def oneNameImport : WrittenImport :=
  .selective
    (.absolute (.blank false) (tightName first names origin.named)
      (fun same => origin.past (congrArg some same)) (.blank false))
    (.listed (.bare (.blank false) (.last ⟨⟨⟨symbol, named⟩, []⟩,
      given.pmap (fun name named => ⟨.blank true, .blank false, ⟨name, named⟩⟩) other⟩)))

theorem text_oneNameImport :
    String.ofList ((oneNameImport origin named other).text ++ ['\n']) =
      fromImportLine (Dotted.join (first :: names)) symbol given := by
  rw [← String.toList_inj, String.toList_ofList]
  cases given <;>
    simp [oneNameImport, fromImportLine, WrittenImport.text_selective, WrittenOrigin.body,
      WrittenOrigin.before, WrittenSelection.before, WrittenSelection.body, WrittenListing.before,
      WrittenListing.body, WrittenList.text, WrittenItem.text, WrittenAlias.text, text_tightName,
      text_single]

theorem statement_oneNameImport (row : Nat) :
    (oneNameImport origin named other).statement .fromText row =
      .fromImport row (.absolute (Dotted.join (first :: names))) (.listed [symbol]) := by
  have plain : (oneNameImport origin named other).IsPlain :=
    ⟨isPlain_tightName origin.named, fun segment among => absurd among List.not_mem_nil⟩
  have module : Recovery.fromTokens.name (tightName first names origin.named) =
      Dotted.join (first :: names) := congrArg Dotted.join (words_tightName origin.named)
  have alone : Dotted.join [symbol] = symbol := by simp [Dotted.join]
  rw [WrittenImport.fromText_of_isPlain plain]
  change Statement.fromImport row (.absolute (Recovery.fromTokens.name _))
    (.listed [Dotted.join [symbol]]) = _
  rw [module, alone]

include origin named other in
/-- The one record of the line. -/
theorem readImports_line {path : Path} (extension : path.extension? = some (.ofString "py")) (importer : String) :
    readImports (fromImportLine (Dotted.join (first :: names)) symbol given) path importer =
      .ok [⟨Dotted.join (first :: names), 1, false, [symbol]⟩] := by
  have language : Language.ofPath? path = some .python := by
    rw [Language.ofPath?, if_pos extension]
  have read := readImports_of_written
    (.line (oneNameImport origin named other) .nothing (.nothing false) .nothing) language importer
  have text : (WrittenText.line (oneNameImport origin named other) .nothing (.nothing false)
      .nothing).text = (oneNameImport origin named other).text ++ ['\n'] := by
    simp [WrittenText.text, Tail.nothing, Gap.nothing]
  rw [text, text_oneNameImport] at read
  rw [read, WrittenText.records, WrittenText.statements, statement_oneNameImport]
  rfl

end Line

end LayerAtlas.SourceText
