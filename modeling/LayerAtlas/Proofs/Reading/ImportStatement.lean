import LayerAtlas.Proofs.Reading.Written
import LayerAtlas.SourceText.SimpleStatement

/-!
# Reading an import statement in any layout

Every reader of a part of an import statement reads that part in each of its layouts. What it finds does
not depend on the gaps, with two exceptions: a dotted name is what is left of its text without white
space, and the level of a relative import is the number of dots in its text. The text holds the gaps,
and not everything that a gap may hold is white space.
-/
namespace LayerAtlas.SourceText

/-- How a dotted name and the level of a relative import are made from what is written. -/
structure Recovery where
  name : {mayEnd : Bool} → WrittenName mayEnd → String
  level : List (Gap false) → Nat

namespace Recovery

/-- What the readers do: they take the text between two places. -/
def fromText : Recovery where
  name written := dropBlanks (String.ofList written.text)
  level dots := (dotsText dots).count '.'

/-- What the tokens say. -/
def fromTokens : Recovery where
  name written := Dotted.join written.words
  level dots := dots.length + 1

end Recovery

/-! What the parts of a statement tell. -/

def WrittenList.names {mayEnd : Bool} (recovery : Recovery) : WrittenList mayEnd → List String
  | last item => [recovery.name item.name]
  | ended item _ => [recovery.name item.name]
  | more item _ _ later => recovery.name item.name :: later.names recovery

def WrittenListing.names (recovery : Recovery) : WrittenListing → List String
  | bare _ names => names.names recovery
  | bracketed _ _ names _ => names.names recovery

def WrittenSelection.selection (recovery : Recovery) : WrittenSelection → Selection
  | everything _ => .everything
  | listed listing => .listed (listing.names recovery)

def WrittenOrigin.origin (recovery : Recovery) : WrittenOrigin → ImportOrigin
  | absolute _ name _ _ => .absolute (recovery.name name)
  | parent _ dots _ => .relative (recovery.level dots) ""
  | below _ dots _ name _ _ => .relative (recovery.level dots) (recovery.name name)

def WrittenImport.statement (recovery : Recovery) (row : Nat) : WrittenImport → Statement
  | plain _ names => .plainImport row (names.names recovery)
  | selective origin selection =>
    .fromImport row (origin.origin recovery) (selection.selection recovery)
  | future _ _ _ => .futureImport row

variable {follow : Follow} {blanks rest : List Char} {fuel : Nat}

/-! Dotted names. -/

/-- The blanks behind a dotted name, and what comes behind them: no further segment. -/
structure EndsName (follow : Follow) (blanks rest : List Char) : Prop where
  passed : Spans (gap follow false) blanks rest ()
  endsWord : EndsWord (blanks ++ rest)
  undotted : rest.head? ≠ some '.'

theorem EndsName.of_token (blanks : Gap follow.lineEnd) (token : BeginsToken rest)
    (endsWord : EndsWord (blanks.text ++ rest)) (undotted : rest.head? ≠ some '.') :
    EndsName follow blanks.text rest :=
  ⟨spans_gap follow blanks token, endsWord, undotted⟩

theorem head?_ne_of_isName {name : String} (named : isName name = true) {d : Char}
    (other : isIdentifierStart d = false) (rest : List Char) :
    (name.toList ++ rest).head? ≠ some d := by
  obtain ⟨c, others, chars, starts, _⟩ := exists_of_isName named
  rw [chars]
  intro same
  exact ne_of_isIdentifierStart starts.start other (Option.some.inj same)

/-- A word behind a space begins something else. -/
theorem EndsName.of_word (space : Space follow.lineEnd) {name : String} (named : isName name = true)
    (rest : List Char) : EndsName follow space.text (name.toList ++ rest) :=
  .of_token space.toGap (beginsToken_name named rest) (space.endsWord _)
    (head?_ne_of_isName named rfl rest)

theorem endsWord_segments {mayEnd : Bool} (segments : List (WrittenSegment mayEnd))
    (ends : EndsWord rest) : EndsWord (segments.flatMap WrittenSegment.text ++ rest) := by
  cases segments with
  | nil => exact ends
  | cons segment segments =>
    rw [List.flatMap_cons, WrittenSegment.text, List.append_assoc, List.append_assoc]
    exact segment.before.isGap.endsWord (endsWord_cons rfl _)

theorem segmentsEnd_of_segments (ends : EndsName follow blanks rest)
    {segments : List (WrittenSegment follow.lineEnd)}
    (enough : (segments.flatMap WrittenSegment.text).length < fuel) (position row : Nat) :
    segmentsEnd follow fuel
        ⟨segments.flatMap WrittenSegment.text ++ (blanks ++ rest), position, row, []⟩ =
      .ok (⟨blanks ++ rest, position + (segments.flatMap WrittenSegment.text).length,
          row + (segments.flatMap WrittenSegment.text).count '\n', []⟩,
        ⟨rest, position + (segments.flatMap WrittenSegment.text).length + blanks.length,
          row + (segments.flatMap WrittenSegment.text).count '\n' + blanks.count '\n', []⟩) := by
  induction segments generalizing fuel position row with
  | nil =>
    obtain ⟨fuel, rfl⟩ : ∃ more, fuel = more + 1 := ⟨fuel - 1, by simp at enough; omega⟩
    change segmentsEnd follow (fuel + 1) ⟨blanks ++ rest, position, row, []⟩ = _
    rw [segmentsEnd, get_step, ends.passed.step,
      (spans_lookingAt_other rfl ends.undotted).look_step]
    rfl
  | cons segment segments ih =>
    obtain ⟨before, behind, word, named⟩ := segment
    have text : (WrittenSegment.mk before behind ⟨word, named⟩ :: segments).flatMap
        WrittenSegment.text = before.text ++ (['.'] ++ (behind.text ++ (word.toList ++
          segments.flatMap WrittenSegment.text))) := by
      simp [WrittenSegment.text]
    simp only [text, List.length_append, List.length_singleton, List.count_append,
      List.append_assoc] at enough ⊢
    obtain ⟨fuel, rfl⟩ : ∃ more, fuel = more + 1 := ⟨fuel - 1, by omega⟩
    have toDot (later : List Char) : Spans (gap follow false) before.text (['.'] ++ later) () :=
      spans_gap follow before (beginsToken_cons (by decide) later)
    have dot (later : List Char) : Spans (lookingAt ".") [] (['.'] ++ later) true :=
      spans_lookingAt_here rfl later
    rw [segmentsEnd, get_step, (toDot _).step, (dot _).look_step, if_pos rfl,
      (spans_advance_one (by decide) _).step, (spans_innerGap behind (beginsToken_name named _)).step,
      (spans_takeWord named (endsWord_segments segments ends.endsWord)).step, ih (by omega)]
    have none : ['.'].count '\n' = 0 := rfl
    have unbroken : word.toList.count '\n' = 0 :=
      List.count_eq_zero_of_not_mem (not_mem_of_isName named)
    simp [none, unbroken, Nat.add_assoc]

theorem WrittenName.length_later_lt {mayEnd : Bool} (name : WrittenName mayEnd) :
    (name.later.flatMap WrittenSegment.text).length < name.text.length := by
  obtain ⟨c, others, chars, _⟩ := exists_of_isName name.first.named
  rw [text, chars, List.length_append, List.length_cons]
  omega

/-- The text between a place and the one behind it. -/
theorem Cursor.slice_append (text more : List Char) (position row later : Nat) :
    (⟨text ++ more, position, row, []⟩ : Cursor).slice ⟨more, position + text.length, later, []⟩ =
      text := by
  rw [slice, Nat.add_sub_cancel_left, List.take_left]

/-- A dotted name is read up to its last word, and the blanks behind it are passed. -/
theorem spans_dottedName (ends : EndsName follow blanks rest) (name : WrittenName follow.lineEnd)
    (enough : name.text.length ≤ fuel) :
    Spans (dottedName follow fuel) (name.text ++ blanks) rest (Recovery.fromText.name name) := by
  intro position row
  have first := spans_takeWord name.first.named (endsWord_segments name.later ends.endsWord)
  have behind := segmentsEnd_of_segments ends (Nat.lt_of_lt_of_le name.length_later_lt enough)
    (position + name.first.text.toList.length) (row + name.first.text.toList.count '\n')
  have text : name.text ++ (blanks ++ rest) =
      name.first.text.toList ++ (name.later.flatMap WrittenSegment.text ++ (blanks ++ rest)) := by
    rw [WrittenName.text, List.append_assoc]
  have length : position + name.first.text.toList.length +
      (name.later.flatMap WrittenSegment.text).length = position + name.text.length := by
    rw [WrittenName.text, List.length_append, Nat.add_assoc]
  have rows : row + name.first.text.toList.count '\n' +
      (name.later.flatMap WrittenSegment.text).count '\n' + blanks.count '\n' =
        row + (name.text ++ blanks).count '\n' := by
    rw [WrittenName.text, List.count_append, List.count_append, Nat.add_assoc, Nat.add_assoc,
      Nat.add_assoc]
  rw [dottedName, get_step, List.append_assoc]
  change (takeWord >>= fun _ => segmentsEnd follow fuel >>= fun finish => Pure.pure
    (Cursor.nameUpTo ⟨name.text ++ (blanks ++ rest), position, row, []⟩ finish)) _ = _
  rw [text, first.step, bind_of_ok behind, ← text, length]
  unfold Cursor.nameUpTo
  rw [Cursor.slice_append, ← rows, List.length_append, ← Nat.add_assoc]
  rfl

/-! Imported names. -/

/-- What comes behind an imported name: no other name for it. -/
structure EndsItem (follow : Follow) (blanks rest : List Char) : Prop extends
    EndsName follow blanks rest where
  nameless : Spans word [] rest ""

/-- What comes behind a list of imported names: no further one. -/
structure EndsList (follow : Follow) (blanks rest : List Char) : Prop extends
    EndsItem follow blanks rest where
  last : rest.head? ≠ some ','

/-- A sign that begins no word and is no dot ends an imported name. -/
theorem EndsItem.of_sign (blanks : Gap follow.lineEnd) {sign : Char} (solid : sign ∉ layoutChars)
    (apart : isIdentifierContinue sign = false) (other : isIdentifierStart sign = false)
    (undotted : sign ≠ '.') (after : List Char) : EndsItem follow blanks.text (sign :: after) where
  toEndsName := .of_token blanks (beginsToken_cons solid after)
    (blanks.isGap.endsWord (endsWord_cons apart after)) (by simpa using undotted)
  nameless := spans_word_nothing (by simpa using other)

/-- The other name is passed over. -/
theorem spans_importedName (closes : EndsItem follow blanks rest) (item : WrittenItem follow.lineEnd)
    (enough : item.text.length ≤ fuel) :
    Spans (importedName follow fuel) (item.text ++ blanks) rest (Recovery.fromText.name item.name) := by
  obtain ⟨name, given⟩ := item
  rw [importedName]
  cases given with
  | none =>
    rw [WrittenItem.text, Option.elim_none, List.append_nil] at enough ⊢
    refine (spans_dottedName closes.toEndsName name enough).stay (closes.nameless.stay ?_)
    rw [if_neg (by decide)]
    exact .pure _ rest
  | some given =>
    obtain ⟨before, behind, other, named⟩ := given
    have keywordAs : isName "as" = true := rfl
    have text : WrittenItem.text ⟨name, some ⟨before, behind, ⟨other, named⟩⟩⟩ ++ blanks =
        (name.text ++ before.text) ++ ("as".toList ++ (behind.text ++ (other.toList ++ blanks))) := by
      simp [WrittenItem.text, WrittenAlias.text]
    have bound : name.text.length ≤ fuel := by
      rw [WrittenItem.text, List.length_append] at enough
      exact Nat.le_trans (Nat.le_add_right _ _) enough
    have apart := behind.endsWord ((other.toList ++ blanks) ++ rest)
    rw [← List.append_assoc] at apart
    have here : Spans word []
        (("as".toList ++ (behind.text ++ (other.toList ++ blanks))) ++ rest) "as" := by
      rw [List.append_assoc]
      exact spans_word keywordAs apart
    have ends : EndsName follow before.text
        (("as".toList ++ (behind.text ++ (other.toList ++ blanks))) ++ rest) := by
      rw [List.append_assoc]
      exact .of_word before keywordAs _
    rw [text]
    refine (spans_dottedName ends name bound).bind (here.look ?_)
    rw [if_pos rfl]
    refine (spans_keyword keywordAs apart).bind ((spans_innerGap behind.toGap ?_).bind
      ((spans_takeWord named closes.endsWord).bind (closes.passed.stay (.pure _ rest))))
    rw [List.append_assoc]
    exact beginsToken_name named _

theorem exists_spans_word {name : String} (named : isName name = true) (rest : List Char) :
    ∃ found, found ≠ "" ∧ Spans word [] (name.toList ++ rest) found := by
  obtain ⟨c, others, chars, starts, _⟩ := exists_of_isName named
  refine ⟨String.ofList (c :: (others ++ rest).takeWhile isIdentifierContinue), ?_, ?_⟩
  · rw [ne_eq, ← String.toList_inj, String.toList_ofList]
    exact List.cons_ne_nil _ _
  · intro position row
    change Except.ok (Cursor.word _, _) = _
    unfold Cursor.word
    rw [chars]
    simp [starts.start]

/-- A list of imported names begins with a word. -/
theorem WrittenList.exists_text {mayEnd : Bool} (list : WrittenList mayEnd) :
    ∃ (first : Identifier) (after : List Char), list.text = first.text.toList ++ after := by
  cases list with
  | last item =>
    exact ⟨item.name.first, _, by rw [text, WrittenItem.text, WrittenName.text, List.append_assoc]⟩
  | ended item before =>
    exact ⟨item.name.first, _, by
      rw [text, WrittenItem.text, WrittenName.text, List.append_assoc, List.append_assoc]⟩
  | more item before behind later =>
    exact ⟨item.name.first, _, by
      rw [text, WrittenItem.text, WrittenName.text, List.append_assoc, List.append_assoc]⟩

theorem spans_importedNames (closes : EndsList follow blanks rest) (list : WrittenList follow.lineEnd)
    (enough : list.text.length < fuel) :
    Spans (importedNames follow fuel) (list.text ++ blanks) rest (list.names .fromText) := by
  have ended (before : Gap follow.lineEnd) (later : List Char) :
      EndsItem follow before.text (([','] ++ later) ++ rest) :=
    .of_sign before (by decide) rfl rfl (by decide) (later ++ rest)
  have comma (later : List Char) : Spans (lookingAt ",") [] (([','] ++ later) ++ rest) true :=
    spans_lookingAt_here rfl (later ++ rest)
  induction list generalizing fuel with
  | last item =>
    obtain ⟨fuel, rfl⟩ : ∃ more, fuel = more + 1 := ⟨fuel - 1, by omega⟩
    rw [importedNames]
    refine (spans_importedName closes.toEndsItem item (Nat.le_of_lt_succ enough)).stay
      ((spans_lookingAt_other rfl closes.last).stay ?_)
    rw [if_neg (by decide)]
    exact .pure _ rest
  | ended item before =>
    rw [WrittenList.text, List.length_append] at enough
    obtain ⟨fuel, rfl⟩ : ∃ more, fuel = more + 1 := ⟨fuel - 1, by omega⟩
    have text : (WrittenList.ended item before).text ++ blanks =
        (item.text ++ before.text) ++ ([','] ++ blanks) := by
      simp [WrittenList.text]
    rw [text, importedNames]
    refine (spans_importedName (ended before _) item (by omega)).bind ((comma _).look ?_)
    rw [if_pos rfl]
    refine (spans_advance_one (by decide) _).bind (closes.passed.stay (closes.nameless.stay ?_))
    rw [if_pos rfl]
    exact .pure _ rest
  | more item before behind later ih =>
    simp only [WrittenList.text, List.length_append, List.length_singleton] at enough
    obtain ⟨fuel, rfl⟩ : ∃ more, fuel = more + 1 := ⟨fuel - 1, by omega⟩
    have text : (WrittenList.more item before behind later).text ++ blanks =
        (item.text ++ before.text) ++ ([','] ++ (behind.text ++ (later.text ++ blanks))) := by
      simp [WrittenList.text]
    obtain ⟨first, after, begins⟩ := later.exists_text
    have shape : (later.text ++ blanks) ++ rest = first.text.toList ++ (after ++ blanks ++ rest) := by
      rw [begins]
      simp
    obtain ⟨found, some, here⟩ := exists_spans_word first.named (after ++ blanks ++ rest)
    rw [← shape] at here
    have token : BeginsToken ((later.text ++ blanks) ++ rest) := by
      rw [shape]
      exact beginsToken_name first.named _
    rw [text, importedNames]
    refine (spans_importedName (ended before _) item (by omega)).bind ((comma _).look ?_)
    rw [if_pos rfl]
    refine (spans_advance_one (by decide) _).bind ((spans_gap follow behind token).bind (here.look ?_))
    rw [if_neg some]
    exact (ih (by omega)).stay (.pure _ rest)

/-- The end of a line ends a list that stands outside of parentheses. -/
theorem EndsList.of_tail (tail : Tail) (ends : EndsLine rest) : EndsList .line tail.text rest where
  passed := spans_tail tail ends
  endsWord := tail.isTail.endsWord ends.endsWord
  undotted := by obtain rfl | ⟨after, rfl⟩ := ends <;> simp
  nameless := by
    obtain rfl | ⟨after, rfl⟩ := ends
    · exact spans_word_nothing (by simp)
    · exact spans_word_nothing (by simp; rfl)
  last := by obtain rfl | ⟨after, rfl⟩ := ends <;> simp

theorem WrittenList.text_ne (list : WrittenList true) {d : Char}
    (other : isIdentifierStart d = false) (after : List Char) : (list.text ++ after).head? ≠ some d := by
  obtain ⟨first, behind, begins⟩ := list.exists_text
  rw [begins, List.append_assoc]
  exact head?_ne_of_isName first.named other _

theorem spans_importedList (closes : EndsList .line blanks rest) (listing : WrittenListing)
    (enough : listing.body.length < fuel) :
    Spans (importedList fuel) (listing.body ++ blanks) rest (listing.names .fromText) := by
  rw [importedList]
  cases listing with
  | bare before names =>
    have bare : Spans (lookingAt "(") [] ((names.text ++ blanks) ++ rest) false := by
      rw [List.append_assoc]
      exact spans_lookingAt_other rfl (names.text_ne rfl _)
    refine bare.look ?_
    rw [if_neg (by decide)]
    exact spans_importedNames closes names enough
  | bracketed before inner names outer =>
    have text : (WrittenListing.bracketed before inner names outer).body ++ blanks =
        ['('] ++ (inner.text ++ ((names.text ++ outer.text) ++ ([')'] ++ blanks))) := by
      simp [WrittenListing.body]
    simp only [WrittenListing.body, List.length_append, List.length_singleton] at enough
    have opening (later : List Char) : Spans (lookingAt "(") [] ((['('] ++ later) ++ rest) true :=
      spans_lookingAt_here rfl (later ++ rest)
    have closer : EndsItem Follow.more.bracket outer.text (([')'] ++ blanks) ++ rest) :=
      @EndsItem.of_sign Follow.more.bracket outer ')' (by decide) rfl rfl (by decide) (blanks ++ rest)
    have closing : EndsList Follow.more.bracket outer.text (([')'] ++ blanks) ++ rest) :=
      ⟨closer, by simp⟩
    have bound : names.text.length < fuel := by omega
    obtain ⟨first, behind, begins⟩ := names.exists_text
    have token (later : List Char) : BeginsToken (((names.text ++ outer.text) ++ later) ++ rest) := by
      rw [begins, List.append_assoc, List.append_assoc, List.append_assoc]
      exact beginsToken_name first.named _
    rw [text]
    refine (opening _).look ?_
    rw [if_pos rfl]
    refine (spans_advance_one (by decide) _).bind ((spans_innerGap inner (token _)).bind
      ((spans_importedNames closing names bound).bind ((spans_symbol rfl (by decide) _).bind
        (closes.passed.stay (.pure _ rest)))))

/-! Where names are imported from. -/

theorem dotsText_cons (gap : Gap false) (dots : List (Gap false)) :
    dotsText (gap :: dots) = ['.'] ++ (gap.text ++ dotsText dots) := by
  simp [dotsText]

theorem leadingDots_of_dots (inner : Gap false) (token : BeginsToken rest)
    (last : rest.head? ≠ some '.') {dots : List (Gap false)} (enough : (dotsText dots).length ≤ fuel)
    (position row : Nat) :
    leadingDots fuel ⟨dotsText dots ++ (inner.text ++ rest), position, row, []⟩ =
      .ok (⟨inner.text ++ rest, position + (dotsText dots).length, row + (dotsText dots).count '\n', []⟩,
        ⟨rest, position + (dotsText dots).length + inner.text.length,
          row + (dotsText dots).count '\n' + inner.text.count '\n', []⟩) := by
  have dot (later : List Char) : Spans (symbol ".") ['.'] later () :=
    spans_symbol rfl (by decide) later
  induction dots generalizing fuel position row with
  | nil =>
    obtain ⟨fuel, rfl⟩ : ∃ more, fuel = more + 1 := ⟨fuel - 1, by simp [dotsText] at enough; omega⟩
    change leadingDots (fuel + 1) ⟨['.'] ++ (inner.text ++ rest), position, row, []⟩ = _
    rw [leadingDots, (dot _).step, get_step, (spans_innerGap inner token).step,
      (spans_lookingAt_other rfl last).look_step]
    rfl
  | cons gap dots ih =>
    simp only [dotsText_cons, List.length_append, List.length_singleton, List.count_append,
      List.append_assoc] at enough ⊢
    obtain ⟨fuel, rfl⟩ : ∃ more, fuel = more + 1 := ⟨fuel - 1, by omega⟩
    have next : BeginsToken (dotsText dots ++ (inner.text ++ rest)) :=
      beginsToken_cons (by decide) _
    have further : Spans (lookingAt ".") [] (dotsText dots ++ (inner.text ++ rest)) true :=
      spans_lookingAt_here rfl _
    rw [leadingDots, (dot _).step, get_step, (spans_innerGap gap next).step, further.look_step,
      if_pos rfl, ih (by omega)]
    have none : ['.'].count '\n' = 0 := rfl
    simp [none, Nat.add_assoc]

/-- A relative origin goes on behind its dots. -/
theorem spans_importOrigin_of_dots (inner : Gap false) {later : List Char} {found : ImportOrigin}
    (token : BeginsToken (later ++ rest)) (last : (later ++ rest).head? ≠ some '.')
    {dots : List (Gap false)} (enough : (dotsText dots).length ≤ fuel)
    (behind : Spans (do
      if (← word) = "import" then return .relative (Recovery.fromText.level dots) ""
      else do
        let suffix ← dottedName .more fuel
        return .relative (Recovery.fromText.level dots) suffix) later rest found) :
    Spans (importOrigin fuel) (dotsText dots ++ (inner.text ++ later)) rest found := by
  intro position row
  have dot : Spans (lookingAt ".") [] (dotsText dots ++ (inner.text ++ (later ++ rest))) true :=
    spans_lookingAt_here rfl _
  rw [List.append_assoc, List.append_assoc, importOrigin, dot.look_step, if_pos rfl, get_step,
    bind_of_ok (leadingDots_of_dots inner token last enough position row), Cursor.slice_append]
  refine (behind _ _).trans ?_
  simp only [List.length_append, List.count_append, Nat.add_assoc]

/-- Reading where names are imported from ends in front of the word `import`. -/
theorem spans_importOrigin (ends : EndsWord rest) (origin : WrittenOrigin)
    (enough : origin.body.length ≤ fuel) :
    Spans (importOrigin fuel) origin.body ("import".toList ++ rest) (origin.origin .fromText) := by
  have keywordImport : isName "import" = true := rfl
  have closing (behind : Space false) : EndsName .more behind.text ("import".toList ++ rest) :=
    @EndsName.of_word Follow.more behind "import" keywordImport rest
  have reads (name : WrittenName false) (behind : Space false) (enough : name.text.length ≤ fuel) :
      Spans (dottedName .more fuel) (name.text ++ behind.text) ("import".toList ++ rest)
        (Recovery.fromText.name name) :=
    spans_dottedName (closing behind) name enough
  cases origin with
  | absolute before name past behind =>
    rw [WrittenOrigin.body, List.length_append] at enough
    have undotted : Spans (lookingAt ".") []
        ((name.text ++ behind.text) ++ ("import".toList ++ rest)) false := by
      rw [WrittenName.text, List.append_assoc, List.append_assoc]
      exact spans_lookingAt_other rfl (head?_ne_of_isName name.first.named rfl _)
    rw [importOrigin]
    refine undotted.look ?_
    rw [if_neg (by decide)]
    exact (reads name behind (by omega)).stay (.pure (ImportOrigin.absolute (Recovery.fromText.name name)) _)
  | parent before dots behind =>
    rw [WrittenOrigin.body, List.length_append] at enough
    have here : Spans word [] ("import".toList ++ rest) "import" := spans_word keywordImport ends
    have token : BeginsToken ([] ++ ("import".toList ++ rest)) := by
      rw [List.nil_append]
      exact beginsToken_name keywordImport rest
    have undotted : ([] ++ ("import".toList ++ rest)).head? ≠ some '.' := by
      rw [List.nil_append]
      exact head?_ne_of_isName keywordImport rfl rest
    rw [WrittenOrigin.body, ← List.append_nil behind.text]
    refine spans_importOrigin_of_dots behind token undotted (by omega) (here.stay ?_)
    rw [if_pos rfl]
    exact .pure _ _
  | below before dots inner name other behind =>
    simp only [WrittenOrigin.body, List.length_append] at enough
    have begins : (name.text ++ behind.text) ++ ("import".toList ++ rest) =
        name.first.text.toList ++ (name.later.flatMap WrittenSegment.text ++
          (behind.text ++ ("import".toList ++ rest))) := by
      simp [WrittenName.text]
    have token : BeginsToken ((name.text ++ behind.text) ++ ("import".toList ++ rest)) := by
      rw [begins]
      exact beginsToken_name name.first.named _
    have undotted : ((name.text ++ behind.text) ++ ("import".toList ++ rest)).head? ≠ some '.' := by
      rw [begins]
      exact head?_ne_of_isName name.first.named rfl _
    have here : Spans word [] ((name.text ++ behind.text) ++ ("import".toList ++ rest))
        name.first.text := by
      rw [begins]
      exact spans_word name.first.named (endsWord_segments name.later (behind.endsWord _))
    refine spans_importOrigin_of_dots inner token undotted (by omega) (here.look ?_)
    rw [if_neg other]
    exact (reads name behind (by omega)).stay
      (.pure (ImportOrigin.relative _ (Recovery.fromText.name name)) _)

/-! Whole statements. -/

theorem WrittenListing.beginsToken (listing : WrittenListing) (after : List Char) :
    BeginsToken (listing.body ++ after) := by
  cases listing with
  | bare before names =>
    obtain ⟨first, behind, begins⟩ := names.exists_text
    rw [body, begins, List.append_assoc]
    exact beginsToken_name first.named _
  | bracketed before inner names outer => exact beginsToken_cons (by decide) _

theorem WrittenListing.endsWord (listing : WrittenListing) (after : List Char) :
    EndsWord (listing.before.text ++ (listing.body ++ after)) := by
  cases listing with
  | bare before names => exact before.endsWord _
  | bracketed before inner names outer => exact before.isGap.endsWord (endsWord_cons rfl _)

theorem WrittenOrigin.beginsToken (origin : WrittenOrigin) (after : List Char) :
    BeginsToken (origin.body ++ after) := by
  cases origin with
  | absolute before name past behind =>
    rw [body, WrittenName.text, List.append_assoc, List.append_assoc]
    exact beginsToken_name name.first.named _
  | parent before dots behind => exact beginsToken_cons (by decide) _
  | below before dots inner name other behind => exact beginsToken_cons (by decide) _

theorem WrittenOrigin.endsWord (origin : WrittenOrigin) (after : List Char) :
    EndsWord (origin.before.text ++ (origin.body ++ after)) := by
  cases origin with
  | absolute before name past behind => exact before.endsWord _
  | parent before dots behind => exact before.isGap.endsWord (endsWord_cons rfl _)
  | below before dots inner name other behind => exact before.isGap.endsWord (endsWord_cons rfl _)

/-- No origin is the word `__future__`. -/
theorem WrittenOrigin.exists_spans_word (origin : WrittenOrigin) (after : List Char) :
    ∃ found, found ≠ "__future__" ∧ Spans word [] (origin.body ++ after) found := by
  cases origin with
  | absolute before name past behind =>
    refine ⟨name.first.text, past, ?_⟩
    rw [body, WrittenName.text, List.append_assoc, List.append_assoc]
    exact spans_word name.first.named (endsWord_segments name.later (behind.endsWord after))
  | parent before dots behind =>
    exact ⟨"", by decide, spans_word_nothing (by simp [body, dotsText]; rfl)⟩
  | below before dots inner name other behind =>
    exact ⟨"", by decide, spans_word_nothing (by simp [body, dotsText]; rfl)⟩

/-- The word with which a statement begins. -/
def WrittenImport.keyword : WrittenImport → String
  | plain _ _ => "import"
  | selective _ _ | future _ _ _ => "from"

theorem WrittenImport.spans_keyword (statement : WrittenImport) (after : List Char) :
    Spans word [] (statement.text ++ after) statement.keyword := by
  cases statement with
  | plain before names =>
    have named : isName "import" = true := rfl
    rw [text_plain, List.append_assoc, List.append_assoc]
    exact spans_word named (before.endsWord _)
  | selective origin selection =>
    have named : isName "from" = true := rfl
    rw [text_selective, List.append_assoc, List.append_assoc, List.append_assoc]
    exact spans_word named (origin.endsWord _)
  | future before behind listing =>
    have named : isName "from" = true := rfl
    rw [text_future, List.append_assoc, List.append_assoc]
    exact spans_word named (before.endsWord _)

/-- What is taken from an origin is read behind the word `import`. -/
theorem spans_selection (closes : EndsList .line blanks rest) (selection : WrittenSelection)
    (enough : selection.body.length < fuel) (row : Nat) (origin : ImportOrigin) :
    Spans (do
      if ← lookingAt "*" then do
        advance 1
        gap .line false
        return Statement.fromImport row origin .everything
      else do
        let names ← importedList fuel
        return Statement.fromImport row origin (.listed names))
      (selection.body ++ blanks) rest (.fromImport row origin (selection.selection .fromText)) := by
  cases selection with
  | everything before =>
    have star : Spans (lookingAt "*") [] ((['*'] ++ blanks) ++ rest) true :=
      spans_lookingAt_here rfl (blanks ++ rest)
    refine star.look ?_
    rw [if_pos rfl]
    exact (spans_advance_one (by decide) _).bind
      (closes.passed.stay (.pure (Statement.fromImport row origin .everything) rest))
  | listed listing =>
    have unstarred : Spans (lookingAt "*") [] ((listing.body ++ blanks) ++ rest) false := by
      refine spans_lookingAt_other rfl (?_ : _ ≠ some '*')
      rw [List.append_assoc]
      cases listing with
      | bare before names => exact names.text_ne rfl _
      | bracketed before inner names outer => simp [WrittenListing.body]
    refine unstarred.look ?_
    rw [if_neg (by decide)]
    exact (spans_importedList closes listing enough).stay
      (.pure (Statement.fromImport row origin (.listed (listing.names .fromText))) rest)

theorem WrittenSelection.beginsToken (selection : WrittenSelection) (after : List Char) :
    BeginsToken (selection.body ++ after) := by
  cases selection with
  | everything before => exact beginsToken_cons (by decide) _
  | listed listing => exact listing.beginsToken after

theorem WrittenSelection.endsWord (selection : WrittenSelection) (after : List Char) :
    EndsWord (selection.before.text ++ (selection.body ++ after)) := by
  cases selection with
  | everything before => exact before.isGap.endsWord (endsWord_cons rfl _)
  | listed listing => exact listing.endsWord after

theorem plainImport_of_written (closes : EndsList .line blanks rest) (before : Space false)
    (names : WrittenList true) (enough : (WrittenImport.plain before names).text.length < fuel)
    (position row : Nat) :
    plainImport fuel ⟨((WrittenImport.plain before names).text ++ blanks) ++ rest, position, row, []⟩ =
      .ok ((WrittenImport.plain before names).statement .fromText row,
        ⟨rest, position + ((WrittenImport.plain before names).text ++ blanks).length,
          row + ((WrittenImport.plain before names).text ++ blanks).count '\n', []⟩) := by
  have keywordImport : isName "import" = true := rfl
  simp only [WrittenImport.text_plain, List.length_append] at enough
  have text : (WrittenImport.plain before names).text ++ blanks =
      "import".toList ++ (before.text ++ (names.text ++ blanks)) := by
    simp [WrittenImport.text_plain]
  have bound : names.text.length < fuel := by omega
  obtain ⟨first, behind, begins⟩ := names.exists_text
  have token : BeginsToken ((names.text ++ blanks) ++ rest) := by
    rw [begins, List.append_assoc, List.append_assoc]
    exact beginsToken_name first.named _
  have apart : EndsWord ((before.text ++ (names.text ++ blanks)) ++ rest) := by
    rw [List.append_assoc]
    exact before.endsWord _
  rw [text, plainImport, get_step]
  refine (?_ : Spans _ _ _ _) position row
  exact (spans_keyword keywordImport apart).bind ((spans_innerGap before.toGap token).bind
    ((spans_importedNames closes names bound).stay
      (.pure (Statement.plainImport row (names.names .fromText)) rest)))

theorem fromImport_of_selective (closes : EndsList .line blanks rest) (origin : WrittenOrigin)
    (selection : WrittenSelection)
    (enough : (WrittenImport.selective origin selection).text.length < fuel) (position row : Nat) :
    fromImport fuel
        ⟨((WrittenImport.selective origin selection).text ++ blanks) ++ rest, position, row, []⟩ =
      .ok ((WrittenImport.selective origin selection).statement .fromText row,
        ⟨rest, position + ((WrittenImport.selective origin selection).text ++ blanks).length,
          row + ((WrittenImport.selective origin selection).text ++ blanks).count '\n', []⟩) := by
  have keywordFrom : isName "from" = true := rfl
  have keywordImport : isName "import" = true := rfl
  simp only [WrittenImport.text_selective, List.length_append] at enough
  have text : (WrittenImport.selective origin selection).text ++ blanks =
      "from".toList ++ (origin.before.text ++ (origin.body ++ ("import".toList ++
        (selection.before.text ++ (selection.body ++ blanks))))) := by
    simp [WrittenImport.text_selective]
  have apart (later : List Char) : EndsWord ((origin.before.text ++ (origin.body ++ later)) ++ rest) := by
    rw [List.append_assoc, List.append_assoc]
    exact origin.endsWord (later ++ rest)
  have token (later : List Char) : BeginsToken ((origin.body ++ later) ++ rest) := by
    rw [List.append_assoc]
    exact origin.beginsToken (later ++ rest)
  have behindImport : EndsWord ((selection.before.text ++ (selection.body ++ blanks)) ++ rest) := by
    rw [List.append_assoc, List.append_assoc]
    exact selection.endsWord (blanks ++ rest)
  have selected : BeginsToken ((selection.body ++ blanks) ++ rest) := by
    rw [List.append_assoc]
    exact selection.beginsToken (blanks ++ rest)
  have read : Spans (importOrigin fuel) origin.body
      (("import".toList ++ (selection.before.text ++ (selection.body ++ blanks))) ++ rest)
      (origin.origin .fromText) := by
    rw [List.append_assoc]
    exact spans_importOrigin behindImport origin (by omega)
  obtain ⟨found, past, here⟩ := origin.exists_spans_word
    (("import".toList ++ (selection.before.text ++ (selection.body ++ blanks))) ++ rest)
  rw [← List.append_assoc] at here
  rw [text, fromImport, get_step]
  refine (?_ : Spans _ _ _ _) position row
  refine (spans_keyword keywordFrom (apart _)).bind
    ((spans_innerGap origin.before (token _)).bind (here.look ?_))
  rw [if_neg past]
  exact read.bind ((spans_keyword keywordImport behindImport).bind
    ((spans_innerGap selection.before selected).bind
      (spans_selection closes selection (by omega) row (origin.origin .fromText))))

theorem fromImport_of_future (closes : EndsList .line blanks rest) (before behind : Space false)
    (listing : WrittenListing)
    (enough : (WrittenImport.future before behind listing).text.length < fuel) (position row : Nat) :
    fromImport fuel
        ⟨((WrittenImport.future before behind listing).text ++ blanks) ++ rest, position, row, []⟩ =
      .ok ((WrittenImport.future before behind listing).statement .fromText row,
        ⟨rest, position + ((WrittenImport.future before behind listing).text ++ blanks).length,
          row + ((WrittenImport.future before behind listing).text ++ blanks).count '\n', []⟩) := by
  have keywordFrom : isName "from" = true := rfl
  have keywordFuture : isName "__future__" = true := rfl
  have keywordImport : isName "import" = true := rfl
  simp only [WrittenImport.text_future, List.length_append] at enough
  have text : (WrittenImport.future before behind listing).text ++ blanks =
      "from".toList ++ (before.text ++ ("__future__".toList ++ (behind.text ++ ("import".toList ++
        (listing.before.text ++ (listing.body ++ blanks)))))) := by
    simp [WrittenImport.text_future]
  have apart (space : Space false) (later : List Char) : EndsWord ((space.text ++ later) ++ rest) := by
    rw [List.append_assoc]
    exact space.endsWord (later ++ rest)
  have token {name : String} (named : isName name = true) (later : List Char) :
      BeginsToken ((name.toList ++ later) ++ rest) := by
    rw [List.append_assoc]
    exact beginsToken_name named (later ++ rest)
  have behindImport : EndsWord ((listing.before.text ++ (listing.body ++ blanks)) ++ rest) := by
    rw [List.append_assoc, List.append_assoc]
    exact listing.endsWord (blanks ++ rest)
  have listed : BeginsToken ((listing.body ++ blanks) ++ rest) := by
    rw [List.append_assoc]
    exact listing.beginsToken (blanks ++ rest)
  have here (later : List Char) : Spans word []
      (("__future__".toList ++ (behind.text ++ later)) ++ rest) "__future__" := by
    rw [List.append_assoc]
    exact spans_word keywordFuture (apart behind later)
  rw [text, fromImport, get_step]
  refine (?_ : Spans _ _ _ _) position row
  refine (spans_keyword keywordFrom (apart before _)).bind
    ((spans_innerGap before.toGap (token keywordFuture _)).bind ((here _).look ?_))
  rw [if_pos rfl]
  exact (spans_keyword keywordFuture (apart behind _)).bind
    ((spans_innerGap behind.toGap (token keywordImport _)).bind
      ((spans_keyword keywordImport behindImport).bind ((spans_innerGap listing.before listed).bind
        ((spans_importedList closes listing (by omega)).stay
          (.pure (Statement.futureImport row) rest)))))

/-- An import statement is read up to the end of the line. -/
theorem simpleStatement_of_written (read : TermReader) (closes : EndsList .line blanks rest)
    (statement : WrittenImport) (enough : statement.text.length < fuel) (position row : Nat) :
    simpleStatement read fuel ⟨(statement.text ++ blanks) ++ rest, position, row, []⟩ =
      .ok (statement.statement .fromText row, ⟨rest, position + (statement.text ++ blanks).length,
        row + (statement.text ++ blanks).count '\n', []⟩) := by
  have kind := statement.spans_keyword (blanks ++ rest)
  rw [← List.append_assoc] at kind
  rw [simpleStatement, kind.look_step]
  cases statement with
  | plain before names => exact plainImport_of_written closes before names enough position row
  | selective origin selection =>
    exact fromImport_of_selective closes origin selection enough position row
  | future before behind listing =>
    exact fromImport_of_future closes before behind listing enough position row

end LayerAtlas.SourceText
