import LayerAtlas.SourceText.Layout
import LayerAtlas.Text.Blank

/-!
# Reading words and signs

What a reader does with a text is told by what it finds and where it stops. Readings of parts put
together are a reading of the whole; each of them is stated with what follows it, since a word goes on for
as long as it can.
-/
namespace LayerAtlas.SourceText

/-- In front of `rest`, outside of all blocks, reading this text gives `found` and moves behind it, as
many rows down as it breaks lines. -/
def Spans {α : Type} (reader : Reader α) (text rest : List Char) (found : α) : Prop :=
  ∀ position row, reader ⟨text ++ rest, position, row, []⟩ =
    .ok (found, ⟨rest, position + text.length, row + text.count '\n', []⟩)

/-- What comes next goes on with what has been read. -/
theorem bind_of_ok {α β : Type} {reader : Reader α} {cursor after : Cursor} {found : α}
    (first : reader cursor = .ok (found, after)) (next : α → Reader β) :
    (reader >>= next) cursor = next found after := by
  change (reader cursor).bind _ = _
  rw [first]
  rfl

theorem get_step {α : Type} (next : Cursor → Reader α) (cursor : Cursor) :
    (get >>= next) cursor = next cursor cursor := rfl

namespace Spans

variable {α β : Type} {reader : Reader α} {next : α → Reader β} {text later rest : List Char}
  {found : α} {result : β}

theorem pure (found : α) (rest : List Char) : Spans (Pure.pure found) [] rest found :=
  fun _ _ => rfl

/-- One reading after another. -/
theorem bind (first : Spans reader text (later ++ rest) found)
    (second : Spans (next found) later rest result) :
    Spans (reader >>= next) (text ++ later) rest result := by
  intro position row
  rw [List.append_assoc, bind_of_ok (first position row), second, List.length_append,
    List.count_append, Nat.add_assoc, Nat.add_assoc]

/-- A reader that only looks and one that goes on. -/
theorem look (first : Spans reader [] (text ++ rest) found)
    (second : Spans (next found) text rest result) :
    Spans (reader >>= next) text rest result :=
  first.bind second

/-- A reader that goes on and one that stays where that leads. -/
theorem stay (first : Spans reader text rest found) (second : Spans (next found) [] rest result) :
    Spans (reader >>= next) text rest result := by
  have both : Spans (reader >>= next) (text ++ []) rest result := first.bind second
  rwa [List.append_nil] at both

theorem step (first : Spans reader text rest found) (next : α → Reader β) (position row : Nat) :
    (reader >>= next) ⟨text ++ rest, position, row, []⟩ =
      next found ⟨rest, position + text.length, row + text.count '\n', []⟩ :=
  bind_of_ok (first position row) next

theorem look_step (first : Spans reader [] rest found) (next : α → Reader β) (position row : Nat) :
    (reader >>= next) ⟨rest, position, row, []⟩ = next found ⟨rest, position, row, []⟩ :=
  first.step next position row

end Spans

/-! Characters. -/

/-- A text that can be the name of something. No identifier holds a blank, not even a hidden one; that is
asked for here so that no proof has to go through the tables of identifiers. -/
def isName (text : String) : Bool :=
  match text.toList with
  | [] => false
  | c :: rest =>
    isIdentifierStart c && rest.all isIdentifierContinue &&
      (c :: rest).all fun d => !isBlank d && !isHiddenBlank d

/-- The characters over which a reader passes on its way to the next token. -/
def layoutChars : List Char :=
  ['\n', ' ', '\t', '\r', '\x0c', '\x0b', '\u200b', '\u2060', '\ufeff', '#', '\\']

theorem ne_of_isIdentifierStart {c d : Char} (start : isIdentifierStart c = true)
    (other : isIdentifierStart d = false) : c ≠ d := by
  rintro rfl
  exact Bool.noConfusion (start.symm.trans other)

structure StartsName (c : Char) : Prop where
  start : isIdentifierStart c = true
  blank : isBlank c = false
  hidden : isHiddenBlank c = false

theorem StartsName.not_mem_layoutChars {c : Char} (starts : StartsName c) : c ∉ layoutChars := by
  have sign : c ≠ '#' ∧ c ≠ '\\' :=
    ⟨ne_of_isIdentifierStart starts.start rfl, ne_of_isIdentifierStart starts.start rfl⟩
  have blank :
      layoutChars.all (fun d => isBlank d || isHiddenBlank d || d = '#' || d = '\\') = true := rfl
  intro listed
  simpa [starts.blank, starts.hidden, sign] using List.all_eq_true.mp blank c listed

theorem exists_of_isName {name : String} (named : isName name = true) :
    ∃ c rest, name.toList = c :: rest ∧ StartsName c ∧
      (∀ d ∈ rest, isIdentifierContinue d = true) ∧ ∀ d ∈ c :: rest, isBlank d = false := by
  unfold isName at named
  cases chars : name.toList with
  | nil => simp [chars] at named
  | cons c rest =>
    simp only [chars, Bool.and_eq_true, List.all_eq_true, Bool.not_eq_true'] at named
    obtain ⟨⟨start, inside⟩, solid⟩ := named
    have first := solid c List.mem_cons_self
    exact ⟨c, rest, rfl, ⟨start, first.1, first.2⟩, inside, fun d listed => (solid d listed).1⟩

/-- What comes behind a name so that the name ends there. -/
def Breaks (rest : List Char) : Prop :=
  ∃ c after, rest = c :: after ∧ isIdentifierContinue c = false

theorem breaks_cons {c : Char} (ends : isIdentifierContinue c = false) (after : List Char) :
    Breaks (c :: after) :=
  ⟨c, after, rfl, ends⟩

/-- What comes behind a name so that the name ends there, be it the end of the text. -/
def EndsWord (rest : List Char) : Prop :=
  rest = [] ∨ Breaks rest

theorem endsWord_nil : EndsWord [] :=
  .inl rfl

theorem endsWord_cons {c : Char} (ends : isIdentifierContinue c = false) (after : List Char) :
    EndsWord (c :: after) :=
  .inr (breaks_cons ends after)

theorem takeWhile_append_of_endsWord {word rest : List Char}
    (inside : ∀ d ∈ word, isIdentifierContinue d = true) (ends : EndsWord rest) :
    (word ++ rest).takeWhile isIdentifierContinue = word := by
  rw [List.takeWhile_append_of_pos inside]
  obtain rfl | ⟨c, after, rfl, ends⟩ := ends
  · rw [List.takeWhile_nil, List.append_nil]
  · rw [List.takeWhile_cons_of_neg (by simp [ends]), List.append_nil]

/-! Words. -/

variable {name : String} {rest : List Char} {c : Char}

theorem ne_empty_of_isName (named : isName name = true) : name ≠ "" := by
  rintro rfl
  cases named

theorem not_mem_of_isName (named : isName name = true) : '\n' ∉ name.toList := by
  obtain ⟨_, _, chars, _, _, solid⟩ := exists_of_isName named
  intro listed
  have blank := solid '\n' (chars ▸ listed)
  cases blank

theorem spans_advance {text : List Char} (unbroken : '\n' ∉ text) (rest : List Char) :
    Spans (advance text.length) text rest () := by
  intro position row
  change Except.ok ((), Cursor.drop _ _) = _
  unfold Cursor.drop
  rw [List.drop_left, List.count_eq_zero_of_not_mem unbroken]
  rfl

section Named

variable (named : isName name = true) (ends : EndsWord rest)
include named ends

theorem word_of_isName (position row : Nat) (indents : List Nat) :
    (⟨name.toList ++ rest, position, row, indents⟩ : Cursor).word = name := by
  obtain ⟨c, others, chars, starts, inside, _⟩ := exists_of_isName named
  unfold Cursor.word
  rw [chars]
  dsimp only [List.cons_append]
  rw [if_pos starts.start, takeWhile_append_of_endsWord inside ends, ← chars, String.ofList_toList]

theorem spans_word : Spans word [] (name.toList ++ rest) name := by
  intro position row
  change Except.ok (Cursor.word _, _) = _
  rw [List.nil_append, word_of_isName named ends]
  rfl

theorem spans_keyword : Spans (keyword name) name.toList rest () := by
  refine (spans_word named ends).look ?_
  rw [if_pos rfl, ← String.length_toList]
  exact spans_advance (not_mem_of_isName named) rest

theorem spans_takeWord : Spans takeWord name.toList rest name := by
  refine (spans_word named ends).look ?_
  rw [if_neg (ne_empty_of_isName named), ← String.length_toList]
  exact (spans_advance (not_mem_of_isName named) rest).stay (.pure name rest)

end Named

theorem spans_word_nothing (other : ∀ c ∈ rest.head?, isIdentifierStart c = false) :
    Spans word [] rest "" := by
  intro position row
  change Except.ok (Cursor.word _, _) = _
  unfold Cursor.word
  cases rest with
  | nil => rfl
  | cons c after => simp [other c rfl]

/-! Signs. -/

section Signs

variable {text : String} {d : Char} (sign : text.toList = [d])
include sign

theorem spans_lookingAt_here (rest : List Char) : Spans (lookingAt text) [] (d :: rest) true := by
  intro position row
  change Except.ok (List.isPrefixOf text.toList (d :: rest), _) = _
  rw [sign, List.isPrefixOf_cons_cons, beq_self_eq_true, Bool.true_and]
  rfl

theorem spans_lookingAt_other (other : rest.head? ≠ some d) : Spans (lookingAt text) [] rest false := by
  intro position row
  change Except.ok (List.isPrefixOf text.toList rest, _) = _
  rw [sign]
  cases rest with
  | nil => rfl
  | cons c after =>
    have apart : d ≠ c := fun same => other (congrArg some same.symm)
    rw [List.isPrefixOf_cons_cons, beq_false_of_ne apart, Bool.false_and]
    rfl

end Signs

theorem spans_advance_one (solid : c ≠ '\n') (rest : List Char) : Spans (advance 1) [c] rest () :=
  spans_advance (by simpa using solid.symm) rest

theorem spans_symbol {text : String} {d : Char} (sign : text.toList = [d]) (solid : d ≠ '\n')
    (rest : List Char) : Spans (symbol text) [d] rest () := by
  refine (spans_lookingAt_here sign rest).look ?_
  have length : text.length = 1 := by rw [← String.length_toList, sign, List.length_singleton]
  rw [if_pos rfl, length]
  exact spans_advance_one solid rest

end LayerAtlas.SourceText
