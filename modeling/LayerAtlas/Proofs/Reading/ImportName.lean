import LayerAtlas.Proofs.Identifier
import LayerAtlas.Proofs.ImportOrder
import LayerAtlas.Proofs.Reading.ForwardLine

/-!
# Names of import statements

No name in an import statement is empty: a dotted name begins with a character that is no blank, and it
goes at least up to there. The statement keeps the row in which it begins.
-/
namespace LayerAtlas.SourceText

/-! What a reader gives. -/

/-- What a reader gives from here, where it does not get stuck. -/
structure Gives {α : Type} (reader : Reader α) (cursor : Cursor) (property : α → Prop) : Prop where
  of_ok : ∀ {found next}, reader cursor = .ok (found, next) → property found

namespace Gives

variable {α β : Type} {reader : Reader α} {next : α → Reader β} {cursor : Cursor}
  {inner : α → Prop} {property : β → Prop}

theorem pure {found : β} (holds : property found) : Gives (Pure.pure found) cursor property where
  of_ok := by
    rintro _ _ ⟨⟩
    exact holds

theorem stuck : Gives SourceText.stuck cursor property where
  of_ok := by
    intro found next run
    cases run

theorem get {next : Cursor → Reader β} (here : Gives (next cursor) cursor property) :
    Gives (get >>= next) cursor property where
  of_ok := here.of_ok

/-- Looking at a word does not move. -/
theorem word {next : String → Reader β} (here : Gives (next cursor.word) cursor property) :
    Gives (word >>= next) cursor property where
  of_ok := here.of_ok

theorem andThen (here : Gives reader cursor inner)
    (each : ∀ found middle, inner found → Gives (next found) middle property) :
    Gives (reader >>= next) cursor property where
  of_ok := by
    intro result last run
    obtain ⟨found, middle, first, run⟩ := exists_of_bind_eq_ok run
    exact (each found middle (here.of_ok first)).of_ok run

theorem past [Forward reader]
    (each : ∀ found middle, cursor.Precedes middle → Gives (next found) middle property) :
    Gives (reader >>= next) cursor property where
  of_ok := by
    intro result last run
    obtain ⟨found, middle, first, run⟩ := exists_of_bind_eq_ok run
    exact (each found middle (Forward.precedes first)).of_ok run

theorem behind (each : ∀ found middle, Gives (next found) middle property) :
    Gives (reader >>= next) cursor property :=
  andThen (⟨fun _ => trivial⟩ : Gives reader cursor fun _ => True) fun found middle _ =>
    each found middle

theorem ite {condition : Prop} [Decidable condition] {first second : Reader β}
    (holds : Gives first cursor property) (fails : Gives second cursor property) :
    Gives (if condition then first else second) cursor property := by
  split
  · exact holds
  · exact fails

end Gives

/-! Names. -/

variable {follow : Follow} {fuel : Nat} {cursor : Cursor}

theorem exists_of_word_ne_empty (named : cursor.word ≠ "") :
    ∃ c rest, cursor.rest = c :: rest ∧ isBlank c = false := by
  unfold Cursor.word at named
  split at named
  · exact absurd rfl named
  · rename_i c rest chars
    split at named
    · rename_i start
      exact ⟨c, rest, chars, isBlank_of_isIdentifierStart start⟩
    · exact absurd rfl named

/-- A word that is taken begins with a character that is no blank, and is passed. -/
theorem exists_of_takeWord {found : String} {next : Cursor}
    (run : takeWord cursor = .ok (found, next)) :
    (∃ c rest, cursor.rest = c :: rest ∧ isBlank c = false) ∧ cursor.position < next.position := by
  obtain ⟨_, _, ⟨⟩, run⟩ := exists_of_bind_eq_ok run
  by_cases named : cursor.word = ""
  · rw [if_pos named] at run
    cases run
  · rw [if_neg named] at run
    obtain ⟨_, _, ⟨⟩, ⟨⟩⟩ := exists_of_bind_eq_ok run
    refine ⟨exists_of_word_ne_empty named, Nat.lt_add_of_pos_right (Nat.pos_of_ne_zero ?_)⟩
    simpa using named

theorem precedes_segmentsEnd {start : Cursor} (ahead : start.Precedes cursor) :
    Gives (segmentsEnd follow fuel) cursor start.Precedes := by
  induction fuel generalizing cursor with
  | zero => exact .stuck
  | succ fuel ih =>
    apply Gives.get
    refine .past fun _ gap spaced => .past fun _ here looked => ?_
    have reached := (ahead.trans spaced).trans looked
    apply Gives.ite
    · refine .past fun _ _ dot => .past fun _ _ apart => .past fun _ _ word => ?_
      exact ih (((reached.trans dot).trans apart).trans word)
    · exact .pure ahead

theorem dottedName_ne_empty : Gives (dottedName follow fuel) cursor (· ≠ "") where
  of_ok := by
    intro name _ run
    obtain ⟨_, _, ⟨⟩, run⟩ := exists_of_bind_eq_ok run
    obtain ⟨_, behind, taken, run⟩ := exists_of_bind_eq_ok run
    obtain ⟨finish, _, passed, ⟨⟩⟩ := exists_of_bind_eq_ok run
    obtain ⟨⟨c, rest, chars, solid⟩, moved⟩ := exists_of_takeWord taken
    have ahead := ((precedes_segmentsEnd (.refl behind)).of_ok passed).position
    obtain ⟨count, length⟩ : ∃ count, finish.position - cursor.position = count + 1 :=
      ⟨finish.position - cursor.position - 1, by omega⟩
    unfold Cursor.nameUpTo Cursor.slice dropBlanks
    rw [length, chars, String.toList_ofList, List.take_succ_cons, List.filter_cons, solid]
    simp

theorem importedName_ne_empty : Gives (importedName follow fuel) cursor (· ≠ "") := by
  apply dottedName_ne_empty.andThen
  intro name _ named
  refine .behind fun found _ => ?_
  apply Gives.ite
  · repeat refine .behind fun _ _ => ?_
    exact .pure named
  · exact .pure named

theorem not_mem_importedNames : Gives (importedNames follow fuel) cursor ("" ∉ ·) := by
  induction fuel generalizing cursor with
  | zero => exact .stuck
  | succ fuel ih =>
    apply importedName_ne_empty.andThen
    intro name _ named
    have single : "" ∉ [name] := fun listed => named (List.mem_singleton.mp listed).symm
    refine .behind fun isComma _ => ?_
    apply Gives.ite
    · refine .behind fun _ _ => .behind fun _ _ => .behind fun found _ => ?_
      apply Gives.ite
      · exact .pure single
      · apply ih.andThen
        intro names _ others
        refine .pure fun listed => ?_
        rcases List.mem_cons.mp listed with empty | listed
        · exact named empty.symm
        · exact others listed
    · exact .pure single

theorem not_mem_importedList : Gives (importedList fuel) cursor ("" ∉ ·) := by
  refine .behind fun isBracket _ => ?_
  apply Gives.ite
  · refine .behind fun _ _ => .behind fun _ _ => ?_
    apply not_mem_importedNames.andThen
    intro names _ named
    exact .behind fun _ _ => .behind fun _ _ => .pure named
  · exact not_mem_importedNames

/-! Statements. -/

theorem standsIn_plainImport :
    Gives (plainImport fuel) cursor (·.StandsIn cursor.row cursor.row) := by
  apply Gives.get
  refine .behind fun _ _ => .behind fun _ _ => ?_
  apply not_mem_importedNames.andThen
  intro modules _ named
  exact .pure ⟨⟨Nat.le_refl _, Nat.le_refl _⟩, named⟩

theorem standsIn_fromImport :
    Gives (fromImport fuel) cursor (·.StandsIn cursor.row cursor.row) := by
  apply Gives.get
  refine .behind fun _ _ => .behind fun _ _ => .behind fun found _ => ?_
  apply Gives.ite
  · repeat refine .behind fun _ _ => ?_
    exact .pure ⟨Nat.le_refl _, Nat.le_refl _⟩
  · repeat refine .behind fun _ _ => ?_
    apply Gives.ite
    · refine .behind fun _ _ => .behind fun _ _ => .pure ?_
      exact ⟨⟨Nat.le_refl _, Nat.le_refl _⟩, by decide⟩
    · apply not_mem_importedList.andThen
      intro names _ named
      exact .pure ⟨⟨Nat.le_refl _, Nat.le_refl _⟩, named⟩

theorem standsIn_simpleStatement (read : TermReader) :
    Gives (simpleStatement read fuel) cursor (·.StandsIn cursor.row cursor.row) := by
  unfold simpleStatement
  refine .word ?_
  split
  · exact standsIn_plainImport
  · exact standsIn_fromImport
  · exact .behind fun _ _ => .pure (Nat.le_refl _)

end LayerAtlas.SourceText
