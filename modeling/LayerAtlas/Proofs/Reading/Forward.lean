import LayerAtlas.Proofs.Reading.Gap
import LayerAtlas.SourceText.CompoundStatement

/-!
# Readers move forward

A reader never goes back: wherever it stops, it has passed no fewer characters and no fewer rows than where
it began. This holds of the readers that the others are made of and is kept by the ways of putting them
together, so it is an instance for each reader, found from its text. Readers that loop take it by induction
on the steps they are allowed, and readers with others as parameters take it from those.
-/
namespace LayerAtlas.SourceText

/-- `next` is not in front of `cursor`. -/
structure Cursor.Precedes (cursor next : Cursor) : Prop where
  row : cursor.row ≤ next.row
  position : cursor.position ≤ next.position

namespace Cursor.Precedes

variable {first second third : Cursor}

theorem refl (cursor : Cursor) : cursor.Precedes cursor :=
  ⟨Nat.le_refl _, Nat.le_refl _⟩

theorem trans (here : first.Precedes second) (there : second.Precedes third) : first.Precedes third :=
  ⟨Nat.le_trans here.row there.row, Nat.le_trans here.position there.position⟩

end Cursor.Precedes

/-- A reading in two parts is a reading of the first one and one of the second behind it. -/
theorem exists_of_bind_eq_ok {α β : Type} {reader : Reader α} {next : α → Reader β}
    {cursor last : Cursor} {result : β} (run : (reader >>= next) cursor = .ok (result, last)) :
    ∃ found middle, reader cursor = .ok (found, middle) ∧ next found middle = .ok (result, last) := by
  change (reader cursor).bind _ = _ at run
  cases first : reader cursor with
  | error fault =>
    rw [first] at run
    cases run
  | ok found =>
    rw [first] at run
    exact ⟨found.1, found.2, rfl, run⟩

/-- A reader that stops nowhere in front of where it begins. -/
class Forward {α : Type} (reader : Reader α) : Prop where
  precedes : ∀ {cursor found next}, reader cursor = .ok (found, next) → cursor.Precedes next

namespace Forward

variable {α β : Type}

instance pure (found : α) : Forward (Pure.pure found : Reader α) where
  precedes := by
    rintro cursor _ _ ⟨⟩
    exact .refl cursor

instance bind (reader : Reader α) (next : α → Reader β) [Forward reader]
    [∀ found, Forward (next found)] : Forward (reader >>= next) where
  precedes := by
    intro cursor result last run
    obtain ⟨found, middle, first, second⟩ := exists_of_bind_eq_ok run
    exact (precedes first).trans (precedes second)

/-- For readers whose next step depends on what has been found by more than a condition. -/
theorem andThen {reader : Reader α} {next : α → Reader β} [Forward reader]
    (each : ∀ found, Forward (next found)) : Forward (reader >>= next) :=
  bind reader next

instance ite (condition : Prop) [Decidable condition] (first second : Reader α) [Forward first]
    [Forward second] : Forward (if condition then first else second) := by
  split <;> infer_instance

instance stuck : Forward (SourceText.stuck : Reader α) where
  precedes := by
    intro cursor found next run
    cases run

instance get : Forward (get : Reader Cursor) where
  precedes := by
    rintro cursor _ _ ⟨⟩
    exact .refl cursor

instance either (first second : Reader α) [Forward first] [Forward second] :
    Forward (either first second) where
  precedes := by
    intro cursor result last run
    unfold SourceText.either at run
    split at run
    · cases run
      exact precedes ‹_›
    · exact precedes run

theorem modify {move : Cursor → Cursor} (moves : ∀ cursor : Cursor, cursor.Precedes (move cursor)) :
    Forward (modify move : Reader Unit) where
  precedes := by
    rintro cursor _ _ ⟨⟩
    exact moves cursor

end Forward

/-! Characters and words. -/

instance forward_peek : Forward peek := by
  unfold peek
  infer_instance

instance forward_advance (count : Nat) : Forward (advance count) :=
  .modify fun _ => ⟨Nat.le_refl _, Nat.le_add_right _ _⟩

instance forward_word : Forward word := by
  unfold word
  infer_instance

instance forward_takeWord : Forward takeWord := by
  unfold takeWord
  infer_instance

instance forward_keyword (text : String) : Forward (keyword text) := by
  unfold keyword
  infer_instance

instance forward_lookingAt (text : String) : Forward (lookingAt text) := by
  unfold lookingAt
  infer_instance

instance forward_symbol (text : String) : Forward (symbol text) := by
  unfold symbol
  infer_instance

instance forward_lookingAtSingle (c other : Char) : Forward (lookingAtSingle c other) := by
  unfold lookingAtSingle
  refine .andThen fun cursor => ?_
  split <;> infer_instance

/-! Layout. -/

theorem Cursor.precedes_passBlanks (cursor : Cursor) (stopsAtBreak notesComments : Bool) :
    cursor.Precedes (cursor.passBlanks stopsAtBreak notesComments).2 := by
  have whole : ∀ rest position row margin,
      row ≤ (SourceText.passBlanks stopsAtBreak notesComments cursor.indents rest position row
          margin).2.row ∧
        position ≤ (SourceText.passBlanks stopsAtBreak notesComments cursor.indents rest position row
          margin).2.position := by
    intro rest position row margin
    fun_induction SourceText.passBlanks stopsAtBreak notesComments cursor.indents rest position row
      margin <;> grind
  obtain ⟨row, position⟩ := whole cursor.rest cursor.position cursor.row .start
  exact ⟨row, position⟩

instance forward_gap (follow : Follow) (mayQuote : Bool) : Forward (gap follow mayQuote) where
  precedes := by
    intro cursor found next run
    have passed := cursor.precedes_passBlanks follow.lineEnd true
    unfold gap at run
    dsimp only at run
    split at run <;> split at run <;> cases run <;> exact passed

instance forward_operandGap (follow : Follow) : Forward (operandGap follow) := by
  unfold operandGap
  infer_instance

instance forward_elementGap (follow : Follow) : Forward (elementGap follow) := by
  unfold elementGap
  infer_instance

instance forward_innerGap : Forward innerGap := by
  unfold innerGap
  infer_instance

instance forward_atLineEnd : Forward atLineEnd := by
  unfold atLineEnd
  refine .andThen fun cursor => ?_
  split <;> infer_instance

instance forward_closesBlock : Forward closesBlock where
  precedes := by
    intro cursor found next run
    have passed := cursor.precedes_passBlanks false false
    unfold closesBlock at run
    dsimp only at run
    split at run <;> cases run
    · exact ⟨Nat.le_refl _, Nat.le_refl _⟩
    · exact passed

instance forward_suiteStart : Forward suiteStart where
  precedes := by
    intro cursor found next run
    have passed := cursor.precedes_passBlanks false false
    unfold suiteStart at run
    dsimp only at run
    split at run
    · cases run
      exact passed
    · split at run <;> cases run <;> exact ⟨Nat.le_refl _, Nat.le_refl _⟩

/-! Strings. -/

theorem Cursor.precedes_next (cursor : Cursor) : cursor.Precedes cursor.next := by
  unfold next
  split
  · exact .refl cursor
  · constructor
    · dsimp only
      split <;> omega
    · exact Nat.le_add_right _ _

instance forward_advanceLines (count : Nat) : Forward (advanceLines count) := by
  refine .modify fun cursor => ?_
  induction count generalizing cursor with
  | zero => exact .refl cursor
  | succ count ih => exact cursor.precedes_next.trans (ih cursor.next)

section Field

variable (field : Reader Unit) [Forward field]

instance forward_brokenPiece : Forward (brokenPiece field) := by
  unfold brokenPiece
  refine .andThen fun cursor => .andThen fun _ => .andThen fun behind => ?_
  split <;> infer_instance

instance forward_stringBody (opening : StringOpening) (fuel : Nat) (piece : Piece) :
    Forward (stringBody opening field fuel piece) := by
  induction fuel generalizing piece with
  | zero =>
    unfold stringBody
    infer_instance
  | succ fuel ih =>
    unfold stringBody
    refine .andThen fun cursor => ?_
    dsimp only
    split
    · infer_instance
    · split
      · infer_instance
      · infer_instance
      · cases piece <;> infer_instance

instance forward_stringLiteral (fuel : Nat) : Forward (stringLiteral fuel field) := by
  unfold stringLiteral
  refine .andThen fun cursor => ?_
  split <;> infer_instance

instance forward_fieldFormat (fuel : Nat) : Forward (fieldFormat field fuel) := by
  induction fuel with
  | zero =>
    unfold fieldFormat
    infer_instance
  | succ fuel ih =>
    unfold fieldFormat
    refine .andThen fun cursor => ?_
    split <;> infer_instance

end Field

end LayerAtlas.SourceText
