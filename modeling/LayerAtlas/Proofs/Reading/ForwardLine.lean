import LayerAtlas.Proofs.Reading.Forward

/-!
# Lines move forward

The readers of what may stand on a line never go back: expressions, type hints, patterns and simple
statements, import statements among them. A reader with another one as a parameter takes it from there, so
each level of nesting takes it from the one below.
-/
namespace LayerAtlas.SourceText

set_option synthInstance.maxSize 3000

instance forward_startsOperand : Forward startsOperand := by
  unfold startsOperand
  refine .andThen fun cursor => ?_
  split <;> infer_instance

instance forward_takeAssign : Forward takeAssign := by
  unfold takeAssign
  infer_instance

instance forward_atComprehension : Forward atComprehension := by
  unfold atComprehension
  infer_instance

section Term

variable (read : TermReader) [∀ level follow, Forward (read level follow)] (follow : Follow)

/-! Terms. -/

instance forward_expressionList (fuel : Nat) : Forward (expressionList read follow fuel) := by
  induction fuel <;> unfold expressionList <;> infer_instance

instance forward_yieldExpression (fuel : Nat) : Forward (yieldExpression read follow fuel) := by
  unfold yieldExpression
  infer_instance

instance forward_field (fuel : Nat) : Forward (field read fuel) := by
  induction fuel with
  | zero =>
    unfold field
    infer_instance
  | succ fuel ih =>
    unfold field
    -- What stands behind the expressions is read the same way on every branch.
    extract_lets _ follow closed format conversion behind
    have forwardClosed (found : Unit) : Forward (closed found) := forward_symbol _
    have forwardFormat (found : Unit) : Forward (format found) := by
      unfold format
      infer_instance
    have forwardConversion (found : Unit) : Forward (conversion found) := by
      refine .andThen fun cursor => ?_
      split <;> infer_instance
    -- No instance is found from the text of a match, so it is closed again.
    clear_value conversion
    have forwardBehind (found : Unit) : Forward (behind found) := by
      unfold behind
      infer_instance
    infer_instance

instance forward_strings (fuel : Nat) : Forward (strings read follow fuel) := by
  induction fuel <;> unfold strings <;> infer_instance

/-! Brackets. -/

instance forward_element (fuel : Nat) : Forward (element read follow fuel) := by
  unfold element
  infer_instance

instance forward_target : Forward (target read follow) := by
  unfold target
  infer_instance

instance forward_targets (fuel : Nat) : Forward (targets read follow fuel) := by
  induction fuel <;> unfold targets <;> infer_instance

instance forward_iterables (fuel : Nat) : Forward (iterables read follow fuel) := by
  induction fuel <;> unfold iterables <;> infer_instance

instance forward_clauses (fuel : Nat) : Forward (clauses read follow fuel) := by
  induction fuel with
  | zero =>
    unfold clauses
    infer_instance
  | succ fuel ih =>
    unfold clauses
    dsimp only
    infer_instance

instance forward_laterElements (closer : String) (fuel : Nat) (areTargets : Bool) :
    Forward (laterElements read follow closer fuel areTargets) := by
  induction fuel generalizing areTargets <;> unfold laterElements <;> infer_instance

instance forward_elementsBehind (closer : String) (fuel : Nat) (first : Element) :
    Forward (elementsBehind read follow closer fuel first) := by
  unfold elementsBehind
  infer_instance

instance forward_collection (closer : String) (fuel : Nat) :
    Forward (collection read follow closer fuel) := by
  unfold collection
  infer_instance

instance forward_entryValue : Forward (entryValue read follow) := by
  unfold entryValue
  infer_instance

instance forward_entrySplat : Forward (entrySplat read follow) := by
  unfold entrySplat
  infer_instance

instance forward_laterEntries (fuel : Nat) : Forward (laterEntries read follow fuel) := by
  induction fuel <;> unfold laterEntries <;> infer_instance

instance forward_braces (fuel : Nat) : Forward (braces read follow fuel) := by
  unfold braces
  infer_instance

instance forward_argument : Forward (argument read follow) := by
  unfold argument
  infer_instance

instance forward_laterArguments (fuel : Nat) : Forward (laterArguments read follow fuel) := by
  induction fuel <;> unfold laterArguments <;> infer_instance

instance forward_arguments (fuel : Nat) : Forward (arguments read follow fuel) := by
  unfold arguments
  infer_instance

instance forward_sliceBound : Forward (sliceBound read follow) := by
  unfold sliceBound
  infer_instance

instance forward_sliceBehind : Forward (sliceBehind read follow) := by
  unfold sliceBehind
  infer_instance

instance forward_subscripts (fuel : Nat) : Forward (subscripts read follow fuel) := by
  induction fuel with
  | zero =>
    unfold subscripts
    infer_instance
  | succ fuel ih =>
    unfold subscripts
    dsimp only
    infer_instance

/-! Operands and operators. -/

instance forward_atom (fuel : Nat) : Forward (atom read follow fuel) := by
  unfold atom
  refine .andThen fun cursor => ?_
  dsimp only
  split
  · infer_instance
  · split <;> infer_instance

instance forward_trailers (fuel : Nat) (term : Term) : Forward (trailers read follow fuel term) := by
  induction fuel generalizing term with
  | zero =>
    unfold trailers
    infer_instance
  | succ fuel ih =>
    unfold trailers
    refine .andThen fun cursor => ?_
    split <;> infer_instance

instance forward_primary (fuel : Nat) : Forward (primary read follow fuel) := by
  unfold primary
  infer_instance

instance forward_takeAwait : Forward (takeAwait follow) := by
  unfold takeAwait
  infer_instance

instance forward_operand (fuel : Nat) : Forward (operand read follow fuel) := by
  induction fuel with
  | zero =>
    unfold operand
    infer_instance
  | succ fuel ih =>
    unfold operand
    refine .andThen fun sign => ?_
    split <;> infer_instance

instance forward_takeOperator : Forward (takeOperator follow) := by
  unfold takeOperator
  refine .andThen fun cursor => ?_
  dsimp only
  split
  · infer_instance
  · refine .andThen fun found => ?_
    split <;> infer_instance

instance forward_expressionTail (term : Term) : Forward (expressionTail read follow term) := by
  unfold expressionTail
  infer_instance

instance forward_operations (fuel : Nat) (term : Term) :
    Forward (operations read follow fuel term) := by
  induction fuel generalizing term <;> unfold operations <;> infer_instance

/-! Parameters. -/

instance forward_starredParameter : Forward (starredParameter read follow) := by
  unfold starredParameter
  infer_instance

instance forward_defaultValue : Forward (defaultValue read follow) := by
  unfold defaultValue
  infer_instance

section Parameters

variable (typeHint : Reader Unit) [Forward typeHint] (closer : String)

instance forward_parameter : Forward (parameter read typeHint follow closer) := by
  unfold parameter
  refine .andThen fun cursor => ?_
  split <;> infer_instance

instance forward_parameters (fuel : Nat) :
    Forward (parameters read typeHint follow closer fuel) := by
  induction fuel <;> unfold parameters <;> infer_instance

end Parameters

instance forward_lambda (fuel : Nat) : Forward (lambda read follow fuel) := by
  unfold lambda
  infer_instance

instance forward_whole (fuel : Nat) : Forward (whole read follow fuel) := by
  unfold whole
  refine .andThen fun found => ?_
  split <;> infer_instance

end Term

/-- The recursion that ties expressions together. -/
instance forward_expression (fuel : Nat) (level : Level) (follow : Follow) :
    Forward (expression fuel level follow) := by
  induction fuel generalizing level follow with
  | zero =>
    unfold expression
    infer_instance
  | succ fuel ih => cases level <;> unfold expression <;> infer_instance

/-! Type hints. -/

instance forward_takeGenericName (follow : Follow) : Forward (takeGenericName follow) := by
  unfold takeGenericName
  infer_instance

section TypeHint

variable (hint : Reader Unit) [Forward hint] (follow : Follow)

instance forward_typeArguments (fuel : Nat) : Forward (typeArguments hint follow fuel) := by
  induction fuel <;> unfold typeArguments <;> infer_instance

instance forward_typeHintTail (mayBound : Bool) (fuel : Nat) :
    Forward (typeHintTail hint follow mayBound fuel) := by
  induction fuel <;> unfold typeHintTail <;> infer_instance

end TypeHint

section Annotated

variable (read : TermReader) [∀ level follow, Forward (read level follow)] (follow : Follow)

instance forward_typeHint (fuel : Nat) (mayBound : Bool) (follow : Follow) :
    Forward (typeHint read fuel mayBound follow) := by
  induction fuel generalizing mayBound follow <;> unfold typeHint <;> infer_instance

instance forward_colonType (fuel : Nat) : Forward (colonType read follow fuel) := by
  unfold colonType
  infer_instance

instance forward_typeParameters (fuel : Nat) : Forward (typeParameters read fuel) := by
  unfold typeParameters
  infer_instance

end Annotated

/-! Patterns. -/

section Pattern

variable (follow : Follow)

instance forward_casePatternNumber : Forward (casePatternNumber follow) := by
  unfold casePatternNumber
  infer_instance

instance forward_laterSegments (fuel : Nat) : Forward (laterSegments follow fuel) := by
  induction fuel <;> unfold laterSegments <;> infer_instance

instance forward_patternItems (item : Reader Unit) [Forward item] (closer : String) (fuel : Nat) :
    Forward (patternItems item follow closer fuel) := by
  induction fuel <;> unfold patternItems <;> infer_instance

instance forward_starredPattern : Forward (starredPattern follow) := by
  unfold starredPattern
  infer_instance

instance forward_casePatternAtom (read : TermReader) [∀ level follow, Forward (read level follow)]
    (pattern key : Follow → Reader Unit) [∀ follow, Forward (pattern follow)]
    [∀ follow, Forward (key follow)] (fuel : Nat) :
    Forward (casePatternAtom read pattern key follow fuel) := by
  unfold casePatternAtom
  refine .andThen fun cursor => ?_
  dsimp only
  split
  · infer_instance
  · split <;> infer_instance

instance forward_casePatternChoice (atom : Reader Bool) [Forward atom] (fuel : Nat) :
    Forward (casePatternChoice atom follow fuel) := by
  induction fuel <;> unfold casePatternChoice <;> infer_instance

instance forward_casePatternNames (fuel : Nat) : Forward (casePatternNames follow fuel) := by
  induction fuel <;> unfold casePatternNames <;> infer_instance

variable (read : TermReader) [∀ level follow, Forward (read level follow)]

instance forward_casePatternAt (fuel : Nat) (level : PatternLevel) (follow : Follow) :
    Forward (casePatternAt read fuel level follow) := by
  induction fuel generalizing level follow with
  | zero =>
    unfold casePatternAt
    infer_instance
  | succ fuel ih =>
    unfold casePatternAt
    refine .andThen fun isName => ?_
    cases level <;> infer_instance

instance forward_casePatterns (fuel : Nat) : Forward (casePatterns read fuel) := by
  induction fuel <;> unfold casePatterns <;> infer_instance

end Pattern

/-! Import statements. -/

section Import

variable (follow : Follow)

instance forward_segmentsEnd (fuel : Nat) : Forward (segmentsEnd follow fuel) := by
  induction fuel <;> unfold segmentsEnd <;> infer_instance

instance forward_dottedName (fuel : Nat) : Forward (dottedName follow fuel) := by
  unfold dottedName
  infer_instance

instance forward_importedName (fuel : Nat) : Forward (importedName follow fuel) := by
  unfold importedName
  infer_instance

instance forward_importedNames (fuel : Nat) : Forward (importedNames follow fuel) := by
  induction fuel <;> unfold importedNames <;> infer_instance

instance forward_importedList (fuel : Nat) : Forward (importedList fuel) := by
  unfold importedList
  infer_instance

instance forward_plainImport (fuel : Nat) : Forward (plainImport fuel) := by
  unfold plainImport
  infer_instance

instance forward_leadingDots (fuel : Nat) : Forward (leadingDots fuel) := by
  induction fuel <;> unfold leadingDots <;> infer_instance

instance forward_importOrigin (fuel : Nat) : Forward (importOrigin fuel) := by
  unfold importOrigin
  infer_instance

instance forward_fromImport (fuel : Nat) : Forward (fromImport fuel) := by
  unfold fromImport
  infer_instance

end Import

/-! Simple statements. -/

section Simple

variable (read : TermReader) [∀ level follow, Forward (read level follow)]

instance forward_takeOperationAssign : Forward takeOperationAssign := by
  unfold takeOperationAssign
  refine .andThen fun cursor => ?_
  dsimp only
  split <;> infer_instance

instance forward_expressionStatement (fuel : Nat) : Forward (expressionStatement read fuel) := by
  induction fuel <;> unfold expressionStatement <;> infer_instance

instance forward_strictList (fuel : Nat) : Forward (strictList read fuel) := by
  induction fuel <;> unfold strictList <;> infer_instance

instance forward_nameList (fuel : Nat) : Forward (nameList fuel) := by
  induction fuel <;> unfold nameList <;> infer_instance

instance forward_optionalList (fuel : Nat) : Forward (optionalList read fuel) := by
  unfold optionalList
  infer_instance

instance forward_printStatement (fuel : Nat) : Forward (printStatement read fuel) := by
  unfold printStatement
  infer_instance

instance forward_execStatement (fuel : Nat) : Forward (execStatement read fuel) := by
  unfold execStatement
  dsimp only
  infer_instance

instance forward_typeAlias (fuel : Nat) : Forward (typeAlias read fuel) := by
  unfold typeAlias
  infer_instance

instance forward_raiseStatement (fuel : Nat) : Forward (raiseStatement read fuel) := by
  unfold raiseStatement
  dsimp only
  infer_instance

instance forward_atStatementEnd : Forward atStatementEnd := by
  unfold atStatementEnd
  infer_instance

instance forward_ended (reader : Reader Unit) [Forward reader] : Forward (ended reader) := by
  unfold ended
  infer_instance

instance forward_plainStatement (fuel : Nat) : Forward (plainStatement read fuel) := by
  unfold plainStatement
  refine .andThen fun found => ?_
  split <;> infer_instance

instance forward_simpleStatement (fuel : Nat) : Forward (simpleStatement read fuel) := by
  unfold simpleStatement
  refine .andThen fun found => ?_
  split <;> infer_instance

end Simple

end LayerAtlas.SourceText
