import LayerAtlas.SourceText.TypeHint
import LayerAtlas.SourceText.ImportStatement

/-!
# Simple statements of Python

Statements that take part of a line. All of them end where the line may end.
-/
namespace LayerAtlas.SourceText

/-- Signs that assign the value of an operation, the longer ones first. -/
def assignmentSigns : List String :=
  ["**=", "//=", "<<=", ">>=", "+=", "-=", "*=", "/=", "%=", "@=", "&=", "|=", "^="]

/-- Moves over a sign that assigns the value of an operation. -/
def takeOperationAssign : Reader Bool := do
  let text := (← get).rest
  match assignmentSigns.find? fun sign => sign.toList.isPrefixOf text with
  | some sign => do
    advance sign.length
    return true
  | none => return false

/-- Expressions, or an assignment: its left side may be assigned to, its right side may be one again. -/
def expressionStatement (read : TermReader) : Nat → Reader Unit
  | 0 => stuck
  | fuel + 1 => do
    if (← word) = "yield" then yieldExpression read .line fuel
    else do
      let areTargets ← expressionList read .line fuel
      if areTargets then do
        if (← takeAssign) || (← takeOperationAssign) then do
          operandGap .line
          expressionStatement read fuel
        else if ← lookingAtSingle ':' '=' then do
          colonType read .line fuel
          if ← takeAssign then do
            operandGap .line
            expressionStatement read fuel

/-- Expressions separated by commas, without one at the end. -/
def strictList (read : TermReader) : Nat → Reader Unit
  | 0 => stuck
  | fuel + 1 => do
    let _ ← read .whole .line
    if ← lookingAt "," then do
      advance 1
      operandGap .line
      strictList read fuel

/-- Names separated by commas. -/
def nameList : Nat → Reader Unit
  | 0 => stuck
  | fuel + 1 => do
    innerGap
    let _ ← takeWord
    gap .line false
    if ← lookingAt "," then do
      advance 1
      nameList fuel

/-- Expressions up to the end of the statement, if any come. -/
def optionalList (read : TermReader) (fuel : Nat) : Reader Unit := do
  if ← startsOperand then do
    let _ ← expressionList read .line fuel

def printStatement (read : TermReader) (fuel : Nat) : Reader Unit := do
  keyword "print"
  operandGap .line
  if ← lookingAt ">>" then do
    advance 2
    operandGap .line
    let _ ← read .whole .line
    if ← lookingAt "," then do
      advance 1
      gap .line true
      optionalList read fuel
  else do
    let _ ← expressionList read .line fuel

def execStatement (read : TermReader) (fuel : Nat) : Reader Unit := do
  keyword "exec"
  operandGap .line
  if (StringOpening.of? (← get).rest).isSome then strings read .line fuel
  else do
    let _ ← takeWord
    gap .line false
  if (← word) = "in" then do
    keyword "in"
    operandGap .line
    strictList read fuel

def typeAlias (read : TermReader) (fuel : Nat) : Reader Unit := do
  keyword "type"
  operandGap .line
  typeHint read fuel true .line
  symbol "="
  operandGap .line
  typeHint read fuel true .line

def raiseStatement (read : TermReader) (fuel : Nat) : Reader Unit := do
  keyword "raise"
  gap .line true
  if (← word) ≠ "from" then optionalList read fuel
  if (← word) = "from" then do
    keyword "from"
    operandGap .line
    let _ ← read .whole .line

/-- Whether the statement ends here. -/
def atStatementEnd : Reader Bool := do
  return (← atLineEnd) || (← lookingAt ";")

/-- A reading that has to reach the end of the statement. -/
def ended (reader : Reader Unit) : Reader Unit := do
  reader
  if !(← atStatementEnd) then stuck

/-- A statement without imports. The words `print`, `exec` and `type` are names where that reading
fits. -/
def plainStatement (read : TermReader) (fuel : Nat) : Reader Unit := do
  let other := ended (expressionStatement read fuel)
  match ← word with
  | "print" => either other (printStatement read fuel)
  | "exec" => either other (execStatement read fuel)
  | "type" => either (ended (typeAlias read fuel)) other
  | "assert" => do
    keyword "assert"
    operandGap .line
    strictList read fuel
  | "del" => do
    keyword "del"
    operandGap .line
    let _ ← expressionList read .line fuel
  | "return" => do
    keyword "return"
    gap .line true
    optionalList read fuel
  | "raise" => raiseStatement read fuel
  | "global" => do
    keyword "global"
    nameList fuel
  | "nonlocal" => do
    keyword "nonlocal"
    nameList fuel
  | "pass" => do
    keyword "pass"
    gap .line false
  | "break" => do
    keyword "break"
    gap .line false
  | "continue" => do
    keyword "continue"
    gap .line false
  | _ => other

def simpleStatement (read : TermReader) (fuel : Nat) : Reader Statement := do
  match ← word with
  | "import" => plainImport fuel
  | "from" => fromImport fuel
  | _ => do
    plainStatement read fuel
    return .other []

/-- Simple statements separated by semicolons, up to the end of the line. -/
def simpleLine (read : TermReader) : Nat → Reader (List Statement)
  | 0 => stuck
  | fuel + 1 => do
    let statement ← simpleStatement read fuel
    if ← lookingAt ";" then do
      advance 1
      gap .line true
      if ← atLineEnd then return [statement]
      else do
        let later ← simpleLine read fuel
        return statement :: later
    else if ← atLineEnd then return [statement]
    else stuck

end LayerAtlas.SourceText
