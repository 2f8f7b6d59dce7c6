import LayerAtlas.SourceText.Expression

/-!
# Type hints of Python

A type hint is an expression, except that a name in front of a bracket takes types as arguments. It
may go on with more types.
-/
namespace LayerAtlas.SourceText

/-- Words that are no names at the start of a type hint. -/
def isNoTypeName (word : String) : Bool :=
  ["not", "lambda", "True", "False", "None", "await", "async", "match", "print", "exec"].contains word

/-- Moves over a name and the opening bracket behind it. -/
def takeGenericName (follow : Follow) : Reader Unit := do
  if isNoTypeName (← word) then stuck
  else do
    let _ ← takeWord
    gap follow false
    symbol "["
    elementGap follow

/-- Types separated by commas, up to behind the closing bracket. -/
def typeArguments (typeHint : Reader Unit) (follow : Follow) : Nat → Reader Unit
  | 0 => stuck
  | fuel + 1 => do
    typeHint
    if ← lookingAt "]" then advance 1
    else do
      symbol ","
      elementGap follow
      if ← lookingAt "]" then advance 1 else typeArguments typeHint follow fuel

/-- What may stand behind a type: an alternative, a member or a bound. -/
def typeHintTail (typeHint : Reader Unit) (follow : Follow) (mayBound : Bool) : Nat → Reader Unit
  | 0 => stuck
  | fuel + 1 => do
    if ← lookingAtSingle '|' '=' then do
      advance 1
      operandGap follow
      typeHint
    else if ← lookingAt "." then do
      advance 1
      gap follow.inner false
      let _ ← takeWord
      gap follow false
      typeHintTail typeHint follow mayBound fuel
    else if mayBound && (← lookingAtSingle ':' '=') then do
      advance 1
      operandGap follow
      typeHint

/-- A type. `mayBound` says whether a bound may stand behind a colon. -/
def typeHint (read : TermReader) : Nat → (mayBound : Bool) → Follow → Reader Unit
  | 0, _, _ => stuck
  | fuel + 1, mayBound, follow => do
    if ← lookingAt "**" then do
      advance 2
      gap follow.inner false
      let _ ← takeWord
      gap follow false
    else do
      let isGeneric ← either (do takeGenericName follow; return true) (return false)
      if isGeneric then do
        typeArguments (typeHint read fuel true follow.bracket) follow fuel
        gap follow false
      else do
        let _ ← read .whole follow
    typeHintTail (typeHint read fuel mayBound follow) follow mayBound fuel

/-- A type behind a colon, if one comes. -/
def colonType (read : TermReader) (follow : Follow) (fuel : Nat) : Reader Unit := do
  if ← lookingAtSingle ':' '=' then do
    advance 1
    operandGap follow
    typeHint read fuel true follow

/-- Type parameters in brackets, if they come. -/
def typeParameters (read : TermReader) (fuel : Nat) : Reader Unit := do
  if ← lookingAt "[" then do
    advance 1
    elementGap .more
    typeArguments (typeHint read fuel true Follow.more.bracket) .more fuel
    innerGap

end LayerAtlas.SourceText
