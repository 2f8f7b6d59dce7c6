import LayerAtlas.SourceText.Term

/-!
# Bracketed expressions

Tuples, lists, sets, dictionaries and comprehensions, and the arguments and subscripts behind a term.
Each is read from behind its opening bracket to behind its closing one.
-/
namespace LayerAtlas.SourceText

/-- What an element of a bracketed list is. -/
structure Element where
  /-- Whether it may be assigned to. -/
  isTarget : Bool
  /-- Whether it is an expression, which may be the body of a comprehension. -/
  isBody : Bool

/-- An expression, behind a star or not, or a `yield`. -/
def element (read : TermReader) (follow : Follow) (fuel : Nat) : Reader Element := do
  if ← lookingAtSingle '*' '*' then do
    advance 1
    operandGap follow
    let term ← read .whole follow.bracket
    return ⟨term.isName || term.isPlace, term.isAnchored⟩
  else if (← word) = "yield" then do
    yieldExpression read follow.bracket fuel
    return ⟨false, false⟩
  else do
    let term ← read .whole follow.bracket
    return ⟨term.isTarget, true⟩

/-- Something that is assigned to: a name, a place, a bracketed list of such, or one behind a star. -/
def target (read : TermReader) (follow : Follow) : Reader Unit := do
  if ← lookingAtSingle '*' '*' then do
    advance 1
    operandGap follow
    let term ← read .primary follow.inner
    if !(term.isName || term.isPlace) then stuck
  else do
    let term ← read .primary follow.inner
    if !term.isTarget then stuck

/-- Targets separated by commas up to the word `in`. -/
def targets (read : TermReader) (follow : Follow) : Nat → Reader Unit
  | 0 => stuck
  | fuel + 1 => do
    target read follow
    if ← lookingAt "," then do
      advance 1
      operandGap follow
      if (← word) ≠ "in" then targets read follow fuel

/-- Words that continue a comprehension. -/
def isClauseWord (word : String) : Bool :=
  word = "for" || word = "async" || word = "if"

/-- What a comprehension runs over. An `if` behind it filters and makes no choice. -/
def iterables (read : TermReader) (follow : Follow) : Nat → Reader Unit
  | 0 => stuck
  | fuel + 1 => do
    let _ ← read .whole { follow.bracket with choice := false }
    if ← lookingAt "," then do
      advance 1
      elementGap follow
      if (← startsOperand) && !isClauseWord (← word) then iterables read follow fuel

/-- The clauses of a comprehension. -/
def clauses (read : TermReader) (follow : Follow) : Nat → Reader Unit
  | 0 => stuck
  | fuel + 1 => do
    let found ← word
    if found = "if" then do
      keyword "if"
      operandGap follow
      let _ ← read .whole { follow.bracket with choice := false }
      clauses read follow fuel
    else if found = "for" || found = "async" then do
      if found = "async" then do
        keyword "async"
        innerGap
      keyword "for"
      operandGap follow
      targets read follow fuel
      keyword "in"
      operandGap follow
      iterables read follow fuel
      clauses read follow fuel

/-- Whether a comprehension goes on here behind its body. -/
def atComprehension : Reader Bool := do
  let found ← word
  return found = "for" || found = "async"

/-- The elements behind the first one. -/
def laterElements (read : TermReader) (follow : Follow) (closer : String) : Nat → Bool → Reader Bool
  | 0, _ => stuck
  | fuel + 1, areTargets => do
    if ← lookingAt closer then do
      advance 1
      return areTargets
    else do
      symbol ","
      elementGap follow
      if ← lookingAt closer then do
        advance 1
        return areTargets
      else do
        let next ← element read follow fuel
        laterElements read follow closer fuel (areTargets && next.isTarget)

/-- A list of elements that goes on behind its first one, or a comprehension with that body. -/
def elementsBehind (read : TermReader) (follow : Follow) (closer : String) (fuel : Nat)
    (first : Element) : Reader Bool := do
  if first.isBody && (← atComprehension) then do
    clauses read follow fuel
    symbol closer
    return false
  else laterElements read follow closer fuel first.isTarget

/-- A tuple, list or comprehension. The answer says whether it may be assigned to. -/
def collection (read : TermReader) (follow : Follow) (closer : String) (fuel : Nat) :
    Reader Bool := do
  elementGap follow
  if ← lookingAt closer then do
    advance 1
    return true
  else do
    let first ← element read follow fuel
    elementsBehind read follow closer fuel first

/-- The value of a key, from the colon on. -/
def entryValue (read : TermReader) (follow : Follow) : Reader Unit := do
  symbol ":"
  operandGap follow
  let _ ← read .whole follow.bracket

/-- All entries of another dictionary, behind two stars. -/
def entrySplat (read : TermReader) (follow : Follow) : Reader Unit := do
  symbol "**"
  operandGap follow
  let _ ← read .whole follow.bracket

/-- The entries of a dictionary behind the first one. -/
def laterEntries (read : TermReader) (follow : Follow) : Nat → Reader Unit
  | 0 => stuck
  | fuel + 1 => do
    if ← lookingAt "\x7d" then advance 1
    else do
      symbol ","
      elementGap follow
      if ← lookingAt "\x7d" then advance 1
      else do
        if ← lookingAt "**" then entrySplat read follow
        else do
          let _ ← read .whole follow.bracket
          entryValue read follow
        laterEntries read follow fuel

/-- A dictionary, a set or a comprehension of one. -/
def braces (read : TermReader) (follow : Follow) (fuel : Nat) : Reader Unit := do
  elementGap follow
  if ← lookingAt "\x7d" then advance 1
  else if ← lookingAt "," then do
    advance 1
    elementGap follow
    symbol "\x7d"
  else if ← lookingAt "**" then do
    entrySplat read follow
    laterEntries read follow fuel
  else do
    let first ← element read follow fuel
    if first.isBody && (← lookingAt ":") then do
      entryValue read follow
      if ← atComprehension then do
        clauses read follow fuel
        symbol "\x7d"
      else laterEntries read follow fuel
    else do
      let _ ← elementsBehind read follow "\x7d" fuel first

/-- An argument of a call: a value, one behind stars or one for a named parameter. The answer says
whether it may be the body of a comprehension. -/
def argument (read : TermReader) (follow : Follow) : Reader Bool := do
  if ← lookingAt "**" then do
    entrySplat read follow
    return false
  else if ← lookingAt "*" then do
    advance 1
    operandGap follow
    return (← read .whole follow.bracket).isAnchored
  else do
    let term ← read .whole follow.bracket
    if term.isName && (← takeAssign) then do
      operandGap follow
      let _ ← read .whole follow.bracket
      return false
    else return true

def laterArguments (read : TermReader) (follow : Follow) : Nat → Reader Unit
  | 0 => stuck
  | fuel + 1 => do
    if ← lookingAt ")" then advance 1
    else do
      symbol ","
      elementGap follow
      if ← lookingAt ")" then advance 1
      else do
        let _ ← argument read follow
        laterArguments read follow fuel

/-- The arguments of a call. A comprehension stands alone; a comma may stand alone too. -/
def arguments (read : TermReader) (follow : Follow) (fuel : Nat) : Reader Unit := do
  elementGap follow
  if ← lookingAt ")" then advance 1
  else if ← lookingAt "," then do
    advance 1
    elementGap follow
    symbol ")"
  else do
    let mayBeBody ← argument read follow
    if mayBeBody && (← atComprehension) then do
      clauses read follow fuel
      symbol ")"
    else laterArguments read follow fuel

/-- A bound of a slice, which may be missing. -/
def sliceBound (read : TermReader) (follow : Follow) : Reader Unit := do
  if ← startsOperand then do
    let _ ← read .whole follow.bracket

/-- The rest of a slice from a colon on, if one comes. -/
def sliceBehind (read : TermReader) (follow : Follow) : Reader Unit := do
  if ← lookingAt ":" then do
    advance 1
    elementGap follow
    sliceBound read follow

/-- Subscripts: expressions and slices, at least one. -/
def subscripts (read : TermReader) (follow : Follow) : Nat → Reader Unit
  | 0 => stuck
  | fuel + 1 => do
    if !(← lookingAt ":") then do
      let _ ← read .whole follow.bracket
    sliceBehind read follow
    sliceBehind read follow
    if ← lookingAt "]" then advance 1
    else do
      symbol ","
      elementGap follow
      if ← lookingAt "]" then advance 1 else subscripts read follow fuel

end LayerAtlas.SourceText
