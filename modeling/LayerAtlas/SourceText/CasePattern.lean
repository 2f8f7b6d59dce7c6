import LayerAtlas.SourceText.Expression

/-!
# Patterns of a case

What may stand behind the word `case`: literals, names, classes, sequences and mappings of patterns,
alternatives, and names for what a pattern takes in.
-/
namespace LayerAtlas.SourceText

/-- A number, and a second one behind a sign. -/
def casePatternNumber (follow : Follow) : Reader Unit := do
  let one : Reader Unit := do
    let length := numberLength (← get).rest
    if length = 0 then stuck else advance length
  one
  gap follow false
  if (← lookingAt "+") || (← lookingAt "-") then do
    advance 1
    operandGap follow
    one
    gap follow false

/-- The segments of a dotted name behind the first one. -/
def laterSegments (follow : Follow) : Nat → Reader Unit
  | 0 => stuck
  | fuel + 1 => do
    if ← lookingAt "." then do
      advance 1
      gap follow.inner false
      let _ ← takeWord
      gap follow false
      laterSegments follow fuel

/-- Items separated by commas, up to behind the closing bracket. -/
def patternItems (item : Reader Unit) (follow : Follow) (closer : String) : Nat → Reader Unit
  | 0 => stuck
  | fuel + 1 => do
    if ← lookingAt closer then advance 1
    else do
      item
      if ← lookingAt closer then advance 1
      else do
        symbol ","
        elementGap follow
        patternItems item follow closer fuel

/-- Stars and the name behind them. -/
def starredPattern (follow : Follow) : Reader Unit := do
  advance (if ← lookingAt "**" then 2 else 1)
  gap follow.inner false
  let _ ← takeWord
  gap follow false

/-- A pattern that is no alternative. The answer says whether it is a single name. -/
def casePatternAtom (read : TermReader) (pattern : Follow → Reader Unit)
    (key : Follow → Reader Unit) (follow : Follow) (fuel : Nat) : Reader Bool := do
  let text := (← get).rest
  if (StringOpening.of? text).isSome then do
    strings read follow fuel
    return false
  else
    match text with
    | '*' :: _ => do
      starredPattern follow
      return false
    | '(' :: _ => do
      advance 1
      elementGap follow
      patternItems (pattern follow.bracket) follow ")" fuel
      gap follow false
      return false
    | '[' :: _ => do
      advance 1
      elementGap follow
      patternItems (pattern follow.bracket) follow "]" fuel
      gap follow false
      return false
    | '\x7b' :: _ => do
      advance 1
      elementGap follow
      let entry : Reader Unit := do
        if ← lookingAt "*" then starredPattern follow.bracket
        else do
          key follow.bracket
          symbol ":"
          operandGap follow
          pattern follow.bracket
      patternItems entry follow "\x7d" fuel
      gap follow false
      return false
    | '-' :: _ => do
      advance 1
      operandGap follow
      casePatternNumber follow
      return false
    | text => do
      if 0 < numberLength text then do
        casePatternNumber follow
        return false
      else do
        let found ← takeWord
        gap follow false
        if ["True", "False", "None"].contains found then return false
        else do
          let isDotted ← lookingAt "."
          laterSegments follow fuel
          if ← lookingAt "(" then do
            advance 1
            elementGap follow
            patternItems (pattern follow.bracket) follow ")" fuel
            gap follow false
            return false
          else return !isDotted

/-- The alternatives of a pattern. The answer says whether it is a single name. -/
def casePatternChoice (atom : Reader Bool) (follow : Follow) : Nat → Reader Bool
  | 0 => stuck
  | fuel + 1 => do
    let isName ← atom
    if ← lookingAt "|" then do
      advance 1
      operandGap follow
      let _ ← casePatternChoice atom follow fuel
      return false
    else return isName

/-- The names for what a pattern takes in. -/
def casePatternNames (follow : Follow) : Nat → Reader Unit
  | 0 => stuck
  | fuel + 1 => do
    if (← word) = "as" then do
      keyword "as"
      gap follow.inner false
      let _ ← takeWord
      gap follow false
      casePatternNames follow fuel

/-- How much of a pattern is read. -/
inductive PatternLevel where
  | whole
  | choice

def casePatternAt (read : TermReader) : Nat → PatternLevel → Follow → Reader Unit
  | 0, _, _ => stuck
  | fuel + 1, level, follow => do
    let inner := casePatternAt read fuel
    let choice := casePatternChoice
      (casePatternAtom read (inner .whole) (inner .choice) follow fuel) follow fuel
    let isName ← choice
    match level with
    | .choice => return
    | .whole => do
      if isName && (← takeAssign) then do
        operandGap follow
        let _ ← choice
      casePatternNames follow fuel

/-- The patterns of a case, up to the colon or the word `if`. -/
def casePatterns (read : TermReader) : Nat → Reader Unit
  | 0 => stuck
  | fuel + 1 => do
    casePatternAt read fuel .whole .more
    if ← lookingAt "," then do
      advance 1
      operandGap .more
      if !(← lookingAt ":") && (← word) ≠ "if" then casePatterns read fuel

end LayerAtlas.SourceText
