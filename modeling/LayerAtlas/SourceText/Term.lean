import LayerAtlas.SourceText.StringLiteral

/-!
# Terms

What later text has to know of an expression, and the parts of expressions that are built from whole
expressions alone: lists, `yield` and the fields of strings. How an expression inside another one is
read is a parameter, so that every nesting level is one step of the recursion that ties them together.
All readers begin at their first token and end at the token behind them.
-/
namespace LayerAtlas.SourceText

/-- What an expression is, as far as its surroundings depend on it. -/
structure Term where
  isName : Bool
  /-- It ends in an attribute or subscript. -/
  isPlace : Bool
  /-- It is a bracketed list of things that may be assigned to. -/
  isGroup : Bool
  /-- It is a name or place behind a star. -/
  isSplat : Bool
  /-- Its first operand is or contains a name or place that may stand behind a star. -/
  isAnchored : Bool

namespace Term

def plain : Term := ⟨false, false, false, false, false⟩

def name : Term := { plain with isName := true, isAnchored := true }

def place : Term := { plain with isPlace := true, isAnchored := true }

def group (isTarget : Bool) : Term := { plain with isGroup := isTarget }

/-- Whether it may be assigned to. -/
def isTarget (term : Term) : Bool :=
  term.isName || term.isPlace || term.isGroup || term.isSplat

/-- A larger expression that begins with this one. -/
def extend (term : Term) : Term :=
  { plain with isAnchored := term.isAnchored }

end Term

/-- How much of an expression is read: all of it, or an atom with its trailers. -/
inductive Level where
  | whole
  | primary

/-- Reads an expression inside another one. -/
abbrev TermReader := Level → Follow → Reader Term

/-- Whether an operand begins here. Any word may be an operand. -/
def startsOperand : Reader Bool := do
  match (← get).rest with
  | '.' :: '.' :: '.' :: _ => return true
  | '.' :: c :: _ => return c.isDigit
  | c :: _ => return isIdentifierStart c || c.isDigit || isQuote c || "([\x7b+-~*".toList.contains c
  | [] => return false

/-- Moves over an assignment sign. -/
def takeAssign : Reader Bool := do
  if ← lookingAtSingle '=' '=' then do
    advance 1
    return true
  else return false

/-- Expressions separated by commas; one more comma may end them. The answer says whether all of them
may be assigned to. -/
def expressionList (read : TermReader) (follow : Follow) : Nat → Reader Bool
  | 0 => stuck
  | fuel + 1 => do
    let term ← read .whole follow
    if ← lookingAt "," then do
      advance 1
      gap follow true
      if ← startsOperand then do
        let areTargets ← expressionList read follow fuel
        return term.isTarget && areTargets
      else return term.isTarget
    else return term.isTarget

/-- Reads from the word `yield` on. -/
def yieldExpression (read : TermReader) (follow : Follow) (fuel : Nat) : Reader Unit := do
  keyword "yield"
  gap follow true
  if (← word) = "from" then do
    keyword "from"
    operandGap follow
    let _ ← read .whole follow
  else if ← startsOperand then do
    let _ ← expressionList read follow fuel

/-- The format of a field up to its closing brace. It may hold fields. -/
def fieldFormat (field : Reader Unit) : Nat → Reader Unit
  | 0 => stuck
  | fuel + 1 => do
    match (← get).rest with
    | [] => stuck
    | '\x7d' :: _ => return
    | '\x7b' :: _ =>
      field
      fieldFormat field fuel
    | '\n' :: _ =>
      advanceLines 1
      fieldFormat field fuel
    | text =>
      advance (text.takeWhile fun c => c ≠ '\n' && c ≠ '\x7b' && c ≠ '\x7d').length
      fieldFormat field fuel

/-- A field of a string with its braces: expressions, and behind them an equals sign, a conversion and
a format if there are such. -/
def field (read : TermReader) : Nat → Reader Unit
  | 0 => stuck
  | fuel + 1 => do
    let follow := { Follow.more.bracket with inField := true }
    symbol "\x7b"
    operandGap follow
    if (← word) = "yield" then yieldExpression read follow fuel
    else do
      let _ ← expressionList read follow fuel
    if ← takeAssign then gap follow false
    match (← get).rest with
    | '!' :: c :: _ =>
      if 'a' ≤ c ∧ c ≤ 'z' then do
        advance 2
        gap follow false
    | _ => pure ()
    if ← lookingAt ":" then do
      advance 1
      fieldFormat (field read fuel) fuel
    symbol "\x7d"

/-- One or more strings side by side. -/
def strings (read : TermReader) (follow : Follow) : Nat → Reader Unit
  | 0 => stuck
  | fuel + 1 => do
    stringLiteral fuel (field read fuel)
    gap follow true
    if (StringOpening.of? (← get).rest).isSome then strings read follow fuel

end LayerAtlas.SourceText
