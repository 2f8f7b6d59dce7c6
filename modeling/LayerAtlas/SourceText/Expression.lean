import LayerAtlas.SourceText.Bracketed

/-!
# Expressions of Python

Operands, operators and parameters, and the recursion that ties expressions together. Precedence does
not matter here: it changes how an expression is built, but not which texts are expressions. A word is
a keyword only where one may stand, and a name elsewhere.
-/
namespace LayerAtlas.SourceText

/-- A name, number, string, or bracketed expression. -/
def atom (read : TermReader) (follow : Follow) (fuel : Nat) : Reader Term := do
  let text := (← get).rest
  if (StringOpening.of? text).isSome then do
    strings read follow fuel
    return .plain
  else
    match text with
    | '(' :: _ => do
      advance 1
      let isTarget ← collection read follow ")" fuel
      gap follow false
      return .group isTarget
    | '[' :: _ => do
      advance 1
      let isTarget ← collection read follow "]" fuel
      gap follow false
      return .group isTarget
    | '\x7b' :: _ => do
      advance 1
      braces read follow fuel
      gap follow false
      return .plain
    | '.' :: '.' :: '.' :: _ => do
      advance 3
      gap follow false
      return .plain
    | text => do
      let number := numberLength text
      if 0 < number then do
        advance number
        gap follow false
        return .plain
      else do
        let found ← takeWord
        gap follow false
        return if ["True", "False", "None"].contains found then .plain else .name

/-- Attributes, calls and subscripts behind a term. -/
def trailers (read : TermReader) (follow : Follow) : Nat → Term → Reader Term
  | 0, _ => stuck
  | fuel + 1, term => do
    match (← get).rest with
    | '.' :: _ => do
      advance 1
      gap follow.inner false
      let _ ← takeWord
      gap follow false
      trailers read follow fuel .place
    | '(' :: _ => do
      advance 1
      arguments read follow fuel
      gap follow false
      trailers read follow fuel term.extend
    | '[' :: _ => do
      advance 1
      elementGap follow
      subscripts read follow fuel
      gap follow false
      trailers read follow fuel .place
    | _ => return term

def primary (read : TermReader) (follow : Follow) (fuel : Nat) : Reader Term := do
  let term ← atom read follow fuel
  trailers read follow fuel term

/-- Words that continue an expression. -/
def isOperatorWord (word : String) : Bool :=
  ["and", "or", "not", "in", "is", "if", "else", "as", "for", "async", "from"].contains word

/-- Moves over the word `await` when what comes behind it can only be an operand. -/
def takeAwait (follow : Follow) : Reader Unit := do
  keyword "await"
  operandGap follow
  let begins ← startsOperand
  let isOther := (← peek).any "([+-*".toList.contains
  if !begins || isOther || isOperatorWord (← word) then stuck

/-- An operand with the signs in front of it. -/
def operand (read : TermReader) (follow : Follow) : Nat → Reader Term
  | 0 => stuck
  | fuel + 1 => do
    match ← peek with
    | some '+' | some '-' | some '~' => do
      advance 1
      operandGap follow
      let _ ← operand read follow fuel
      return .plain
    | some '*' => do
      advance 1
      operandGap follow
      let term ← primary read follow fuel
      if term.isAnchored then
        return { Term.plain with isSplat := term.isName || term.isPlace, isAnchored := true }
      else stuck
    | _ => do
      let isAwait ← either (do takeAwait follow; return true) (return false)
      if isAwait then do
        let _ ← operand read follow fuel
        return .plain
      else primary read follow fuel

/-- The operators, each in front of those that begin it, with whether an equals sign behind it makes it
an assignment. -/
def operatorSigns : List (String × Bool) :=
  [("**", true), ("//", true), ("<<", true), (">>", true), ("<=", false), (">=", false),
    ("==", false), ("!=", false), ("<>", false), ("<", false), (">", false), ("+", true),
    ("-", true), ("*", true), ("/", true), ("%", true), ("@", true), ("&", true), ("|", true),
    ("^", true)]

/-- The length of the operator that the text begins with. -/
def operatorLength (text : List Char) : Nat :=
  match operatorSigns.find? fun sign => sign.1.toList.isPrefixOf text with
  | some (sign, mayAssign) =>
    if mayAssign && (text.drop sign.length).head? = some '=' then 0 else sign.length
  | none => 0

/-- Moves over an operator between two operands, if one comes. -/
def takeOperator (follow : Follow) : Reader Bool := do
  let length := operatorLength (← get).rest
  if 0 < length then do
    advance length
    operandGap follow
    return true
  else
    match ← word with
    | "in" => do
      keyword "in"
      operandGap follow
      return true
    | "not" => do
      keyword "not"
      gap follow.inner false
      keyword "in"
      operandGap follow
      return true
    | "is" => do
      keyword "is"
      operandGap follow
      if (← word) = "not" then do
        keyword "not"
        operandGap follow
      return true
    | _ => return false

/-- What may stand behind operands: a connective, a choice or a name for the value. -/
def expressionTail (read : TermReader) (follow : Follow) (term : Term) : Reader Term := do
  let found ← word
  if found = "and" || found = "or" || found = "as" then do
    keyword found
    operandGap follow
    let _ ← read .whole follow
    return term.extend
  else if found = "if" && follow.choice then do
    keyword "if"
    operandGap follow
    let _ ← read .whole follow.inner
    keyword "else"
    operandGap follow
    let _ ← read .whole follow
    return term.extend
  else return term

/-- The operators and operands behind an operand, and what may stand behind them. -/
def operations (read : TermReader) (follow : Follow) : Nat → Term → Reader Term
  | 0, _ => stuck
  | fuel + 1, term => do
    if ← takeOperator follow then do
      let _ ← operand read follow fuel
      operations read follow fuel term.extend
    else expressionTail read follow term

/-- A name behind one or two stars. -/
def starredParameter (read : TermReader) (follow : Follow) : Reader Unit := do
  let term ← read .primary follow
  if !(term.isName || term.isPlace) then stuck

/-- A default value, if one comes. -/
def defaultValue (read : TermReader) (follow : Follow) : Reader Unit := do
  if ← takeAssign then do
    operandGap follow
    let _ ← read .whole follow

/-- A parameter. `typeHint` reads what may come behind a name. -/
def parameter (read : TermReader) (typeHint : Reader Unit) (follow : Follow) (closer : String) :
    Reader Unit := do
  match (← get).rest with
  | '*' :: '*' :: _ => do
    advance 2
    operandGap follow
    starredParameter read follow
    typeHint
  | '*' :: _ => do
    advance 1
    gap follow true
    if !((← lookingAt ",") || (← lookingAt closer)) then do
      starredParameter read follow
      typeHint
  | '/' :: _ => do
    advance 1
    gap follow false
  | '(' :: _ => do
    let term ← read .primary follow
    if term.isGroup then defaultValue read follow else stuck
  | _ => do
    let _ ← takeWord
    gap follow false
    typeHint
    defaultValue read follow

/-- Parameters separated by commas, up to the closing sign, which stays unread. -/
def parameters (read : TermReader) (typeHint : Reader Unit) (follow : Follow) (closer : String) :
    Nat → Reader Unit
  | 0 => stuck
  | fuel + 1 => do
    if !(← lookingAt closer) then do
      parameter read typeHint follow closer
      if !(← lookingAt closer) then do
        symbol ","
        gap follow true
        if ← lookingAt closer then pure () else parameters read typeHint follow closer fuel

/-- Reads from the word `lambda` on. Its parameters have no type hints. -/
def lambda (read : TermReader) (follow : Follow) (fuel : Nat) : Reader Unit := do
  keyword "lambda"
  operandGap follow
  parameters read (pure ()) follow.inner ":" fuel
  symbol ":"
  operandGap follow
  let _ ← read .whole follow

/-- A whole expression. -/
def whole (read : TermReader) (follow : Follow) (fuel : Nat) : Reader Term := do
  match ← word with
  | "not" => do
    keyword "not"
    operandGap follow
    let _ ← read .whole follow
    return .plain
  | "lambda" => do
    lambda read follow fuel
    return .plain
  | _ => do
    let term ← operand read follow fuel
    if term.isName && (← lookingAt ":=") then do
      advance 2
      operandGap follow
      let _ ← read .whole follow
      return .plain
    else operations read follow fuel term

/-- Reads an expression with at most so many levels of nesting. -/
def expression : Nat → TermReader
  | 0, _, _ => stuck
  | fuel + 1, .whole, follow => whole (expression fuel) follow fuel
  | fuel + 1, .primary, follow => primary (expression fuel) follow fuel

end LayerAtlas.SourceText
