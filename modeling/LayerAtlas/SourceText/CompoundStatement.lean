import LayerAtlas.SourceText.CasePattern
import LayerAtlas.SourceText.SimpleStatement

/-!
# Compound statements of Python

Statements that hold other statements. How a suite of statements is read behind a header, from the
colon on, is a parameter.
-/
namespace LayerAtlas.SourceText

/-- The statements that belong to a part of a compound statement. -/
abbrev SuiteReader := Reader (List Statement)

/-- Moves to a line that begins with this word, if it comes next in the same block. -/
def atClause (text : String) : Reader Bool := fun cursor =>
  match closesBlock cursor with
  | .ok (false, next) =>
    if next.word = text then .ok (true, next) else .ok (false, cursor)
  | .ok (true, _) => .ok (false, cursor)
  | .error stuck => .error stuck

/-- A word, a condition and a suite. -/
def conditionSuite (read : TermReader) (suite : SuiteReader) (text : String) : SuiteReader := do
  keyword text
  operandGap .more
  let _ ← read .whole .more
  suite

/-- A word and a suite, if that word comes next. -/
def wordSuite (suite : SuiteReader) (text : String) : SuiteReader := do
  if ← atClause text then do
    keyword text
    innerGap
    suite
  else return []

def elifSuites (read : TermReader) (suite : SuiteReader) : Nat → SuiteReader
  | 0 => stuck
  | fuel + 1 => do
    if ← atClause "elif" then do
      let body ← conditionSuite read suite "elif"
      let later ← elifSuites read suite fuel
      return body ++ later
    else return []

def ifStatement (read : TermReader) (suite : SuiteReader) (fuel : Nat) : SuiteReader := do
  let body ← conditionSuite read suite "if"
  let elifs ← elifSuites read suite fuel
  let otherwise ← wordSuite suite "else"
  return body ++ elifs ++ otherwise

def whileStatement (read : TermReader) (suite : SuiteReader) : SuiteReader := do
  let body ← conditionSuite read suite "while"
  let otherwise ← wordSuite suite "else"
  return body ++ otherwise

def forStatement (read : TermReader) (suite : SuiteReader) (fuel : Nat) : SuiteReader := do
  keyword "for"
  operandGap .more
  targets read .more fuel
  keyword "in"
  operandGap .more
  let _ ← expressionList read .more fuel
  let body ← suite
  let otherwise ← wordSuite suite "else"
  return body ++ otherwise

def withStatement (read : TermReader) (suite : SuiteReader) (fuel : Nat) : SuiteReader := do
  keyword "with"
  operandGap .more
  let _ ← expressionList read .more fuel
  suite

/-- The handlers of a `try`. Those with a star are not mixed with others. -/
def handlers (read : TermReader) (suite : SuiteReader) (isStarred : Bool) :
    Nat → Reader (List Statement)
  | 0 => stuck
  | fuel + 1 => do
    let start ← get
    if ← atClause "except" then do
      if isStarred && !(← lookingAt "except*") then do
        set start
        return []
      else do
        advance (if isStarred then 7 else 6)
        operandGap .more
        if isStarred || !(← lookingAt ":") then do
          let _ ← read .whole .more
          if !isStarred && (← lookingAt ",") then do
            advance 1
            operandGap .more
            let _ ← read .whole .more
        let body ← suite
        let later ← handlers read suite isStarred fuel
        return body ++ later
    else return []

def tryStatement (read : TermReader) (suite : SuiteReader) (fuel : Nat) : SuiteReader := do
  keyword "try"
  innerGap
  let body ← suite
  let start ← get
  if ← atClause "except" then do
    let isStarred ← lookingAt "except*"
    set start
    let handled ← handlers read suite isStarred fuel
    let otherwise ← wordSuite suite "else"
    let last ← wordSuite suite "finally"
    return body ++ handled ++ otherwise ++ last
  else if ← atClause "finally" then do
    set start
    let last ← wordSuite suite "finally"
    return body ++ last
  else stuck

def functionStatement (read : TermReader) (suite : SuiteReader) (fuel : Nat) : SuiteReader := do
  keyword "def"
  innerGap
  let _ ← takeWord
  innerGap
  typeParameters read fuel
  symbol "("
  let inside := Follow.more.bracket
  elementGap .more
  parameters read (colonType read inside fuel) inside ")" fuel
  symbol ")"
  innerGap
  if ← lookingAt "->" then do
    advance 2
    operandGap .more
    typeHint read fuel false .more
  suite

def classStatement (read : TermReader) (suite : SuiteReader) (fuel : Nat) : SuiteReader := do
  keyword "class"
  innerGap
  let _ ← takeWord
  innerGap
  typeParameters read fuel
  if ← lookingAt "(" then do
    advance 1
    arguments read .more fuel
    innerGap
  suite

def asyncStatement (read : TermReader) (suite : SuiteReader) (fuel : Nat) : SuiteReader := do
  keyword "async"
  innerGap
  match ← word with
  | "def" => functionStatement read suite fuel
  | "for" => forStatement read suite fuel
  | "with" => withStatement read suite fuel
  | _ => stuck

/-- Decorators, each on a line of its own, and what they decorate. -/
def decoratedStatement (read : TermReader) (suite : SuiteReader) : Nat → SuiteReader
  | 0 => stuck
  | fuel + 1 => do
    symbol "@"
    operandGap .line
    let _ ← read .whole .line
    if ← atLineEnd then do
      innerGap
      if ← lookingAt "@" then decoratedStatement read suite fuel
      else
        match ← word with
        | "def" => functionStatement read suite fuel
        | "class" => classStatement read suite fuel
        | "async" => do
          keyword "async"
          innerGap
          functionStatement read suite fuel
        | _ => stuck
    else stuck

/-- The cases of a `match` up to the end of their block. -/
def cases (read : TermReader) (suite : SuiteReader) : Nat → SuiteReader
  | 0 => stuck
  | fuel + 1 => do
    if ← closesBlock then return []
    else do
      keyword "case"
      operandGap .more
      casePatterns read fuel
      if (← word) = "if" then do
        keyword "if"
        operandGap .more
        let _ ← read .whole .more
      let body ← suite
      let later ← cases read suite fuel
      return body ++ later

def matchStatement (read : TermReader) (suite : SuiteReader) (fuel : Nat) : SuiteReader := do
  keyword "match"
  operandGap .more
  let _ ← expressionList read .more fuel
  symbol ":"
  match ← suiteStart with
  | .block => cases read suite fuel
  | .empty => return []
  | .line => stuck

/-- A compound statement. The words `match` and `async` are names where no such statement fits. -/
def compoundStatement (read : TermReader) (suite : SuiteReader) (fuel : Nat) :
    Reader (List Statement) := do
  let whole (parts : SuiteReader) : Reader (List Statement) := return [.other (← parts)]
  let line := simpleLine read fuel
  if ← lookingAt "@" then whole (decoratedStatement read suite fuel)
  else
    match ← word with
    | "if" => whole (ifStatement read suite fuel)
    | "while" => whole (whileStatement read suite)
    | "for" => whole (forStatement read suite fuel)
    | "try" => whole (tryStatement read suite fuel)
    | "with" => whole (withStatement read suite fuel)
    | "def" => whole (functionStatement read suite fuel)
    | "class" => whole (classStatement read suite fuel)
    | "match" => either (whole (matchStatement read suite fuel)) line
    | "async" => either (whole (asyncStatement read suite fuel)) line
    | _ => line

end LayerAtlas.SourceText
