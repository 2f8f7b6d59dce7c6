import LayerAtlas.Pattern.Lexeme

/-!
# Bracketed sets in patterns

Sets written in brackets: characters, ranges, named sets, sets inside sets, and the operations
between sets, which bind from left to right. Case variants are added to the operands of an operation
and to the whole before it is negated.
-/
namespace LayerAtlas

/-- A set that has been read, and how deeply its parts are nested. -/
structure BracketPart where
  set : CharSet
  height : Nat

/-- Operations between sets. -/
inductive SetOperation where
  | inter | diff | symmDiff
  deriving DecidableEq, Repr

namespace SetOperation

def apply (operation : SetOperation) (left right : CharSet) : CharSet :=
  match operation with
  | inter => .inter left right
  | diff => .diff left right
  | symmDiff => .symmDiff left right

end SetOperation

namespace BracketPart

/-- The union of parts read one after the other. -/
def unite (parts : List BracketPart) : BracketPart :=
  match parts with
  | [] => ⟨.empty, 0⟩
  | [part] => part
  | parts =>
    ⟨CharSet.unionAll (parts.map (·.set)), (parts.map (·.height)).foldl max 0 + 1⟩

/-- Completes an operation whose left operand is already there. -/
def combine (flags : PatternFlags) (pending : Option (SetOperation × BracketPart))
    (right : BracketPart) : BracketPart :=
  match pending with
  | none => right
  | some (operation, left) =>
    ⟨operation.apply (flags.fold left.set) (flags.fold right.set), max left.height right.height + 1⟩

/-- A bracketed set as one part of what surrounds it. -/
def close (flags : PatternFlags) (negated : Bool) (inner : BracketPart) : BracketPart :=
  ⟨CharSet.negateIf negated (flags.fold inner.set), inner.height + 1⟩

end BracketPart

namespace PatternFlags

/-- What stands behind an opening bracket: a caret that negates, dashes, and a closing bracket that is
a member because nothing stands before it. -/
structure BracketHead where
  negated : Bool
  members : List BracketPart
  rest : List Char

/-- Dashes at the front of a set are members. -/
def leadingDashes (flags : PatternFlags) : Nat → List BracketPart → List Char →
    List BracketPart × List Char
  | 0, members, text => (members, text)
  | fuel + 1, members, text =>
    match text with
    | '-' :: rest => flags.leadingDashes fuel (⟨.oneOf ['-'], 0⟩ :: members) (flags.skip rest)
    | text => (members, text)

def bracketHead (flags : PatternFlags) (text : List Char) : BracketHead :=
  let text := flags.skip text
  let (negated, text) :=
    match text with
    | '^' :: rest => (true, flags.skip rest)
    | text => (false, text)
  let (members, text) := flags.leadingDashes text.length [] text
  match members, text with
  | [], ']' :: rest => ⟨negated, [⟨flags.fold (.oneOf [']']), 0⟩], flags.skip rest⟩
  | members, text => ⟨negated, members, text⟩

/-- A named set such as `:alpha:]`, behind its first bracket. -/
def posixSet? (text : List Char) : Option (Bool × CharSet × List Char) :=
  match text with
  | ':' :: rest =>
    let (negated, rest) :=
      match rest with
      | '^' :: rest => (true, rest)
      | rest => (false, rest)
    let name := rest.takeWhile (· ≠ ':')
    match rest.dropWhile (· ≠ ':') with
    | ':' :: ']' :: rest =>
      (CharSet.bracketed? (String.ofList name)).map fun set => (negated, set, rest)
    | _ => none
  | _ => none

/-- A set that complements another needs whole characters. -/
def complementable (flags : PatternFlags) (negated : Bool) : Except PatternFault Unit :=
  if negated && !flags.unicode then .error .splitsCharacters else .ok ()

/-- One member of a set, or one end of a range. -/
def bracketMember (flags : PatternFlags) : List Char → Except PatternFault (Escaped × List Char)
  | [] => .error .unclosedClass
  | '\\' :: rest => flags.escape rest
  | c :: rest => .ok (.letter c false, rest)

/-- The single character that a member is. -/
def memberChar (flags : PatternFlags) : Escaped → Except PatternFault Char
  | .letter c isByte =>
    if !flags.unicode && 128 ≤ c.toNat && !isByte then .error .splitsCharacters
    else do
      let _ ← flags.literal c isByte
      .ok c
  | .set _ | .look _ => .error .badRange

/-- One character, range or named set. -/
def bracketItem (flags : PatternFlags) (text : List Char) :
    Except PatternFault (BracketPart × List Char) := do
  let (first, rest) ← flags.bracketMember text
  let text := flags.skip rest
  let single : Except PatternFault (BracketPart × List Char) :=
    match first with
    | .look _ => .error .badClassMember
    | .set set => .ok (⟨set, 0⟩, text)
    | member => do .ok (⟨.oneOf [← flags.memberChar member], 0⟩, text)
  match text with
  | [] => .error .unclosedClass
  | '-' :: behind =>
    match flags.skip behind with
    | [] => .error .unclosedClass
    | ']' :: _ | '-' :: _ => single
    | behind =>
      let (last, rest) ← flags.bracketMember behind
      let low ← flags.memberChar first
      let high ← flags.memberChar last
      if high < low then .error .badRange else .ok (⟨.range low high, 0⟩, rest)
  | _ => single

/-- The members of a set up to its closing bracket. -/
def bracketBody (flags : PatternFlags) : Nat → Option (SetOperation × BracketPart) →
    List BracketPart → List Char → Except PatternFault (BracketPart × List Char)
  | 0, _, _, _ => .error .unclosedClass
  | fuel + 1, pending, members, text =>
    let soFar := BracketPart.combine flags pending (BracketPart.unite members)
    match flags.skip text with
    | [] => .error .unclosedClass
    | ']' :: rest => .ok (soFar, rest)
    | '&' :: '&' :: rest => flags.bracketBody fuel (some (.inter, soFar)) [] rest
    | '-' :: '-' :: rest => flags.bracketBody fuel (some (.diff, soFar)) [] rest
    | '~' :: '~' :: rest => flags.bracketBody fuel (some (.symmDiff, soFar)) [] rest
    | '[' :: rest =>
      match posixSet? rest with
      | some (negated, set, rest) => do
        flags.complementable negated
        let set := CharSet.negateIf negated (flags.fold set)
        flags.bracketBody fuel pending (⟨set, 0⟩ :: members) rest
      | none => do
        let head := flags.bracketHead rest
        let (inner, rest) ← flags.bracketBody fuel none head.members head.rest
        flags.complementable head.negated
        flags.bracketBody fuel pending (inner.close flags head.negated :: members) rest
    | text => do
      let (member, rest) ← flags.bracketItem text
      flags.bracketBody fuel pending (member :: members) rest

/-- A whole bracketed set, read from behind its opening bracket. -/
def bracket (flags : PatternFlags) (text : List Char) :
    Except PatternFault (BracketPart × List Char) := do
  let head := flags.bracketHead text
  let (inner, rest) ← flags.bracketBody (text.length + 1) none head.members head.rest
  flags.complementable head.negated
  .ok (inner.close flags head.negated, rest)

end PatternFlags

end LayerAtlas
