import LayerAtlas.Pattern.CharSet
import LayerAtlas.Text.Category

/-!
# Patterns

Regular expressions over characters with assertions about the place they stand at, and the search for
a match in a text. A place is the character before it and the text that follows; matching a pattern
from a place gives the places at which a match can end.

Embeds the matching of patterns that the rule registry relies on (specification, 4.6).
-/
namespace LayerAtlas

/-- A place in a text. -/
structure Spot where
  before : Option Char
  rest : List Char
  deriving DecidableEq, Repr

namespace Spot

def start (text : List Char) : Spot := ⟨none, text⟩

/-- All places from this character and rest on. -/
def from? (before : Option Char) : List Char → List Spot
  | [] => [⟨before, []⟩]
  | c :: rest => ⟨before, c :: rest⟩ :: from? (some c) rest

/-- All places of a text. -/
def all (text : List Char) : List Spot := from? none text

end Spot

/-- What counts as a word: for all scripts, or for ASCII alone. -/
inductive WordRule where
  | unicode | ascii
  deriving DecidableEq, Repr

namespace WordRule

def isWordChar (rule : WordRule) (c : Char) : Bool :=
  if c.toNat < 128 then c.isAlphanum || c = '_'
  else
    match rule with
    | unicode => Category.wordTable.contains c
    | ascii => false

end WordRule

/-- Assertions about a place. -/
inductive Look where
  | textStart | textEnd
  | lineStart | lineEnd
  /-- Line borders where a carriage return ends a line too, together with the line feed after it. -/
  | crlfLineStart | crlfLineEnd
  | wordBorder (rule : WordRule) | noWordBorder (rule : WordRule)
  | wordStart (rule : WordRule) | wordEnd (rule : WordRule)
  /-- No word character before, or after. -/
  | wordStartHalf (rule : WordRule) | wordEndHalf (rule : WordRule)
  deriving DecidableEq, Repr

namespace Look

def holds (look : Look) (spot : Spot) : Bool :=
  let after := spot.rest.head?
  let wordBefore (rule : WordRule) := spot.before.any rule.isWordChar
  let wordAfter (rule : WordRule) := after.any rule.isWordChar
  match look with
  | textStart => spot.before.isNone
  | textEnd => after.isNone
  | lineStart => spot.before.all (· = '\n')
  | lineEnd => after.all (· = '\n')
  | crlfLineStart =>
    spot.before.all fun c => c = '\n' || (c = '\r' && after != some '\n')
  | crlfLineEnd =>
    after.all fun c => c = '\r' || (c = '\n' && spot.before != some '\r')
  | wordBorder rule => wordBefore rule != wordAfter rule
  | noWordBorder rule => wordBefore rule == wordAfter rule
  | wordStart rule => !wordBefore rule && wordAfter rule
  | wordEnd rule => wordBefore rule && !wordAfter rule
  | wordStartHalf rule => !wordBefore rule
  | wordEndHalf rule => !wordAfter rule

end Look

inductive Regex where
  | empty
  | chars (set : CharSet)
  | look (look : Look)
  | seq (first second : Regex)
  | alt (left right : Regex)
  /-- At least `least` matches in a row, and at most as many as the bound allows. -/
  | repeated (body : Regex) (least : Nat) (most : Option Nat)
  deriving Repr

namespace Regex

def seqAll (items : List Regex) : Regex :=
  match items with
  | [] => .empty
  | [item] => item
  | item :: rest => .seq item (seqAll rest)

def altAll (branches : List Regex) : Regex :=
  match branches with
  | [] => .empty
  | [branch] => branch
  | branch :: rest => .alt branch (altAll rest)

/-- The places reached by exactly `count` steps. A set of places that a step keeps stays. -/
def exactly (step : Spot → List Spot) : Nat → List Spot → List Spot
  | 0, spots => spots
  | count + 1, spots =>
    let next := (spots.flatMap step).eraseDups
    if next = spots then spots else exactly step count next

/-- The places reached from `fresh` by at most `rounds` steps, besides those already found. -/
def reach (step : Spot → List Spot) : Nat → List Spot → List Spot → List Spot
  | 0, _, found => found
  | rounds + 1, fresh, found =>
    let next := ((fresh.flatMap step).eraseDups).filter fun spot => !found.contains spot
    if next = [] then found else reach step rounds next (found ++ next)

/-- The places at which a match from this place can end. -/
def ends : Regex → Spot → List Spot
  | empty, spot => [spot]
  | chars set, spot =>
    match spot.rest with
    | c :: rest => if set.contains c then [⟨some c, rest⟩] else []
    | [] => []
  | look assertion, spot => if assertion.holds spot then [spot] else []
  | seq first second, spot => ((first.ends spot).flatMap second.ends).eraseDups
  | alt left right, spot => (left.ends spot ++ right.ends spot).eraseDups
  | repeated body least most, spot =>
    let base := exactly body.ends least [spot]
    let rounds :=
      match most with
      | some bound => bound - least
      | none => spot.rest.length + 1
    reach body.ends rounds base base

/-- Whether the pattern matches somewhere in the text. -/
def isMatch (regex : Regex) (text : String) : Bool :=
  (Spot.all text.toList).any fun spot => !(regex.ends spot).isEmpty

end Regex

end LayerAtlas
