import LayerAtlas.Text.Identifier

/-!
# Readers of a Python text

A place in the text, and readers that move it. A reader that cannot go on is stuck where it stands.
-/
namespace LayerAtlas.SourceText

/-- A place in a text. -/
structure Cursor where
  rest : List Char
  /-- The number of characters behind. -/
  position : Nat
  row : Nat
  /-- The indentations of the open blocks, the innermost first. -/
  indents : List Nat

namespace Cursor

/-- The first place of a text. A byte order mark is no part of it. -/
def start (text : List Char) : Cursor :=
  match text with
  | '\ufeff' :: rest => ⟨rest, 0, 0, []⟩
  | text => ⟨text, 0, 0, []⟩

/-- The indentation of the innermost open block. -/
def indent (cursor : Cursor) : Nat :=
  cursor.indents.headD 0

/-- The place behind characters of one line. -/
def drop (cursor : Cursor) (count : Nat) : Cursor :=
  { cursor with rest := cursor.rest.drop count, position := cursor.position + count }

/-- The place behind the next character. -/
def next (cursor : Cursor) : Cursor :=
  match cursor.rest with
  | [] => cursor
  | c :: rest =>
    { cursor with
      rest := rest
      position := cursor.position + 1
      row := if c = '\n' then cursor.row + 1 else cursor.row }

/-- The place behind characters that may break lines. -/
def nextBy (cursor : Cursor) : Nat → Cursor
  | 0 => cursor
  | count + 1 => cursor.next.nextBy count

/-- The word that begins here, or nothing. -/
def word (cursor : Cursor) : String :=
  match cursor.rest with
  | [] => ""
  | c :: rest =>
    if isIdentifierStart c then String.ofList (c :: rest.takeWhile isIdentifierContinue) else ""

/-- The text between two places. -/
def slice (start finish : Cursor) : List Char :=
  start.rest.take (finish.position - start.position)

end Cursor

/-- Where a reader could not go on, and at which character; at none when the text is at its end. -/
structure Stuck where
  row : Nat
  found : Option Char
  deriving DecidableEq, Repr

namespace Stuck

def reason (stuck : Stuck) : String :=
  match stuck.found with
  | some c => "unexpected " ++ c.toString
  | none => "unexpected end of text"

end Stuck

/-- Reads something at a place of the text and moves behind it. -/
abbrev Reader (α : Type) := StateT Cursor (Except Stuck) α

variable {α : Type}

def stuck : Reader α := fun cursor =>
  .error ⟨cursor.row, cursor.rest.head?⟩

/-- The first reading that succeeds, both tried at the same place. -/
def either (first second : Reader α) : Reader α := fun cursor =>
  match first cursor with
  | .ok found => .ok found
  | .error _ => second cursor

def peek : Reader (Option Char) :=
  return (← get).rest.head?

/-- Moves over characters of one line. -/
def advance (count : Nat) : Reader Unit :=
  modify (·.drop count)

/-- The word that begins here, which stays unread. -/
def word : Reader String :=
  return (← get).word

def takeWord : Reader String := do
  let found ← word
  if found = "" then stuck
  else do
    advance found.length
    return found

def keyword (text : String) : Reader Unit := do
  if (← word) = text then advance text.length else stuck

/-- Whether these characters come next. -/
def lookingAt (text : String) : Reader Bool :=
  return text.toList.isPrefixOf (← get).rest

def symbol (text : String) : Reader Unit := do
  if ← lookingAt text then advance text.length else stuck

/-- Whether the one character comes next and not the other behind it. -/
def lookingAtSingle (c other : Char) : Reader Bool := do
  match (← get).rest with
  | a :: b :: _ => return a = c && b ≠ other
  | [a] => return a = c
  | [] => return false

end LayerAtlas.SourceText
