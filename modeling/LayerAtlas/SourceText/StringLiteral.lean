import LayerAtlas.SourceText.Layout
import LayerAtlas.SourceText.Number

/-!
# Strings of Python

The opening of a string, and the rest of it up to its closing quotes. A format string holds fields in
braces; how the text of a field is read is a parameter.
-/
namespace LayerAtlas.SourceText

structure StringOpening where
  quote : Char
  isTriple : Bool
  isRaw : Bool
  isBytes : Bool
  isFormat : Bool
  /-- The number of characters of the opening. -/
  length : Nat

namespace StringOpening

/-- Letters in front of the quotes: each may come in any order and number. -/
def ofLetters (opening : StringOpening) : List Char → Option StringOpening
  | [] => none
  | c :: rest =>
    let opening := { opening with length := opening.length + 1 }
    if c = 'f' || c = 'F' then ofLetters { opening with isFormat := true } rest
    else if c = 'r' || c = 'R' then ofLetters { opening with isRaw := true } rest
    else if c = 'b' || c = 'B' then ofLetters { opening with isBytes := true } rest
    else if c = 'u' || c = 'U' then ofLetters opening rest
    else if isQuote c then
      if c ≠ '\x60' && [c, c].isPrefixOf rest then
        some { opening with quote := c, isTriple := true, length := opening.length + 2 }
      else some { opening with quote := c }
    else none

def of? (text : List Char) : Option StringOpening :=
  ofLetters ⟨'"', false, false, false, false, 0⟩ text

end StringOpening

/-- What the piece of a string since the last escape or field holds. -/
inductive Piece where
  | empty
  | blank
  | text

namespace Piece

def push (piece : Piece) (c : Char) : Piece :=
  match piece with
  | text => text
  | empty | blank => if c = '\n' || isIndentation c || isHiddenBlank c then blank else text

end Piece

/-- The length of an escape that begins with a backslash. One that is none counts as the backslash. -/
def escapeLength (text : List Char) : Nat :=
  let hexadecimal (count : Nat) (rest : List Char) : Nat :=
    if (rest.take count).length = count && (rest.take count).all isHexDigit then count + 2 else 1
  match text.drop 1 with
  | [] => 1
  | '\r' :: rest => if rest.head? = some '\n' then 3 else 1
  | 'x' :: rest => hexadecimal 2 rest
  | 'u' :: rest => hexadecimal 4 rest
  | 'U' :: rest => hexadecimal 8 rest
  | 'N' :: '\x7b' :: rest =>
    let name := rest.takeWhile (· ≠ '\x7d')
    if name.isEmpty || name.length = rest.length then 1 else name.length + 4
  | c :: rest =>
    if c.isDigit then 2 + ((rest.take 2).takeWhile Char.isDigit).length
    else if "\n'\"abfrntv\\".toList.contains c then 2
    else 1

/-- The length of a backslash in a raw string with the quote and the line break it guards. -/
def rawEscapeLength (quote : Char) (text : List Char) : Nat :=
  let rest := text.drop 1
  let guarded := if rest.head?.any fun c => c = quote || c = '\\' then 1 else 0
  match rest.drop guarded with
  | '\r' :: '\n' :: _ => guarded + 3
  | '\r' :: _ | '\n' :: _ => guarded + 2
  | _ => guarded + 1

def advanceLines (count : Nat) : Reader Unit :=
  modify (·.nextBy count)

/-- What may be read behind a line break in a piece of blanks: a comment or a field. -/
def brokenPiece (field : Reader Unit) : Reader Unit := do
  let rest := (← get).rest
  advanceLines (rest.takeWhile fun c => c = '\n' || isIndentation c || isHiddenBlank c).length
  match (← get).rest with
  | '#' :: rest => advance ((rest.takeWhile (· ≠ '\n')).length + 1)
  | '\x7b' :: _ => field
  | _ => stuck

/-- The length of the closing quotes, when the text begins with them. -/
def StringOpening.closing? (opening : StringOpening) (text : List Char) : Option Nat :=
  let width := if opening.isTriple then 3 else 1
  if (List.replicate width opening.quote).isPrefixOf text then some width else none

/-- The rest of a string behind its opening. A line break is refused in a string of one line, unless a
piece begins with it. -/
def stringBody (opening : StringOpening) (field : Reader Unit) : Nat → Piece → Reader Unit
  | 0, _ => stuck
  | fuel + 1, piece => do
    let text := (← get).rest
    match opening.closing? text with
    | some width => advance width
    | none =>
      match text with
      | [] | '\x00' :: _ => stuck
      | c :: rest =>
        if c = '\\' then
          if opening.isRaw then do
            advanceLines (rawEscapeLength opening.quote text)
            stringBody opening field fuel piece
          else if opening.isBytes && rest.head?.any fun c => c = 'N' || c = 'u' || c = 'U' then do
            advanceLines 3
            stringBody opening field fuel .text
          else do
            advanceLines (escapeLength text)
            stringBody opening field fuel .empty
        else if c = opening.quote then do
          advance (if rest.head? = some c then 2 else 1)
          stringBody opening field fuel .empty
        else if opening.isFormat && (c = '\x7b' || c = '\x7d') then do
          if rest.head? = some c then advance 2
          else if c = '\x7b' then field
          else stuck
          stringBody opening field fuel .empty
        else if c = '\n' && !opening.isTriple then
          match piece with
          | .empty => do
            advanceLines 1
            stringBody opening field fuel .blank
          | .blank => do
            brokenPiece field
            stringBody opening field fuel .empty
          | .text => stuck
        else do
          advanceLines 1
          stringBody opening field fuel (piece.push c)

/-- A string from its opening to its closing quotes. -/
def stringLiteral (fuel : Nat) (field : Reader Unit) : Reader Unit := do
  match StringOpening.of? (← get).rest with
  | some opening => do
    advance opening.length
    stringBody opening field fuel .empty
  | none => stuck

end LayerAtlas.SourceText
