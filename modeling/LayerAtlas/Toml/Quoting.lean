import LayerAtlas.Text.JsonText

/-!
# Writing TOML strings

The form in which a text is written as a TOML string: the plainest one that needs no escapes, and
else one with escapes. Quotes inside a string of several lines are escaped where three would stand
together.
-/
namespace LayerAtlas.Toml

/-- The length of the longest run of a character. -/
def longestRun (mark : Char) (text : List Char) : Nat :=
  (text.foldl (fun (run, best) c =>
    let run := if c = mark then run + 1 else 0
    (run, max run best)) (0, 0)).2

/-- Control characters that no string may hold unescaped. -/
def isControl (c : Char) : Bool :=
  (c.toNat < 0x20 && c ≠ '\t' && c ≠ '\n') || c.toNat = 0x7f

/-- The form of a string. -/
inductive StringForm where
  | basic | literal | basicBlock | literalBlock
  deriving DecidableEq, Repr

namespace StringForm

/-- The first form that shows the text as it is, or a form with escapes. -/
def choose (text : List Char) : StringForm :=
  let hasControl := text.any isControl
  let hasNewline := text.contains '\n'
  let hasBackslash := text.contains '\\'
  let doubles := longestRun '"' text
  let singles := longestRun '\'' text
  if !hasControl && !hasBackslash && doubles = 0 && !hasNewline then basic
  else if !hasControl && singles = 0 && !hasNewline then literal
  else if !hasControl && !hasBackslash && doubles ≤ 2 then basicBlock
  else if !hasControl && singles ≤ 2 then literalBlock
  else if hasNewline then basicBlock
  else basic

end StringForm

/-- The escaped form of a character in double quotes; the quote itself is left to the caller. -/
def escapeChar (inBlock : Bool) (c : Char) : String :=
  if c = '\\' then "\\\\"
  else if c = '\t' then "\\t"
  else if c = '\r' then "\\r"
  else if c.toNat = 8 then "\\b"
  else if c.toNat = 12 then "\\f"
  else if c = '\n' then if inBlock then "\n" else "\\n"
  else if isControl c then "\\u" ++ (JsonDoc.hex4 c.toNat).map Char.toUpper
  else c.toString

/-- The escaped text; in a block every third quote of a run is escaped, else every quote. -/
def escapeText (inBlock : Bool) : Nat → List Char → String
  | _, [] => ""
  | run, c :: rest =>
    if c = '"' then
      if !inBlock || run = 2 then "\\\"" ++ escapeText inBlock 0 rest
      else "\"" ++ escapeText inBlock (run + 1) rest
    else escapeChar inBlock c ++ escapeText inBlock 0 rest

/-- The text as a TOML string. A block begins on a line of its own when it has several lines. -/
def quote (text : String) : String :=
  let chars := text.toList
  let lead := if chars.contains '\n' then "\n" else ""
  match StringForm.choose chars with
  | .basic => "\"" ++ escapeText false 0 chars ++ "\""
  | .literal => "'" ++ text ++ "'"
  | .basicBlock => "\"\"\"" ++ lead ++ escapeText true 0 chars ++ "\"\"\""
  | .literalBlock => "'''" ++ lead ++ text ++ "'''"

end LayerAtlas.Toml
