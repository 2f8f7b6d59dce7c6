import LayerAtlas.SourceText.Cursor

/-!
# Layout of a Python text

Blanks, comments and line breaks between tokens. What a line break means depends on what may follow:
where a line may end it ends the line, in brackets it is a blank, elsewhere it is a blank too unless
the next line is indented less than the block. At the start of a line less indentation closes blocks,
and behind a colon more of it opens one.
-/
namespace LayerAtlas.SourceText

/-- What may come behind the text that is being read. -/
structure Follow where
  /-- The end of the line may come. -/
  lineEnd : Bool
  /-- A closing bracket may come. -/
  closer : Bool
  /-- The text stands in a field of a string. -/
  inField : Bool
  /-- An `if` may come that makes the expression a choice. -/
  choice : Bool

namespace Follow

/-- More text has to come. -/
def more : Follow := ⟨false, false, false, true⟩

def line : Follow := { more with lineEnd := true }

/-- More text has to come, within the same text. -/
def inner (follow : Follow) : Follow :=
  { more with inField := follow.inField }

def bracket (follow : Follow) : Follow :=
  { follow.inner with closer := true }

end Follow

/-- What has been seen on the way over blanks. -/
structure Margin where
  isComment : Bool
  /-- Whether blanks still count as indentation. -/
  isMeasured : Bool
  /-- Whether a line has ended. -/
  isBroken : Bool
  width : Nat
  /-- The least indentation at which something stood on a new line. -/
  least : Option Nat

namespace Margin

def start : Margin := ⟨false, true, false, 0, none⟩

/-- Notes the indentation where something stands. -/
def note (margin : Margin) : Margin :=
  if margin.isMeasured && margin.isBroken then
    { margin with least := some (min margin.width (margin.least.getD margin.width)) }
  else margin

def lineBreak (margin : Margin) : Margin :=
  { margin with isComment := false, isBroken := true, width := 0 }

/-- A tab counts as eight blanks; a carriage return or form feed starts anew. -/
def blank (margin : Margin) (c : Char) : Margin :=
  let width := if c = ' ' then margin.width + 1 else if c = '\t' then margin.width + 8 else 0
  { margin with width }

/-- Behind a blank that is no indentation nothing is measured up to a comment or hidden line break. -/
def hide (margin : Margin) : Margin :=
  { margin.note with isMeasured := false }

def comment (margin : Margin) : Margin :=
  { margin with isComment := true, isMeasured := true, isBroken := false, width := 0 }

/-- A line break behind a backslash joins two lines. -/
def joined (margin : Margin) : Margin :=
  if margin.isMeasured then margin
  else { margin with isMeasured := true, isBroken := false, width := 0 }

def finish (margin : Margin) : Margin :=
  margin.lineBreak.note

end Margin

/-- Blanks that count as indentation. -/
def isIndentation (c : Char) : Bool :=
  c = ' ' || c = '\t' || c = '\r' || c = '\x0c'

/-- Blanks that do not: the vertical tab and characters without width. -/
def isHiddenBlank (c : Char) : Bool :=
  c = '\x0b' || c = '\u200b' || c = '\u2060' || c = '\ufeff'

/-- Moves over blanks, comments and line breaks. -/
def passBlanks (stopsAtBreak notesComments : Bool) (indents : List Nat) :
    List Char → (position row : Nat) → Margin → Margin × Cursor
  | [], position, row, margin => (margin.finish, ⟨[], position, row, indents⟩)
  | c :: rest, position, row, margin =>
    if margin.isComment && c ≠ '\n' then
      passBlanks stopsAtBreak notesComments indents rest (position + 1) row margin
    else if c = '\n' then
      if stopsAtBreak && margin.isMeasured then (margin, ⟨c :: rest, position, row, indents⟩)
      else
        passBlanks stopsAtBreak notesComments indents rest (position + 1) (row + 1) margin.lineBreak
    else if isIndentation c then
      passBlanks stopsAtBreak notesComments indents rest (position + 1) row (margin.blank c)
    else if isHiddenBlank c then
      passBlanks stopsAtBreak notesComments indents rest (position + 1) row margin.hide
    else if c = '#' then
      let margin := if notesComments then margin.note else margin
      passBlanks stopsAtBreak notesComments indents rest (position + 1) row margin.comment
    else if c = '\\' then
      match rest with
      | '\n' :: rest =>
        passBlanks stopsAtBreak notesComments indents rest (position + 2) (row + 1) margin.joined
      | '\r' :: '\n' :: rest =>
        passBlanks stopsAtBreak notesComments indents rest (position + 3) (row + 1) margin.joined
      | [] => (margin.joined.finish, ⟨[], position + 1, row, indents⟩)
      | rest => (margin, ⟨c :: rest, position, row, indents⟩)
    else (margin.note, ⟨c :: rest, position, row, indents⟩)

theorem passBlanks_nil (stopsAtBreak notesComments : Bool) (indents : List Nat) (position row : Nat)
    (margin : Margin) :
    passBlanks stopsAtBreak notesComments indents [] position row margin =
      (margin.finish, ⟨[], position, row, indents⟩) := by
  rw [passBlanks]

namespace Cursor

def passBlanks (stopsAtBreak notesComments : Bool) (cursor : Cursor) : Margin × Cursor :=
  SourceText.passBlanks stopsAtBreak notesComments cursor.indents cursor.rest cursor.position cursor.row
    .start

/-- Whether a line on the way was indented less than the block. -/
def isUndercut (cursor : Cursor) (margin : Margin) : Bool :=
  match margin.least with
  | some width => width < cursor.indent
  | none => false

end Cursor

def isQuote (c : Char) : Bool :=
  c = '"' || c = '\'' || c = '\x60'

/-- Moves to the next token, or to the end of the line where it may come. `mayQuote` says whether a
string may come. -/
def gap (follow : Follow) (mayQuote : Bool) : Reader Unit := fun cursor =>
  let (margin, next) := cursor.passBlanks follow.lineEnd true
  let isQuoted := mayQuote && next.rest.head?.any isQuote
  if follow.lineEnd then
    if next.rest.isEmpty && !margin.isMeasured then stuck next else .ok ((), next)
  else if cursor.isUndercut margin && !(follow.closer || follow.inField || isQuoted) then stuck next
  else .ok ((), next)

/-- Moves to where an operand has to come. -/
def operandGap (follow : Follow) : Reader Unit :=
  gap follow.inner true

/-- Moves to where an element or the closing bracket may come. -/
def elementGap (follow : Follow) : Reader Unit :=
  gap follow.bracket true

/-- Moves to a word or sign that has to come. -/
def innerGap : Reader Unit :=
  gap .more false

def atLineEnd : Reader Bool := do
  match (← get).rest with
  | [] => return true
  | c :: _ => return c = '\n'

/-- Moves to the first token of a line, unless the line closes the innermost block: then the block is
closed, the place stays, and the answer is yes. -/
def closesBlock : Reader Bool := fun cursor =>
  let (margin, next) := cursor.passBlanks false false
  if cursor.isUndercut margin then .ok (true, { cursor with indents := cursor.indents.tail })
  else .ok (false, next)

/-- What follows a colon that introduces statements. -/
inductive SuiteStart where
  | line
  | block
  | empty

/-- Looks behind a colon: a block is a new line that is indented more than the block around it. -/
def suiteStart : Reader SuiteStart := fun cursor =>
  let (margin, next) := cursor.passBlanks false false
  match margin.least with
  | none => .ok (.line, next)
  | some width =>
    if cursor.indent < width then
      .ok (.block, { cursor with indents := width :: cursor.indents })
    else .ok (.empty, cursor)

end LayerAtlas.SourceText
