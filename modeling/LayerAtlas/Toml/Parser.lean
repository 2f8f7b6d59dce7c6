import LayerAtlas.Toml.Scalar

/-!
# Reading TOML documents

Keys, values and lines. A document is read line by line; a header says where the lines behind it put
their values.

Embeds the document format that the configuration is read from (specification, 12).
-/
namespace LayerAtlas.Toml

/-- Drops a comment, up to the end of its line. -/
def skipComment : List Char → List Char
  | '#' :: rest => rest.dropWhile isInline
  | text => text

/-- The text behind the end of a line: blanks, a comment, and a line break or the end of the text. -/
def endLine (text : List Char) : Except TomlFault (List Char) :=
  match skipComment (skipSpaces text) with
  | [] => .ok []
  | text =>
    match newline? text with
    | some rest => .ok rest
    | none => .error (stuck text)

/-- Drops blanks, line breaks and comments. -/
def skipLines : Nat → List Char → List Char
  | 0, text => text
  | fuel + 1, text =>
    let text := skipSpaces text
    match text with
    | '#' :: rest =>
      let behind := rest.dropWhile isInline
      match newline? behind with
      | some rest => skipLines fuel rest
      | none => behind
    | text =>
      match newline? text with
      | some rest => skipLines fuel rest
      | none => text

def isBareChar (c : Char) : Bool :=
  c.isAlphanum || c = '_' || c = '-'

/-- One key without dots. -/
def simpleKey (text : List Char) : Except TomlFault (String × List Char) :=
  match text with
  | '"' :: rest => do
    let (key, rest) ← lineString '"' (rest.length + 1) rest
    .ok (String.ofList key, rest)
  | '\'' :: rest => do
    let (key, rest) ← lineString '\'' (rest.length + 1) rest
    .ok (String.ofList key, rest)
  | text =>
    let (key, rest) := text.span isBareChar
    if key = [] then .error (stuck text) else .ok (String.ofList key, rest)

/-- How many levels values and keys may have, and stay below. -/
def maxDepth : Nat := 80

/-- Keys joined by dots, with blanks around them; as many as the fuel allows. -/
def dottedKey : Nat → List Char → Except TomlFault (List String × List Char)
  | 0, _ => .error .tooDeep
  | fuel + 1, text => do
    let (key, rest) ← simpleKey (skipSpaces text)
    match skipSpaces rest with
    | '.' :: rest =>
      let (more, rest) ← dottedKey fuel rest
      .ok (key :: more, rest)
    | rest => .ok ([key], rest)

def keys (text : List Char) : Except TomlFault (List String × List Char) :=
  dottedKey (maxDepth - 1) text

mutual

/-- A value at a level of nesting. -/
def value : Nat → Nat → List Char → Except TomlFault (TomlValue × List Char)
  | 0, _, text => .error (stuck text)
  | fuel + 1, depth, text =>
    match text with
    | '"' :: rest => do
      let (text, rest) ← string '"' rest
      .ok (.text text, rest)
    | '\'' :: rest => do
      let (text, rest) ← string '\'' rest
      .ok (.text text, rest)
    | '[' :: rest =>
      if depth + 1 < maxDepth then do
        let (items, rest) ← items fuel (depth + 1) rest
        .ok (.list items, rest)
      else .error .tooDeep
    | '{' :: rest =>
      if depth + 1 < maxDepth then
        match skipSpaces rest with
        | '}' :: rest => .ok (.table .braces [], rest)
        | rest => do
          let (entries, rest) ← fields fuel (depth + 1) [] rest
          .ok (.table .braces entries, rest)
      else .error .tooDeep
    | text => plain text

/-- The items of a list up to its closing bracket; lines and comments may stand between them. -/
def items : Nat → Nat → List Char → Except TomlFault (List TomlValue × List Char)
  | 0, _, text => .error (stuck text)
  | fuel + 1, depth, text =>
    match skipLines text.length text with
    | ']' :: rest => .ok ([], rest)
    | text => do
      let (item, rest) ← value fuel depth text
      match skipLines rest.length rest with
      | ']' :: rest => .ok ([item], rest)
      | ',' :: rest =>
        let (more, rest) ← items fuel depth rest
        .ok (item :: more, rest)
      | rest => .error (stuck rest)

/-- The entries of a table in braces up to the closing one, all on one line. -/
def fields : Nat → Nat → TomlEntries → List Char → Except TomlFault (TomlEntries × List Char)
  | 0, _, _, text => .error (stuck text)
  | fuel + 1, depth, entries, text => do
    let (keys, rest) ← keys text
    match rest with
    | '=' :: rest =>
      let (item, rest) ← value fuel depth (skipSpaces rest)
      let entries ← entries.assign keys item .braces
      match skipSpaces rest with
      | '}' :: rest => .ok (entries, rest)
      | ',' :: rest => fields fuel depth entries rest
      | rest => .error (stuck rest)
    | rest => .error (stuck rest)

end

/-- A document on the way: its entries, and where the next values go. -/
structure Draft where
  entries : TomlEntries
  current : List String

namespace Draft

/-- Opens the table or the member of a list of tables that a header names. -/
def openAt (draft : Draft) (isMember : Bool) (path : List String) : Except TomlFault Draft :=
  match path.getLast? with
  | none => .ok draft
  | some key => do
    let change := if isMember then TomlEntries.openMember key else TomlEntries.openTable key
    .ok ⟨← draft.entries.descend false change path.dropLast .header, path⟩

/-- Puts the value of a line where the last header says. -/
def assign (draft : Draft) (keys : List String) (value : TomlValue) : Except TomlFault Draft := do
  .ok { draft with
    entries := ← draft.entries.descend false (TomlEntries.assign keys value) draft.current .header }

/-- Reads a header, from behind its first bracket. -/
def header (draft : Draft) (text : List Char) : Except TomlFault (Draft × List Char) :=
  let close (isMember : Bool) (mark : List Char) (text : List Char) :
      Except TomlFault (Draft × List Char) := do
    let (path, rest) ← keys text
    match mark.isPrefixOf? rest with
    | some rest => .ok (← draft.openAt isMember path, ← endLine rest)
    | none => .error (stuck rest)
  match text with
  | '[' :: rest => close true [']', ']'] rest
  | rest => close false [']'] rest

/-- Reads a line with a value. -/
def line (draft : Draft) (text : List Char) : Except TomlFault (Draft × List Char) := do
  let (keys, rest) ← keys text
  match rest with
  | '=' :: rest =>
    let (item, rest) ← value (2 * rest.length + 2) 0 (skipSpaces rest)
    .ok (← draft.assign keys item, ← endLine rest)
  | rest => .error (stuck rest)

/-- Reads lines up to the end of the text. -/
def lines : Nat → Draft → List Char → Except TomlFault Draft
  | 0, draft, _ => .ok draft
  | fuel + 1, draft, text =>
    match skipSpaces text with
    | [] => .ok draft
    | '[' :: rest => do
      let (draft, rest) ← draft.header rest
      draft.lines fuel rest
    | text =>
      if text.head? = some '#' ∨ (newline? text).isSome then do draft.lines fuel (← endLine text)
      else do
        let (draft, rest) ← draft.line text
        draft.lines fuel rest

end Draft

/-- The entries of a document. A byte order mark at its front is passed over. -/
def parse (text : String) : Except TomlFault TomlEntries := do
  let chars :=
    match text.toList with
    | '\ufeff' :: rest => rest
    | chars => chars
  .ok (← Draft.lines (chars.length + 1) ⟨[], []⟩ chars).entries

end LayerAtlas.Toml
