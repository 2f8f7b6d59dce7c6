/-!
# JSON text

JSON documents and their indented written form: two blanks for each level, one item or field on a
line, and nothing between the brackets of an empty list or record.
-/
namespace LayerAtlas

/-- A JSON document. -/
inductive JsonDoc where
  | null
  | number (value : Nat)
  | text (value : String)
  | list (items : List JsonDoc)
  | record (fields : List (String × JsonDoc))

namespace JsonDoc

/-- The four hexadecimal digits of a control character. -/
def hex4 (n : Nat) : String :=
  let digits := Nat.toDigits 16 n
  String.ofList (List.replicate (4 - digits.length) '0' ++ digits)

/-- The written form of a character inside a string. Only controls, the quote and the backslash are
escaped. -/
def escape (c : Char) : String :=
  if c = '"' then "\\\""
  else if c = '\\' then "\\\\"
  else if c = '\n' then "\\n"
  else if c = '\r' then "\\r"
  else if c = '\t' then "\\t"
  else if c.toNat = 8 then "\\b"
  else if c.toNat = 12 then "\\f"
  else if c.toNat < 32 then "\\u" ++ hex4 c.toNat
  else c.toString

def string (value : String) : String :=
  "\"" ++ String.join (value.toList.map escape) ++ "\""

def optional (value : Option String) : JsonDoc :=
  match value with
  | some value => .text value
  | none => .null

/-- A line break and the indentation of a level. -/
def newline (level : Nat) : String :=
  "\n" ++ String.ofList (List.replicate (2 * level) ' ')

mutual

/-- The written form at a level of nesting. -/
def render (level : Nat) : JsonDoc → String
  | null => "null"
  | number value => toString value
  | text value => string value
  | list [] => "[]"
  | list (item :: items) =>
    "[" ++ newline (level + 1) ++ render (level + 1) item ++ renderItems (level + 1) items ++
      newline level ++ "]"
  | record [] => "\x7b\x7d"
  | record ((key, value) :: fields) =>
    "\x7b" ++ newline (level + 1) ++ string key ++ ": " ++ render (level + 1) value ++
      renderFields (level + 1) fields ++ newline level ++ "\x7d"

/-- The items after the first, each after a comma. -/
def renderItems (level : Nat) : List JsonDoc → String
  | [] => ""
  | item :: items => "," ++ newline level ++ render level item ++ renderItems level items

/-- The fields after the first, each after a comma. -/
def renderFields (level : Nat) : List (String × JsonDoc) → String
  | [] => ""
  | (key, value) :: fields =>
    "," ++ newline level ++ string key ++ ": " ++ render level value ++ renderFields level fields

end

end JsonDoc

end LayerAtlas
