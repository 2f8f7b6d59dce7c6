/-!
# TOML values

The values of a TOML document, and how a document grows line by line: where a dotted key leads, and
which tables a later line may still extend. A table written in braces is closed; one that a header
opened is not opened again; one that a header merely passes through may still be opened; and one made
by dotted keys is extended by dotted keys alone.
-/
namespace LayerAtlas

/-- Why a text is no TOML document. -/
inductive TomlFault where
  | unexpected (c : Char)
  | unexpectedEnd
  | badEscape | badNumber | badDate
  | duplicateKey (key : String)
  | notTable (key : String)
  | tooDeep
  deriving DecidableEq, Repr

namespace TomlFault

def message : TomlFault → String
  | unexpected c => "unexpected character " ++ c.toString
  | unexpectedEnd => "unexpected end of text"
  | badEscape => "invalid escape sequence"
  | badNumber => "invalid number"
  | badDate => "invalid date or time"
  | duplicateKey key => "duplicate key " ++ key
  | notTable key => "key " ++ key ++ " is no table"
  | tooDeep => "too many levels of nesting"

end TomlFault

/-- How a table came to be. -/
inductive TableOrigin where
  /-- Written in braces. -/
  | braces
  /-- Opened by a header of its own. -/
  | header
  /-- Passed through by a header of a table below it. -/
  | implied
  /-- Made by dotted keys. -/
  | dotted
  deriving DecidableEq, Repr

/-- A TOML value. Of numbers with a fraction and of dates only the kind is kept. -/
inductive TomlValue where
  | text (value : String)
  | integer (value : Int)
  | float
  | boolean (value : Bool)
  | date
  | list (items : List TomlValue)
  | table (origin : TableOrigin) (entries : List (String × TomlValue))
  /-- A list of tables that headers in double brackets have opened. -/
  | tables (members : List (List (String × TomlValue)))
  deriving Repr

abbrev TomlEntries := List (String × TomlValue)

namespace TomlEntries

def get? (entries : TomlEntries) (key : String) : Option TomlValue :=
  (entries.find? fun entry => entry.1 = key).map (·.2)

/-- Puts a value under a key, in the room of the one there. -/
def put (key : String) (value : TomlValue) : TomlEntries → TomlEntries
  | [] => [(key, value)]
  | entry :: rest =>
    if entry.1 = key then (key, value) :: rest else entry :: put key value rest

/-- Changes what lies at the end of a path, making the tables on the way. Headers pass through every
table that is not closed and through the last member of a list of tables; dotted keys do not pass
through a table that a header opened. -/
def descend (byKeys : Bool) (change : TableOrigin → TomlEntries → Except TomlFault TomlEntries) :
    List String → TableOrigin → TomlEntries → Except TomlFault TomlEntries
  | [], origin, entries => change origin entries
  | key :: rest, _, entries =>
    match entries.get? key with
    | none => do
      let origin := if byKeys then TableOrigin.dotted else .implied
      .ok (entries.put key (.table origin (← descend byKeys change rest origin [])))
    | some (.table .braces _) => .error (.notTable key)
    | some (.table origin inner) =>
      if byKeys ∧ origin = .header then .error (.duplicateKey key)
      else do .ok (entries.put key (.table origin (← descend byKeys change rest origin inner)))
    | some (.tables members) => do
      let last ← descend byKeys change rest .header (members.getLast?.getD [])
      .ok (entries.put key (.tables (members.dropLast ++ [last])))
    | some _ => .error (.notTable key)

/-- Adds a value under a new key of the table at hand. Behind dotted keys this must be a table that
dotted keys made. -/
def addNew (isDotted : Bool) (key : String) (value : TomlValue) (origin : TableOrigin)
    (entries : TomlEntries) : Except TomlFault TomlEntries :=
  if isDotted ∧ origin ≠ .dotted then .error (.duplicateKey key)
  else if (entries.get? key).isSome then .error (.duplicateKey key)
  else .ok (entries.put key value)

/-- Adds the value of a line with these keys to the table at hand. -/
def assign (keys : List String) (value : TomlValue) (origin : TableOrigin) (entries : TomlEntries) :
    Except TomlFault TomlEntries :=
  match keys.getLast? with
  | none => .ok entries
  | some key =>
    let path := keys.dropLast
    descend true (addNew (!path.isEmpty) key value) path origin entries

/-- Opens the table that a header names; it may have been passed through before, but not opened. -/
def openTable (key : String) (_ : TableOrigin) (entries : TomlEntries) :
    Except TomlFault TomlEntries :=
  match entries.get? key with
  | none => .ok (entries.put key (.table .header []))
  | some (.table .implied inner) => .ok (entries.put key (.table .header inner))
  | some _ => .error (.duplicateKey key)

/-- Opens one more member of the list of tables that a header in double brackets names. -/
def openMember (key : String) (_ : TableOrigin) (entries : TomlEntries) :
    Except TomlFault TomlEntries :=
  match entries.get? key with
  | none => .ok (entries.put key (.tables [[]]))
  | some (.tables members) => .ok (entries.put key (.tables (members ++ [[]])))
  | some _ => .error (.duplicateKey key)

end TomlEntries

end LayerAtlas
