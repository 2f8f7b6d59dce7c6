import LayerAtlas.Pattern.CharSet
import LayerAtlas.Text.Blank
import LayerAtlas.Text.Category

/-!
# Named sets of characters

The sets that a pattern may name: general categories and some properties in `\p`, and the classes in
double brackets, which are ASCII.
-/
namespace LayerAtlas.CharSet

/-- Names are compared in lower case, without blanks, dashes, underscores, characters beyond ASCII and
an `is` at the front. The name `isc` is whole. -/
def looseName (name : String) : String :=
  let bare (text : List Char) : List Char :=
    (text.filter fun c => c.toNat < 128 && c ≠ ' ' && c ≠ '_' && c ≠ '-').map Char.toLower
  match name.toList with
  | i :: s :: rest =>
    if i.toLower = 'i' ∧ s.toLower = 's' then
      if bare rest = ['c'] then "isc" else String.ofList (bare rest)
    else String.ofList (bare (i :: s :: rest))
  | text => String.ofList (bare text)

/-- The long names of the general categories, with the short names of their parts. -/
def longCategoryNames : List (String × String) :=
  [("uppercaseletter", "lu"), ("lowercaseletter", "ll"), ("titlecaseletter", "lt"),
    ("modifierletter", "lm"), ("otherletter", "lo"), ("nonspacingmark", "mn"),
    ("spacingmark", "mc"), ("enclosingmark", "me"), ("decimalnumber", "nd"), ("digit", "nd"),
    ("letternumber", "nl"), ("othernumber", "no"), ("connectorpunctuation", "pc"),
    ("dashpunctuation", "pd"), ("openpunctuation", "ps"), ("closepunctuation", "pe"),
    ("initialpunctuation", "pi"), ("finalpunctuation", "pf"), ("otherpunctuation", "po"),
    ("mathsymbol", "sm"), ("currencysymbol", "sc"), ("modifiersymbol", "sk"),
    ("othersymbol", "so"), ("spaceseparator", "zs"), ("lineseparator", "zl"),
    ("paragraphseparator", "zp"), ("control", "cc"), ("cntrl", "cc"), ("format", "cf"),
    ("privateuse", "co"), ("unassigned", "cn"), ("letter", "l"), ("mark", "m"),
    ("combiningmark", "m"), ("number", "n"), ("punctuation", "p"), ("punct", "p"),
    ("symbol", "s"), ("separator", "z"), ("other", "c")]

/-- The general category with this loose name. -/
def category? (name : String) : Option CharSet :=
  let code := ((longCategoryNames.find? (·.1 = name)).map (·.2)).getD name
  match code.toList with
  | [initial] =>
    if "lmnpszc".toList.contains initial then some (.table (Category.group initial)) else none
  | _ =>
    if code = "lc" then
      some (.table (Category.upperTable ++ Category.lowerTable ++ Category.titleTable))
    else (Category.short.find? (·.1 = code)).map fun entry => .table entry.2

/-- The set of a single name in `\p`: a general category or a property. -/
def named? (name : String) : Option CharSet :=
  let loose := looseName name
  if loose = "any" then some any
  else if loose = "ascii" then some (.range '\x00' '\x7f')
  else if loose = "assigned" then some (.complement (.table Category.unassignedTable))
  else if loose = "alphabetic" ∨ loose = "alpha" then some (.table Category.alphabeticTable)
  else if loose = "lowercase" ∨ loose = "lower" then some (.table Category.lowercaseTable)
  else if loose = "uppercase" ∨ loose = "upper" then some (.table Category.uppercaseTable)
  else if loose = "whitespace" ∨ loose = "wspace" ∨ loose = "space" then some (.table blankTable)
  else category? loose

/-- The set of a name with a value in `\p`, such as `gc=Lu`. -/
def valued? (name value : String) : Option CharSet :=
  let loose := looseName name
  if loose = "generalcategory" ∨ loose = "gc" then
    let wanted := looseName value
    if wanted = "any" then some any
    else if wanted = "ascii" then some (.range '\x00' '\x7f')
    else if wanted = "assigned" then some (.complement (.table Category.unassignedTable))
    else category? wanted
  else none

def asciiWord : CharSet :=
  unionAll [.range '0' '9', .range 'A' 'Z', .range 'a' 'z', .oneOf ['_']]

/-- The classes in double brackets. -/
def bracketed? (name : String) : Option CharSet :=
  match name with
  | "alnum" => some (unionAll [.range '0' '9', .range 'A' 'Z', .range 'a' 'z'])
  | "alpha" => some (unionAll [.range 'A' 'Z', .range 'a' 'z'])
  | "ascii" => some (.range '\x00' '\x7f')
  | "blank" => some (.oneOf ['\t', ' '])
  | "cntrl" => some (unionAll [.range '\x00' '\x1f', .oneOf ['\x7f']])
  | "digit" => some (.range '0' '9')
  | "graph" => some (.range '!' '~')
  | "lower" => some (.range 'a' 'z')
  | "print" => some (.range ' ' '~')
  | "punct" => some (unionAll [.range '!' '/', .range ':' '@', .range '[' '\x60', .range '{' '~'])
  | "space" => some (.oneOf ['\t', '\n', '\x0b', '\x0c', '\r', ' '])
  | "upper" => some (.range 'A' 'Z')
  | "word" => some asciiWord
  | "xdigit" => some (unionAll [.range '0' '9', .range 'A' 'F', .range 'a' 'f'])
  | _ => none

def digits (isUnicode : Bool) : CharSet :=
  if isUnicode then .table Category.digitTable else .range '0' '9'

def blanks (isUnicode : Bool) : CharSet :=
  if isUnicode then .table blankTable else .oneOf ['\t', '\n', '\x0b', '\x0c', '\r', ' ']

def wordChars (isUnicode : Bool) : CharSet :=
  if isUnicode then .table Category.wordTable else asciiWord

end LayerAtlas.CharSet
