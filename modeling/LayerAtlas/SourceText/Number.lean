import LayerAtlas.Text.CharTable

/-!
# Numbers of Python

How many characters of a text a number takes. Single underscores may stand behind digits.
-/
namespace LayerAtlas.SourceText

/-- The length of the digits at the front. An underscore counts behind a digit. -/
def decimalRun (afterDigit : Bool) : List Char → Nat
  | [] => 0
  | c :: rest =>
    if c.isDigit then decimalRun true rest + 1
    else if c = '_' && afterDigit then decimalRun false rest + 1
    else 0

/-- The length of the digits of a base at the front. An underscore counts in front of a digit. -/
def basedRun (isDigit : Char → Bool) : List Char → Nat
  | [] => 0
  | c :: rest =>
    if isDigit c then basedRun isDigit rest + 1
    else if c = '_' && rest.head?.any isDigit then basedRun isDigit rest + 1
    else 0

/-- One more when one of these letters comes behind `length` characters. -/
def withSuffix (letters : List Char) (text : List Char) (length : Nat) : Nat :=
  if (text.drop length).head?.any letters.contains then length + 1 else length

/-- The length of a number in a base, if there is one behind its mark. -/
def basedLength (isDigit : Char → Bool) (text : List Char) : Nat :=
  let digits := basedRun isDigit (text.drop 2)
  if digits = 0 then 0 else withSuffix ['l', 'L'] text (digits + 2)

def integerLength (text : List Char) : Nat :=
  let decimal := withSuffix ['l', 'L', 'j', 'J'] text (decimalRun false text)
  match text with
  | '0' :: mark :: _ =>
    let based :=
      if mark = 'x' || mark = 'X' then basedLength isHexDigit text
      else if mark = 'o' || mark = 'O' then basedLength (fun c => '0' ≤ c && c ≤ '7') text
      else if mark = 'b' || mark = 'B' then basedLength (fun c => c = '0' || c = '1') text
      else 0
    if based = 0 then decimal else based
  | _ => decimal

/-- The length of an exponent at the front. -/
def exponentLength (text : List Char) : Nat :=
  match text with
  | e :: rest =>
    if e = 'e' || e = 'E' then
      let sign := if rest.head?.any fun c => c = '+' || c = '-' then 1 else 0
      let digits := decimalRun false (rest.drop sign)
      if digits = 0 then 0 else 1 + sign + digits
    else 0
  | [] => 0

/-- The length of a number with a point or an exponent at the front. -/
def floatLength (text : List Char) : Nat :=
  let whole := decimalRun false text
  let mantissa :=
    match text.drop whole with
    | '.' :: rest =>
      let fraction := decimalRun false rest
      if whole + fraction = 0 then 0 else whole + 1 + fraction
    | _ => 0
  let exponent := exponentLength (text.drop (max whole mantissa))
  if mantissa = 0 && (whole = 0 || exponent = 0) then 0
  else withSuffix ['l', 'L', 'j', 'J'] text (max whole mantissa + exponent)

/-- The length of the longest number at the front; zero when there is none. -/
def numberLength (text : List Char) : Nat :=
  if text.head?.any Char.isDigit then max (integerLength text) (floatLength text)
  else floatLength text

end LayerAtlas.SourceText
