import LayerAtlas.Text.CharTable
import LayerAtlas.Text.Split
import LayerAtlas.Toml.Value

/-!
# Scalars of TOML

Strings in their four forms, numbers, dates and times. Every reader gives back the text that is left.
-/
namespace LayerAtlas.Toml

/-- Characters that may stand within a line of text: no control characters but the tab. -/
def isInline (c : Char) : Bool :=
  c = '\t' || (0x20 ≤ c.toNat && c.toNat ≠ 0x7f)

/-- The text behind a line break. -/
def newline? : List Char → Option (List Char)
  | '\n' :: rest => some rest
  | '\r' :: '\n' :: rest => some rest
  | _ => none

def isSpace (c : Char) : Bool :=
  c = ' ' || c = '\t'

def skipSpaces (text : List Char) : List Char :=
  text.dropWhile isSpace

/-- The fault of a text that does not go on as it should. -/
def stuck : List Char → TomlFault
  | [] => .unexpectedEnd
  | c :: _ => .unexpected c

/-- A character given by hexadecimal digits; surrogates are none. -/
def codePoint (width : Nat) (text : List Char) : Except TomlFault (Char × List Char) :=
  let digits := text.take width
  let value := digits.foldl (fun value c => value * 16 + CharTable.hexValue c) 0
  if digits.length = width ∧ digits.all isHexDigit then
    if h : value.isValidChar then .ok (Char.ofNatAux value h, text.drop width)
    else .error .badEscape
  else .error .badEscape

/-- Reads what follows a backslash. -/
def escape : List Char → Except TomlFault (Char × List Char)
  | 'b' :: rest => .ok ('\x08', rest)
  | 't' :: rest => .ok ('\t', rest)
  | 'n' :: rest => .ok ('\n', rest)
  | 'f' :: rest => .ok ('\x0c', rest)
  | 'r' :: rest => .ok ('\r', rest)
  | '"' :: rest => .ok ('"', rest)
  | '\\' :: rest => .ok ('\\', rest)
  | 'u' :: rest => codePoint 4 rest
  | 'U' :: rest => codePoint 8 rest
  | _ => .error .badEscape

/-- The rest of a string on one line, up to its closing quote. -/
def lineString (quote : Char) : Nat → List Char → Except TomlFault (List Char × List Char)
  | 0, text => .error (stuck text)
  | fuel + 1, text =>
    match text with
    | [] => .error .unexpectedEnd
    | c :: rest =>
      if c = quote then .ok ([], rest)
      else if c = '\\' ∧ quote = '"' then do
        let (c, rest) ← escape rest
        let (more, rest) ← lineString quote fuel rest
        .ok (c :: more, rest)
      else if isInline c then do
        let (more, rest) ← lineString quote fuel rest
        .ok (c :: more, rest)
      else .error (.unexpected c)

/-- Drops blanks and line breaks. -/
def skipBlankLines : Nat → List Char → List Char
  | 0, text => text
  | fuel + 1, text =>
    let text := skipSpaces text
    match newline? text with
    | some rest => skipBlankLines fuel rest
    | none => text

/-- The text behind a line break that a backslash hides, with the blanks around it. -/
def hiddenBreak? (text : List Char) : Option (List Char) :=
  (newline? (skipSpaces text)).map fun rest => skipBlankLines rest.length rest

/-- The rest of a string of several lines, up to three quotes; one or two quotes before them belong to
the string. -/
def blockString (quote : Char) : Nat → List Char → Except TomlFault (List Char × List Char)
  | 0, text => .error (stuck text)
  | fuel + 1, text =>
    match text with
    | [] => .error .unexpectedEnd
    | c :: rest =>
      if c = quote then
        let run := (text.takeWhile (· = quote)).length
        if run < 3 then do
          let (more, rest) ← blockString quote fuel (text.drop run)
          .ok (List.replicate run quote ++ more, rest)
        else if run ≤ 5 then .ok (List.replicate (run - 3) quote, text.drop run)
        else .error (.unexpected quote)
      else if c = '\\' ∧ quote = '"' then
        match hiddenBreak? rest with
        | some rest => blockString quote fuel rest
        | none => do
          let (c, rest) ← escape rest
          let (more, rest) ← blockString quote fuel rest
          .ok (c :: more, rest)
      else
        match newline? text with
        | some rest => do
          let (more, rest) ← blockString quote fuel rest
          .ok ('\n' :: more, rest)
        | none =>
          if isInline c then do
            let (more, rest) ← blockString quote fuel rest
            .ok (c :: more, rest)
          else .error (.unexpected c)

/-- A string, read from behind its first quote. A line break right behind three quotes is dropped. -/
def string (quote : Char) (text : List Char) : Except TomlFault (String × List Char) := do
  let (value, rest) ←
    match [quote, quote].isPrefixOf? text with
    | some inner =>
      let inner := (newline? inner).getD inner
      blockString quote (inner.length + 1) inner
    | none => lineString quote (text.length + 1) text
  .ok (String.ofList value, rest)

/-- A run of digits in which single underscores stand between digits. -/
def isDigitRun (isDigit : Char → Bool) (text : List Char) : Bool :=
  (splitPieces '_' text).all fun piece => !piece.isEmpty && piece.all isDigit

/-- The value of digits in a base, underscores passed over. -/
def digitsValue (base : Nat) (text : List Char) : Nat :=
  (text.filter (· ≠ '_')).foldl (fun value c => value * base + CharTable.hexValue c) 0

/-- A text without its sign, and whether the sign is a minus. -/
def takeSign : List Char → Bool × List Char
  | '-' :: rest => (true, rest)
  | '+' :: rest => (false, rest)
  | text => (false, text)

/-- Decimal digits without a zero in front of others. -/
def isDecimal (digits : List Char) : Bool :=
  isDigitRun Char.isDigit digits && (digits.length = 1 || digits.head? ≠ some '0')

/-- The value, if it fits into 64 bits with a sign. -/
def fitted (value : Int) : Except TomlFault TomlValue :=
  if -0x8000000000000000 ≤ value ∧ value ≤ 0x7FFFFFFFFFFFFFFF then .ok (.integer value)
  else .error .badNumber

def based (base : Nat) (isDigit : Char → Bool) (digits : List Char) : Except TomlFault TomlValue :=
  if isDigitRun isDigit digits then fitted (digitsValue base digits) else .error .badNumber

/-- Whether a decimal number, its point `scale` places from the end of the digits, is too large for a
double: it lies at least halfway from the largest double to the next power of two. -/
def overflows (digits : List Char) (scale : Int) : Bool :=
  let mantissa := digitsValue 10 digits
  let length := (Nat.toDigits 10 mantissa).length
  if mantissa = 0 then false
  else if 310 < length + scale then true
  else if length + scale < 308 then false
  else
    (Nat.pow 2 1024 - Nat.pow 2 970) * Nat.pow 10 (-scale).toNat ≤
      mantissa * Nat.pow 10 scale.toNat

/-- Digits before the point, digits behind it, and the exponent. -/
def floatParts? (text : List Char) : Option (List Char × List Char × Int) :=
  let isDigitOrBar (c : Char) : Bool := c.isDigit || c = '_'
  let (whole, rest) := text.span isDigitOrBar
  let fraction? :=
    match rest with
    | '.' :: rest =>
      let (fraction, rest) := rest.span isDigitOrBar
      if isDigitRun Char.isDigit fraction then some (fraction, rest) else none
    | rest => some ([], rest)
  match fraction? with
  | none => none
  | some (fraction, rest) =>
    if !isDecimal whole then none
    else
      match rest with
      | [] => if fraction.isEmpty then none else some (whole, fraction, 0)
      | e :: exponent =>
        let (negative, digits) := takeSign exponent
        if (e = 'e' ∨ e = 'E') ∧ isDigitRun Char.isDigit digits then
          let value : Int := digitsValue 10 digits
          some (whole, fraction, if negative then -value else value)
        else none

/-- A number with a fraction or an exponent. One beyond the largest double is refused unless it is
negative. -/
def float (text : List Char) : Except TomlFault TomlValue :=
  let (negative, body) := takeSign text
  if body = "inf".toList ∨ body = "nan".toList then .ok .float
  else
    match floatParts? body with
    | none => .error .badNumber
    | some (whole, fraction, exponent) =>
      let scale := exponent - (fraction.filter (· ≠ '_')).length
      if !negative && overflows (whole ++ fraction) scale then .error .badNumber else .ok .float

/-- A number: with a base, an integer, or a float. -/
def number (text : List Char) : Except TomlFault TomlValue :=
  match text with
  | '0' :: 'x' :: digits => based 16 isHexDigit digits
  | '0' :: 'o' :: digits => based 8 (fun c => '0' ≤ c && c ≤ '7') digits
  | '0' :: 'b' :: digits => based 2 (fun c => c = '0' || c = '1') digits
  | text =>
    let (negative, digits) := takeSign text
    if isDecimal digits then
      let value : Int := digitsValue 10 digits
      fitted (if negative then -value else value)
    else float text

/-- Exactly `width` digits, with their value within the bounds. -/
def field? (width low high : Nat) (text : List Char) : Option (Nat × List Char) :=
  let digits := text.take width
  let value := digitsValue 10 digits
  if digits.length = width ∧ digits.all Char.isDigit ∧ low ≤ value ∧ value ≤ high then
    some (value, text.drop width)
  else none

def daysInMonth (year month : Nat) : Nat :=
  if month = 2 then
    if year % 4 = 0 ∧ (year % 100 ≠ 0 ∨ year % 400 = 0) then 29 else 28
  else if month = 4 ∨ month = 6 ∨ month = 9 ∨ month = 11 then 30
  else 31

/-- The text behind a date. -/
def date? (text : List Char) : Option (List Char) := do
  let (year, rest) ← field? 4 0 9999 text
  let rest ← ['-'].isPrefixOf? rest
  let (month, rest) ← field? 2 1 12 rest
  let rest ← ['-'].isPrefixOf? rest
  let (_, rest) ← field? 2 1 (daysInMonth year month) rest
  some rest

/-- The text behind a time of day. -/
def time? (text : List Char) : Option (List Char) := do
  let (_, rest) ← field? 2 0 23 text
  let rest ← [':'].isPrefixOf? rest
  let (_, rest) ← field? 2 0 59 rest
  let rest ← [':'].isPrefixOf? rest
  let (_, rest) ← field? 2 0 60 rest
  match rest with
  | '.' :: rest =>
    let (fraction, rest) := rest.span Char.isDigit
    if fraction.isEmpty then none else some rest
  | rest => some rest

/-- The text behind an offset from universal time, or all of it when there is no offset. -/
def offset? (text : List Char) : Option (List Char) :=
  match text with
  | 'Z' :: rest | 'z' :: rest => some rest
  | '+' :: rest | '-' :: rest => do
    let (_, rest) ← field? 2 0 23 rest
    let rest ← [':'].isPrefixOf? rest
    let (_, rest) ← field? 2 0 59 rest
    some rest
  | text => some text

/-- Whether the whole text is a time, with or without an offset. -/
def isTime (withOffset : Bool) (text : List Char) : Bool :=
  match time? text with
  | some rest => if withOffset then offset? rest = some [] else rest.isEmpty
  | none => false

/-- Whether a text begins like a date or a time. -/
def looksDated (text : List Char) : Bool :=
  let digits := (text.takeWhile Char.isDigit).length
  match text.drop digits with
  | '-' :: _ => digits = 4
  | ':' :: _ => digits = 2
  | _ => false

/-- Characters of numbers, dates and words. -/
def isTokenChar (c : Char) : Bool :=
  c.isAlphanum || c = '_' || c = '+' || c = '-' || c = '.' || c = ':'

/-- A date or time of one token; behind a date and a blank a time may follow. -/
def dated (token rest : List Char) : Except TomlFault (TomlValue × List Char) :=
  match date? token with
  | none => if isTime false token then .ok (.date, rest) else .error .badDate
  | some [] =>
    match rest with
    | ' ' :: c :: more =>
      if c.isDigit then
        let (token, rest) := (c :: more).span isTokenChar
        if isTime true token then .ok (.date, rest) else .error .badDate
      else .ok (.date, rest)
    | rest => .ok (.date, rest)
  | some (t :: time) =>
    if (t = 'T' ∨ t = 't') ∧ isTime true time then .ok (.date, rest) else .error .badDate

/-- A value without quotes or brackets. -/
def plain (text : List Char) : Except TomlFault (TomlValue × List Char) :=
  let (token, rest) := text.span isTokenChar
  if token = [] then .error (stuck text)
  else if token = "true".toList then .ok (.boolean true, rest)
  else if token = "false".toList then .ok (.boolean false, rest)
  else if looksDated token then dated token rest
  else do .ok (← number token, rest)

end LayerAtlas.Toml
