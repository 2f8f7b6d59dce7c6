import LayerAtlas.Pattern.Dialect

/-!
# The small parts of a pattern

The flags under which a pattern is read, its escapes and its numbers, and what can be wrong with it.
Every reader takes the text that begins behind the characters already seen and gives back the text
that is left.
-/
namespace LayerAtlas

/-- Why a text is no pattern. -/
inductive PatternFault where
  | unopenedGroup | unclosedGroup | badGroupName | repeatedGroupName (name : String) | lookAround
  | unknownFlag (letter : Char) | repeatedFlag | danglingNegation | unclosedFlags
  | nothingToRepeat | unclosedCount | badCount
  | unclosedClass | badRange | badClassMember
  | endInEscape | backReference | unknownEscape (letter : Char) | badCodePoint
  | unknownWordBorder | unknownProperty (name : String)
  /-- The pattern might match part of a character's encoding. -/
  | splitsCharacters
  | tooDeep | tooLarge
  deriving DecidableEq, Repr

namespace PatternFault

def message : PatternFault → String
  | unopenedGroup => "unopened group"
  | unclosedGroup => "unclosed group"
  | badGroupName => "invalid group name"
  | repeatedGroupName name => "duplicate group name " ++ name
  | lookAround => "look-around is not supported"
  | unknownFlag letter => "unrecognized flag " ++ letter.toString
  | repeatedFlag => "duplicate flag"
  | danglingNegation => "dangling flag negation operator"
  | unclosedFlags => "expected flag but got end of pattern"
  | nothingToRepeat => "repetition operator missing expression"
  | unclosedCount => "unclosed counted repetition"
  | badCount => "invalid repetition count"
  | unclosedClass => "unclosed character class"
  | badRange => "invalid character class range"
  | badClassMember => "invalid escape sequence in character class"
  | endInEscape => "incomplete escape sequence"
  | backReference => "backreferences are not supported"
  | unknownEscape letter => "unrecognized escape sequence " ++ letter.toString
  | badCodePoint => "hexadecimal literal is not a character"
  | unknownWordBorder => "unrecognized special word boundary"
  | unknownProperty name => "Unicode property not found: " ++ name
  | splitsCharacters => "pattern can match invalid UTF-8"
  | tooDeep => "pattern is nested too deeply"
  | tooLarge => "pattern is too large"

end PatternFault

/-- How the text of a pattern is to be read, and its characters compared. -/
structure PatternFlags where
  dialect : PatternDialect
  ignoreCase : Bool := false
  multiLine : Bool := false
  dotAll : Bool := false
  crlf : Bool := false
  unicode : Bool := true
  /-- Blanks and comments in the pattern are passed over. -/
  extended : Bool := false

namespace PatternFlags

/-- Turns the flag of this letter on or off. The flag for swapped greed changes no match's existence. -/
def set? (flags : PatternFlags) (letter : Char) (value : Bool) : Option PatternFlags :=
  match letter with
  | 'i' => some { flags with ignoreCase := value }
  | 'm' => some { flags with multiLine := value }
  | 's' => some { flags with dotAll := value }
  | 'R' => some { flags with crlf := value }
  | 'u' => some { flags with unicode := value }
  | 'x' => some { flags with extended := value }
  | 'U' => some flags
  | _ => none

def wordRule (flags : PatternFlags) : WordRule :=
  if flags.unicode then .unicode else .ascii

/-- The set with the case variants that the flags ask for. -/
def fold (flags : PatternFlags) (set : CharSet) : CharSet :=
  if flags.ignoreCase then if flags.unicode then .folded set else .asciiFolded set else set

/-- Drops blanks and comments; a comment runs from `#` to the end of its line. -/
def dropIgnored (inComment : Bool) : List Char → List Char
  | [] => []
  | c :: rest =>
    if inComment then dropIgnored (c ≠ '\n') rest
    else if isBlank c then dropIgnored false rest
    else if c = '#' then dropIgnored true rest
    else c :: rest

/-- The text behind what these flags pass over. -/
def skip (flags : PatternFlags) (text : List Char) : List Char :=
  if flags.extended then dropIgnored false text else text

def lineStart (flags : PatternFlags) : Look :=
  if flags.multiLine then if flags.crlf then .crlfLineStart else .lineStart else .textStart

def lineEnd (flags : PatternFlags) : Look :=
  if flags.multiLine then if flags.crlf then .crlfLineEnd else .lineEnd else .textEnd

/-- The set of the dot: all characters, or all but those that end a line. -/
def dot (flags : PatternFlags) : Except PatternFault CharSet :=
  if !flags.unicode then .error .splitsCharacters
  else if flags.dotAll then .ok .any
  else if flags.crlf then .ok (.complement (.oneOf ['\r', '\n']))
  else .ok (.complement (.oneOf ['\n']))

end PatternFlags

/-- What an escape stands for. -/
inductive Escaped where
  /-- A character; it may be written as the number of a single byte. -/
  | letter (c : Char) (isByte : Bool)
  | set (set : CharSet)
  | look (look : Look)

namespace PatternFlags

/-- The character with this code point, unless it is a surrogate or too large. -/
def codePoint? (digits : List Char) : Option Char :=
  let value := digits.foldl (fun value c => value * 16 + CharTable.hexValue c) 0
  if h : value.isValidChar then some (Char.ofNatAux value h) else none

/-- Exactly `count` hexadecimal digits. -/
def hexDigits (flags : PatternFlags) : Nat → List Char → Except PatternFault (List Char × List Char)
  | 0, text => .ok ([], text)
  | count + 1, c :: rest =>
    if isHexDigit c then do
      let (digits, rest) ← flags.hexDigits count (flags.skip rest)
      .ok (c :: digits, rest)
    else .error .badCodePoint
  | _ + 1, [] => .error .endInEscape

/-- The characters up to a closing brace. -/
def braced (flags : PatternFlags) : Nat → List Char → Except PatternFault (List Char × List Char)
  | 0, _ => .error .endInEscape
  | fuel + 1, text =>
    match flags.skip text with
    | [] => .error .endInEscape
    | '}' :: rest => .ok ([], rest)
    | c :: rest => do
      let (inner, rest) ← flags.braced fuel rest
      .ok (c :: inner, rest)

/-- A character by its code point: in braces, or in as many digits as the letter before asks for. -/
def numbered (flags : PatternFlags) (width : Nat) (text : List Char) :
    Except PatternFault (Escaped × List Char) := do
  let (digits, rest) ←
    match flags.skip text with
    | [] => .error .endInEscape
    | '{' :: rest => flags.braced (rest.length + 1) rest
    | text => flags.hexDigits width text
  if digits.isEmpty ∨ !digits.all isHexDigit then .error .badCodePoint
  else
    match codePoint? digits with
    | some c => .ok (.letter c (width = 2 && c.toNat < 256), rest)
    | none => .error .badCodePoint

/-- The parts around the first place where `mark` stands. -/
def splitAt? (mark : List Char) : List Char → Option (String × String)
  | [] => none
  | c :: rest =>
    match mark.isPrefixOf? (c :: rest) with
    | some behind => some ("", String.ofList behind)
    | none => (splitAt? mark rest).map fun (front, behind) => (c.toString ++ front, behind)

/-- The set that a text in `\p` names, and whether the text itself negates it. -/
def property (flags : PatternFlags) (text : List Char) : Except PatternFault (CharSet × Bool) :=
  let known (set : Option CharSet) (negated : Bool) : Except PatternFault (CharSet × Bool) :=
    match set with
    | some set => .ok (set, negated)
    | none => .error (.unknownProperty (String.ofList text))
  match splitAt? ['!', '='] text with
  | some (name, value) => known (flags.dialect.valued? name value) true
  | none =>
    match splitAt? [':'] text with
    | some (name, value) => known (flags.dialect.valued? name value) false
    | none =>
      match splitAt? ['='] text with
      | some (name, value) => known (flags.dialect.valued? name value) false
      | none => known (flags.dialect.named? (String.ofList text)) false

/-- The set of `\p` or `\P`, by one letter or by a name in braces. -/
def named (flags : PatternFlags) (negated : Bool) (text : List Char) :
    Except PatternFault (Escaped × List Char) := do
  let (name, rest) ←
    match flags.skip text with
    | [] => .error .endInEscape
    | '{' :: rest => flags.braced (rest.length + 1) rest
    | '\\' :: _ => .error (.unknownProperty "\\")
    | c :: rest => .ok ([c], flags.skip rest)
  if !flags.unicode then .error .splitsCharacters
  else
    let (set, inverted) ← flags.property name
    .ok (.set (CharSet.negateIf (negated != inverted) (flags.fold set)), rest)

/-- The sets named by a single letter. Their complements need whole characters. -/
def lettered (flags : PatternFlags) (negated : Bool) (set : CharSet) :
    Except PatternFault Escaped :=
  if negated && !flags.unicode then .error .splitsCharacters
  else .ok (.set (CharSet.negateIf negated set))

def isBorderChar (c : Char) : Bool :=
  c.isAlpha || c = '-'

/-- The name of a word border up to its closing brace. -/
def borderName (flags : PatternFlags) : Nat → List Char → Except PatternFault (List Char × List Char)
  | 0, _ => .error .unknownWordBorder
  | fuel + 1, text =>
    match flags.skip text with
    | '}' :: rest => .ok ([], rest)
    | c :: rest =>
      if isBorderChar c then do
        let (name, rest) ← flags.borderName fuel rest
        .ok (c :: name, rest)
      else .error .unknownWordBorder
    | [] => .error .unknownWordBorder

/-- A word border, of a special kind when a name in braces follows. Other braces are left alone. -/
def wordBorder (flags : PatternFlags) (text : List Char) :
    Except PatternFault (Escaped × List Char) :=
  let rule := flags.wordRule
  match text with
  | '{' :: rest =>
    match flags.skip rest with
    | [] => .error .unknownWordBorder
    | c :: _ =>
      if isBorderChar c then do
        let (name, rest) ← flags.borderName (rest.length + 1) rest
        match String.ofList name with
        | "start" => .ok (.look (.wordStart rule), rest)
        | "end" => .ok (.look (.wordEnd rule), rest)
        | "start-half" => .ok (.look (.wordStartHalf rule), rest)
        | "end-half" => .ok (.look (.wordEndHalf rule), rest)
        | _ => .error .unknownWordBorder
      else .ok (.look (.wordBorder rule), text)
  | text => .ok (.look (.wordBorder rule), text)

/-- Reads what follows a backslash. -/
def escape (flags : PatternFlags) (text : List Char) : Except PatternFault (Escaped × List Char) :=
  let rule := flags.wordRule
  match text with
  | [] => .error .endInEscape
  | c :: rest =>
    let letter (value : Char) : Except PatternFault (Escaped × List Char) :=
      .ok (.letter value false, rest)
    let set (negated : Bool) (members : CharSet) : Except PatternFault (Escaped × List Char) := do
      .ok (← flags.lettered negated members, rest)
    match c with
    | 'x' => flags.numbered 2 rest
    | 'u' => flags.numbered 4 rest
    | 'U' => flags.numbered 8 rest
    | 'p' => flags.named false rest
    | 'P' => flags.named true rest
    | 'd' => set false (CharSet.digits flags.unicode)
    | 'D' => set true (CharSet.digits flags.unicode)
    | 's' => set false (CharSet.blanks flags.unicode)
    | 'S' => set true (CharSet.blanks flags.unicode)
    | 'w' => set false (CharSet.wordChars flags.unicode)
    | 'W' => set true (CharSet.wordChars flags.unicode)
    | 'a' => letter '\x07'
    | 'f' => letter '\x0c'
    | 't' => letter '\t'
    | 'n' => letter '\n'
    | 'r' => letter '\r'
    | 'v' => letter '\x0b'
    | 'A' => .ok (.look .textStart, rest)
    | 'z' => .ok (.look .textEnd, rest)
    | 'b' => flags.wordBorder rest
    | 'B' => .ok (.look (.noWordBorder rule), rest)
    | '<' => .ok (.look (.wordStart rule), rest)
    | '>' => .ok (.look (.wordEnd rule), rest)
    | c =>
      if c.isDigit then .error .backReference
      else if c.isAlpha ∨ 128 ≤ c.toNat then .error (.unknownEscape c)
      else letter c

/-- A literal character. Without Unicode a byte beyond ASCII is part of a character. -/
def literal (flags : PatternFlags) (c : Char) (isByte : Bool) : Except PatternFault CharSet :=
  if isByte && !flags.unicode && 128 ≤ c.toNat then .error .splitsCharacters
  else .ok (flags.fold (.oneOf [c]))

/-- A decimal number with blanks around it; none when there is no digit. -/
def decimal (flags : PatternFlags) (text : List Char) : Option Nat × List Char :=
  let rec digits : Nat → List Char → List Char × List Char
    | 0, text => ([], text)
    | fuel + 1, text =>
      match text with
      | c :: rest =>
        if c.isDigit then
          let (more, rest) := digits fuel (flags.skip rest)
          (c :: more, rest)
        else ([], text)
      | [] => ([], [])
  let (found, rest) := digits text.length (text.dropWhile isBlank)
  let behind := flags.skip (rest.dropWhile isBlank)
  if found.isEmpty then (none, behind)
  else (some (found.foldl (fun value c => value * 10 + (c.toNat - '0'.toNat)) 0), behind)

end PatternFlags

end LayerAtlas
