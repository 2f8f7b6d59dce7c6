import LayerAtlas.Pattern.Bracket

/-!
# Reading patterns

The grammar of patterns: alternatives, sequences, repetitions, groups and flags. A flag set inside a
group holds up to the end of that group, also in the alternatives that follow.

Embeds the syntax of patterns that the rule registry relies on (specification, 4.6).
-/
namespace LayerAtlas

/-- A part of a sequence, with the depth of its nesting. A change of flags is a part that matches
nothing and cannot be repeated. -/
structure PatternPart where
  regex : Regex
  height : Nat
  isFlags : Bool := false

namespace PatternPart

def ofRegex (regex : Regex) : PatternPart := ⟨regex, 0, false⟩

def flags : PatternPart := ⟨.empty, 0, true⟩

def nestedHeight (parts : List PatternPart) : Nat :=
  match parts with
  | [] => 0
  | [part] => part.height
  | parts => (parts.map (·.height)).foldl max 0 + 1

/-- Parts in a row, given from last to first. -/
def sequence (parts : List PatternPart) : PatternPart :=
  ⟨.seqAll (parts.reverse.map (·.regex)), nestedHeight parts, false⟩

/-- Alternatives, given from last to first. -/
def choice (branches : List PatternPart) : PatternPart :=
  ⟨.altAll (branches.reverse.map (·.regex)), nestedHeight branches, false⟩

end PatternPart

/-- What has been read so far decides how the rest is read. -/
structure PatternContext where
  flags : PatternFlags
  groupNames : List String := []

/-- How a group begins: it only sets flags for what follows, or it opens with flags of its own. -/
inductive GroupHead where
  | flagsOnly (flags : PatternFlags)
  | opened (flags : PatternFlags) (name : Option String)

namespace PatternFlags

/-- Reads flags up to `:` or `)`, and tells which of the two ends them. -/
def readFlags (result : PatternFlags) (seen : List Char) :
    List Char → Except PatternFault (PatternFlags × List Char × Char × List Char)
  | [] => .error .unclosedFlags
  | c :: rest =>
    if c = ':' ∨ c = ')' then
      if seen.head? = some '-' then .error .danglingNegation else .ok (result, seen, c, rest)
    else if seen.contains c then .error .repeatedFlag
    else if c = '-' then readFlags result (c :: seen) rest
    else
      match result.set? c (!seen.contains '-') with
      | some result => readFlags result (c :: seen) rest
      | none => .error (.unknownFlag c)

def isNameStart (c : Char) : Bool :=
  c = '_' || Category.isAlphabetic c

def isNameChar (c : Char) : Bool :=
  c = '_' || c = '.' || c = '[' || c = ']' || Category.isAlphanumeric c

/-- The name of a group, up to its closing angle. -/
def groupName (text : List Char) : Except PatternFault (String × List Char) :=
  let name := text.takeWhile (· ≠ '>')
  match text.dropWhile (· ≠ '>') with
  | '>' :: rest =>
    match name with
    | first :: more =>
      if isNameStart first && more.all isNameChar then .ok (String.ofList name, rest)
      else .error .badGroupName
    | [] => .error .badGroupName
  | _ => .error .badGroupName

/-- Reads what stands behind an opening parenthesis. -/
def groupHead (flags : PatternFlags) (text : List Char) :
    Except PatternFault (GroupHead × List Char) :=
  let named (text : List Char) : Except PatternFault (GroupHead × List Char) := do
    let (name, rest) ← groupName text
    .ok (.opened flags (some name), rest)
  match flags.skip text with
  | '?' :: '=' :: _ | '?' :: '!' :: _ | '?' :: '<' :: '=' :: _ | '?' :: '<' :: '!' :: _ =>
    .error .lookAround
  | '?' :: 'P' :: '<' :: rest => named rest
  | '?' :: '<' :: rest => named rest
  | '?' :: [] => .error .unclosedGroup
  | '?' :: rest => do
    let (inner, seen, last, rest) ← flags.readFlags [] rest
    if last = ':' then .ok (.opened inner none, rest)
    else if seen.isEmpty then .error .nothingToRepeat
    else .ok (.flagsOnly inner, rest)
  | text => .ok (.opened flags none, text)

end PatternFlags

namespace PatternContext

def skip (context : PatternContext) (text : List Char) : List Char :=
  context.flags.skip text

/-- Takes a name for a group unless it is taken. -/
def addName (context : PatternContext) (name : Option String) :
    Except PatternFault PatternContext :=
  match name with
  | none => .ok context
  | some name =>
    if context.groupNames.contains name then .error (.repeatedGroupName name)
    else .ok { context with groupNames := name :: context.groupNames }

/-- The largest count of a repetition. -/
def maxCount : Nat := 4294967295

/-- The bounds of a counted repetition, read from behind the opening brace up to the closing one. -/
def counts (context : PatternContext) (text : List Char) :
    Except PatternFault ((Nat × Option Nat) × List Char) :=
  let flags := context.flags
  let closed (least : Nat) (most : Option Nat) (text : List Char) :
      Except PatternFault ((Nat × Option Nat) × List Char) :=
    match text with
    | '}' :: rest =>
      if maxCount < least ∨ most.any (fun bound => maxCount < bound || bound < least) then
        .error .badCount
      else .ok ((least, most), flags.skip rest)
    | _ => .error .unclosedCount
  match flags.decimal (flags.skip text) with
  | (none, _) => .error .badCount
  | (some least, ',' :: rest) =>
    match flags.skip rest with
    | '}' :: rest => closed least none ('}' :: rest)
    | rest =>
      match flags.decimal rest with
      | (some most, rest) => closed least (some most) rest
      | (none, _) => .error .badCount
  | (some least, rest) => closed least (some least) rest

/-- Repeats the last part; a question mark behind the operator only changes which match is found. -/
def repeatLast (parts : List PatternPart) (least : Nat) (most : Option Nat) (text : List Char) :
    Except PatternFault (List PatternPart × List Char) :=
  match parts with
  | part :: before =>
    if part.isFlags then .error .nothingToRepeat
    else
      let rest :=
        match text with
        | '?' :: rest => rest
        | rest => rest
      .ok (⟨.repeated part.regex least most, part.height + 1, false⟩ :: before, rest)
  | [] => .error .nothingToRepeat

/-- One character, escape, dot or anchor. -/
def primitive (context : PatternContext) (c : Char) (rest : List Char) :
    Except PatternFault (PatternPart × List Char) :=
  let flags := context.flags
  match c with
  | '\\' => do
    match ← flags.escape rest with
    | (.letter c isByte, rest) => .ok (.ofRegex (.chars (← flags.literal c isByte)), rest)
    | (.set set, rest) => .ok (.ofRegex (.chars set), rest)
    | (.look look, rest) => .ok (.ofRegex (.look look), rest)
  | '.' => do .ok (.ofRegex (.chars (← flags.dot)), rest)
  | '^' => .ok (.ofRegex (.look flags.lineStart), rest)
  | '$' => .ok (.ofRegex (.look flags.lineEnd), rest)
  | c => do .ok (.ofRegex (.chars (← flags.literal c false)), rest)

/-- Reads up to the end of the text or to a closing parenthesis: `branches` are the alternatives
before this one, `parts` what stands in it so far, both from last to first. -/
def read : Nat → PatternContext → List PatternPart → List PatternPart → List Char →
    Except PatternFault (PatternPart × PatternContext × List Char)
  | 0, _, _, _, _ => .error .unclosedGroup
  | fuel + 1, context, branches, parts, text =>
    let whole := PatternPart.choice (.sequence parts :: branches)
    match context.skip text with
    | [] => .ok (whole, context, [])
    | ')' :: rest => .ok (whole, context, ')' :: rest)
    | '|' :: rest => context.read fuel (.sequence parts :: branches) [] rest
    | '(' :: rest => do
      match ← context.flags.groupHead rest with
      | (.flagsOnly flags, rest) =>
        read fuel { context with flags := flags } branches (.flags :: parts) rest
      | (.opened flags name, rest) =>
        let inside ← context.addName name
        let (inner, after, rest) ← read fuel { inside with flags := flags } [] [] rest
        match rest with
        | ')' :: rest =>
          let group : PatternPart := ⟨inner.regex, inner.height + 1, false⟩
          read fuel { after with flags := context.flags } branches (group :: parts) rest
        | _ => .error .unclosedGroup
    | '[' :: rest => do
      let (set, rest) ← context.flags.bracket rest
      let part : PatternPart := ⟨.chars set.set, set.height, false⟩
      context.read fuel branches (part :: parts) rest
    | '*' :: rest => do
      let (parts, rest) ← repeatLast parts 0 none rest
      context.read fuel branches parts rest
    | '+' :: rest => do
      let (parts, rest) ← repeatLast parts 1 none rest
      context.read fuel branches parts rest
    | '?' :: rest => do
      let (parts, rest) ← repeatLast parts 0 (some 1) rest
      context.read fuel branches parts rest
    | '{' :: rest => do
      let ((least, most), rest) ← context.counts rest
      let (parts, rest) ← repeatLast parts least most rest
      context.read fuel branches parts rest
    | c :: rest => do
      let (part, rest) ← context.primitive c rest
      context.read fuel branches (part :: parts) rest

end PatternContext

namespace Regex

/-- How deeply the parts of a pattern may be nested. -/
def maxHeight : Nat := 250

/-- The pattern that a text is when it is read under these flags. -/
def read (flags : PatternFlags) (text : List Char) : Except PatternFault Regex := do
  let (part, _, rest) ← PatternContext.read (text.length + 1) { flags := flags } [] [] text
  if !rest.isEmpty then .error .unopenedGroup
  else if maxHeight < part.height then .error .tooDeep
  else .ok part.regex

/-- The pattern that a text is, unless its compiled form would be too large. -/
def parse (dialect : PatternDialect) (text : List Char) : Except PatternFault Regex := do
  let regex ← read { dialect := dialect } text
  if dialect.fits text regex then .ok regex else .error .tooLarge

end Regex

end LayerAtlas
