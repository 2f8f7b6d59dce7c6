/-!
# UTF-8 text

Reading bytes as UTF-8. Where they are not, the fault says where the first ill-formed sequence
begins, and how many of its bytes were read before it became ill-formed, unless the text simply ends
inside it. A reading that is only to be shown goes on behind such a sequence and leaves a mark for it.
-/
namespace LayerAtlas

/-- Why bytes are no UTF-8 text. -/
inductive Utf8Fault where
  | invalid (length index : Nat)
  | incomplete (index : Nat)
  deriving DecidableEq, Repr

namespace Utf8Fault

def message : Utf8Fault → String
  | invalid length index =>
    "invalid utf-8 sequence of " ++ toString length ++ " bytes from index " ++ toString index
  | incomplete index => "incomplete utf-8 byte sequence from index " ++ toString index

end Utf8Fault

namespace Utf8

/-- The ranges of the bytes that must follow a leading byte; none if no sequence begins with it. -/
def followers? (lead : UInt8) : Option (List (UInt8 × UInt8)) :=
  let any : UInt8 × UInt8 := (0x80, 0xbf)
  if lead < 0x80 then some []
  else if lead < 0xc2 then none
  else if lead < 0xe0 then some [any]
  else if lead = 0xe0 then some [(0xa0, 0xbf), any]
  else if lead = 0xed then some [(0x80, 0x9f), any]
  else if lead < 0xf0 then some [any, any]
  else if lead = 0xf0 then some [(0x90, 0xbf), any, any]
  else if lead < 0xf4 then some [any, any, any]
  else if lead = 0xf4 then some [(0x80, 0x8f), any, any]
  else none

/-- The first fault from `index` on; `expected` are the followers that the sequence begun at `start`
still lacks. -/
def firstFault? (start index : Nat) : List (UInt8 × UInt8) → List UInt8 → Option Utf8Fault
  | [], [] => none
  | _ :: _, [] => some (.incomplete start)
  | [], byte :: rest =>
    match followers? byte with
    | some expected => firstFault? index (index + 1) expected rest
    | none => some (.invalid 1 index)
  | (low, high) :: expected, byte :: rest =>
    if low ≤ byte ∧ byte ≤ high then firstFault? start (index + 1) expected rest
    else some (.invalid (index - start) start)

/-- The text that the bytes encode. -/
def decode (bytes : ByteArray) : Except Utf8Fault String :=
  match firstFault? 0 0 [] bytes.toList with
  | some fault => .error fault
  | none => .ok ((String.fromUTF8? bytes).getD "")

/-- Stands for a sequence of bytes that is no character. -/
def replacement : Char := '\uFFFD'

/-- A sequence that has begun: the value of its bytes so far, and the ranges of those that it lacks. It
lacks none between two characters. -/
structure Begun where
  value : Nat
  lacking : List (UInt8 × UInt8)

namespace Begun

def idle : Begun := ⟨0, []⟩

/-- What a sequence gives that has come to this value: its character, once it lacks nothing. -/
def settle (value : Nat) (lacking : List (UInt8 × UInt8)) : List Char × Begun :=
  if lacking = [] then ([Char.ofNat value], idle) else ([], ⟨value, lacking⟩)

/-- The part of a leading byte that counts for the value, by the number of bytes to follow. -/
def leadValue (lead : Nat) : Nat → Nat
  | 0 => lead
  | 1 => lead % 0x20
  | 2 => lead % 0x10
  | _ => lead % 0x08

/-- A byte with which no sequence begins is replaced. -/
def lead (byte : UInt8) : List Char × Begun :=
  match followers? byte with
  | some lacking => settle (leadValue byte.toNat lacking.length) lacking
  | none => ([replacement], idle)

/-- The characters that are complete with one more byte. A sequence that the byte does not continue is
replaced, and another begins with the byte. -/
def step (begun : Begun) (byte : UInt8) : List Char × Begun :=
  match begun.lacking with
  | [] => lead byte
  | (low, high) :: lacking =>
    if low ≤ byte ∧ byte ≤ high then settle (begun.value * 64 + byte.toNat % 64) lacking
    else
      let (letters, next) := lead byte
      (replacement :: letters, next)

/-- The characters of the bytes behind a sequence that has begun. -/
def read : Begun → List UInt8 → List Char
  | begun, [] => if begun.lacking = [] then [] else [replacement]
  | begun, byte :: rest =>
    let (letters, next) := begun.step byte
    letters ++ next.read rest

end Begun

/-- The text that the bytes encode, with a replacement for each longest sequence that is none. -/
def decodeLossy (bytes : List UInt8) : String :=
  String.ofList (Begun.idle.read bytes)

end Utf8

end LayerAtlas
