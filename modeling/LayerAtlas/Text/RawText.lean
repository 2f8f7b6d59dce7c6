import LayerAtlas.Text.Utf8

/-!
# Raw text

Text as a file system and an environment keep it: bytes which are UTF-8 by custom only. They are compared,
joined and taken apart as bytes. Where text proper is wanted they are read, exactly or for showing; what is
no UTF-8 is refused by the one reading and replaced by the other.

Embeds the names of files and the values of variables as the Source Reader, the Module Path Resolver
(specification, 4.1 and 4.3) and the configuration take them.
-/
namespace LayerAtlas

structure RawText where
  bytes : List UInt8
  deriving DecidableEq, Repr, Inhabited

namespace RawText

def ofString (text : String) : RawText :=
  ⟨text.toList.flatMap String.utf8EncodeChar⟩

instance : Coe String RawText := ⟨ofString⟩

instance : Append RawText := ⟨fun front back => ⟨front.bytes ++ back.bytes⟩⟩

/-- Raw texts in the order of their bytes. -/
instance : LT RawText := ⟨fun first second => first.bytes < second.bytes⟩

instance (first second : RawText) : Decidable (first < second) :=
  inferInstanceAs (Decidable (first.bytes < second.bytes))

def size (raw : RawText) : Nat :=
  raw.bytes.length

def slash : UInt8 := 0x2f

def dot : UInt8 := 0x2e

/-- The text as it is shown. Different raw texts can be shown alike. -/
def lossy (raw : RawText) : String :=
  Utf8.decodeLossy raw.bytes

/-- Whether the raw text is text proper, so that nothing is lost when it is shown. -/
def IsText (raw : RawText) : Prop :=
  ofString raw.lossy = raw

instance (raw : RawText) : Decidable raw.IsText :=
  inferInstanceAs (Decidable (_ = _))

/-- The text that the bytes encode, if they do. -/
def toString? (raw : RawText) : Option String :=
  if raw.IsText then some raw.lossy else none

end RawText

end LayerAtlas
