import LayerAtlas.Text.CharTable

/-!
# White space

The 25 characters with the Unicode property `White_Space`, and texts without them at their ends or
anywhere.
-/
namespace LayerAtlas

/-- The Unicode property `White_Space`. -/
def blankTable : CharTable :=
  [(0x09, 0x0d), (0x20, 0x20), (0x85, 0x85), (0xa0, 0xa0), (0x1680, 0x1680), (0x2000, 0x200a),
    (0x2028, 0x2029), (0x202f, 0x202f), (0x205f, 0x205f), (0x3000, 0x3000)]

def isBlank (c : Char) : Bool :=
  blankTable.contains c

/-- The text without blanks at either end. -/
def trimBlank (text : String) : String :=
  let front := text.toList.dropWhile isBlank
  String.ofList (front.reverse.dropWhile isBlank).reverse

/-- The text without any blank. -/
def dropBlanks (text : String) : String :=
  String.ofList (text.toList.filter fun c => !isBlank c)

def allBlank (text : String) : Bool :=
  text.toList.all isBlank

/-- Upper-case ASCII letters made lower-case, all else kept. -/
def asciiLower (text : String) : String :=
  String.ofList (text.toList.map Char.toLower)

end LayerAtlas
