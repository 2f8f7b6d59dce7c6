/-!
# Closed vocabularies

An enumeration whose members have names: each member is listed once, and a name is read back by
looking it up in the list.
-/
namespace LayerAtlas

/-- The members of an enumeration in order of declaration, with their written names. -/
class Naming (α : Type) where
  all : List α
  name : α → String

namespace Naming

variable {α : Type} [Naming α]

/-- The member with exactly this name. -/
def ofName? (text : String) : Option α :=
  all.find? fun member => name member = text

theorem name_of_ofName? {text : String} {member : α} (h : ofName? text = some member) :
    name member = text := by
  simpa using List.find?_some h

end Naming

end LayerAtlas
