import LayerAtlas.Passport.Vocabulary

/-!
# Passports

The architectural coordinates of one module: where it sits, which layer and side it belongs to, its
role, and how the role was found.

Embeds the component passport of the data model (specification, 3): `unresolved` and `is_resolved`.
-/
namespace LayerAtlas

structure Passport where
  scope : Scope
  context : String
  /-- Dotted names of the folders between the source root and the context. -/
  zone : Option String
  layer : Layer
  direction : Direction
  role : Role
  method : MatchMethod
  /-- The layer of the rule that named the role; `global` for a rule valid in any layer. -/
  ruleLayer : Option Layer
  deriving DecidableEq, Repr

namespace Passport

/-- The passport of a file that cannot be placed at all. -/
def unresolved : Passport where
  scope := .context
  context := ""
  zone := none
  layer := .undefined
  direction := .undefined
  role := .unknown
  method := .unknown
  ruleLayer := none

def isResolved (passport : Passport) : Bool :=
  passport.role.isKnown

end Passport

end LayerAtlas
