import LayerAtlas.Classify.TokenPattern
import LayerAtlas.Passport.Vocabulary

/-!
# Rules

A rule says that a token covered by its pattern names a role, in one layer and on one side. Rules are
tried by the weight of their layer and, within one weight, longer patterns first.

Embeds the rule candidates of the Classification Engine (specification, 4.6): `compile_specs`,
`layer_weight`, `direction_admits` and `sort_by_priority`.
-/
namespace LayerAtlas

/-- A row of a rule table: a role, where it applies, and the patterns that name it. -/
structure RuleSpec where
  role : Role
  layer : Layer
  direction : Direction
  patterns : List String
  deriving DecidableEq, Repr

/-- One pattern of a row, ready to be tried. -/
structure Rule where
  role : Role
  layer : Layer
  direction : Direction
  pattern : TokenPattern
  deriving Repr

namespace Layer

/-- Rules of a layer with less weight are tried earlier; what is valid anywhere comes behind. -/
def weight : Layer → Nat
  | domain => 10
  | app => 20
  | ports => 30
  | adapters => 40
  | composition => 50
  | global => 90
  | undefined => 100

end Layer

namespace Direction

/-- Whether a rule's side suits a module's: the same, either, or none while the module's is open. -/
def admits (own rule : Direction) : Bool :=
  rule = own || rule = .any || (own = .undefined && rule = .none)

end Direction

namespace Rule

def weight (rule : Rule) : Nat := rule.layer.weight

def isMatch (rule : Rule) (token : String) : Bool :=
  rule.pattern.isMatch token

/-- Whether a rule need not stand behind another: less weight, or as much and a pattern of at least
as many bytes. -/
def goesBefore (a b : Rule) : Bool :=
  a.weight < b.weight ||
    (a.weight = b.weight &&
      b.pattern.source.utf8ByteSize ≤ a.pattern.source.utf8ByteSize)

/-- Rules in the order in which they are tried; equal ones keep their places. -/
def prioritize (rules : List Rule) : List Rule :=
  rules.mergeSort goesBefore

end Rule

namespace RuleSpec

/-- One rule for each pattern of the row. -/
def compile (dialect : PatternDialect) (spec : RuleSpec) : Except RuleError (List Rule) :=
  spec.patterns.mapM fun source => do
    .ok ⟨spec.role, spec.layer, spec.direction, ← TokenPattern.compile dialect source⟩

def compileAll (dialect : PatternDialect) (specs : List RuleSpec) : Except RuleError (List Rule) := do
  .ok (← specs.mapM (compile dialect)).flatten

end RuleSpec

end LayerAtlas
