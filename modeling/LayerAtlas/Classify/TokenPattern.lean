import LayerAtlas.Pattern.Parser
import LayerAtlas.Text.Quoted

/-!
# Patterns for tokens

Rules and markers are given by patterns that are meant to cover a whole token, whatever its case. The
text of a pattern is set between anchors before it is read, so a text whose parentheses only balance
together with the anchors' own is a pattern too.

Embeds `compile_anchored` of the rule registry and `matches` of a rule candidate (specification, 4.6).
-/
namespace LayerAtlas

/-- Why a table of rules or markers cannot be used. -/
inductive RuleError where
  | invalidPattern (pattern reason : String)
  deriving DecidableEq, Repr

namespace RuleError

def message : RuleError → String
  | invalidPattern pattern reason => "Invalid rule pattern " ++ quoted pattern ++ ": " ++ reason

end RuleError

/-- A pattern as it was written, ready to be tried against tokens. -/
structure TokenPattern where
  source : String
  regex : Regex
  deriving Repr

namespace TokenPattern

/-- The text between anchors, in a group of its own, to be read without regard to case. -/
def anchored (source : String) : List Char :=
  "(?i)^(?:".toList ++ source.toList ++ ")$".toList

def compile (dialect : PatternDialect) (source : String) : Except RuleError TokenPattern :=
  match Regex.parse dialect (anchored source) with
  | .ok regex => .ok ⟨source, regex⟩
  | .error fault => .error (.invalidPattern source fault.message)

def isMatch (pattern : TokenPattern) (token : String) : Bool :=
  pattern.regex.isMatch token

end TokenPattern

end LayerAtlas
