import LayerAtlas.Text.Naming

/-!
# Violations

Breaches of layer isolation between two modules, and the report of one run over them.

Embeds the violation and the lint report of the data model (specification, 3): `from_violations` and
`count_by_severity`.
-/
namespace LayerAtlas

inductive Severity where
  | info | warning | error
  deriving DecidableEq, Repr

instance : Naming Severity where
  all := [.info, .warning, .error]
  name
    | .info => "info"
    | .warning => "warning"
    | .error => "error"

/-- One rule broken between an importing and an imported module. -/
structure Violation where
  rule : String
  message : String
  source : String
  target : String
  severity : Severity
  targetContext : Option String
  deriving DecidableEq, Repr

structure LintReport where
  violations : List Violation
  scanned : Nat
  success : Bool
  deriving DecidableEq, Repr

namespace LintReport

/-- The report of a run, which succeeds when no violation is an error. -/
def ofViolations (violations : List Violation) (scanned : Nat) : LintReport :=
  ⟨violations, scanned, violations.all fun violation => violation.severity ≠ .error⟩

def count (report : LintReport) (severity : Severity) : Nat :=
  report.violations.countP fun violation => violation.severity = severity

end LintReport

end LayerAtlas
