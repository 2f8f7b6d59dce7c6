import LayerAtlas.Classify.TokenPattern
import LayerAtlas.Config.Basic
import LayerAtlas.Graph.Node

/-!
# Errors of a run

What can stop a run at each of its stages, with a stable code for each kind of error, and results
that carry the errors which did not stop it.

Embeds the errors of each stage with their codes and texts, and the pipeline result (specification, 7 and 11).
-/
namespace LayerAtlas

/-- Why a source tree cannot be scanned. A file that cannot be read is no such error. -/
inductive ScanError where
  | rootNotFound (path : Path)
  | unreadable (path : Path) (cause : String)
  deriving DecidableEq, Repr

namespace ScanError

def message : ScanError → String
  | rootNotFound path => "Scan root does not exist: " ++ path.display
  | unreadable path cause => "IO error scanning " ++ path.display ++ ": " ++ cause

def code : String := "SCAN_ERROR"

end ScanError

/-- Why a source file yields no imports. -/
inductive ParseError where
  | invalidText (path : Path) (line : Nat) (reason : String)
  | noGrammar (reason : String)
  | unsupportedFile (path : Path)
  deriving DecidableEq, Repr

namespace ParseError

def message : ParseError → String
  | invalidText path line reason =>
    "Syntax error in " ++ path.display ++ " at line " ++ toString line ++ ": " ++ reason
  | noGrammar reason => "Grammar unavailable: " ++ reason
  | unsupportedFile path => "Unsupported file: " ++ path.display

def code : ParseError → String
  | invalidText .. => "SYNTAX_ERROR"
  | noGrammar _ | unsupportedFile _ => "PARSE_ERROR"

/-- The file that is at fault. -/
def path? : ParseError → Option Path
  | invalidText path _ _ | unsupportedFile path => some path
  | noGrammar _ => none

end ParseError

def LifecycleError.code : String := "GRAPH_ERROR"

def RuleError.code : String := "CLASSIFICATION_ERROR"

def ConfigError.code : String := "CONFIG_ERROR"

/-- An error of any stage. -/
inductive RunError where
  | scan (error : ScanError)
  | parse (error : ParseError)
  | graph (error : LifecycleError)
  | classification (error : RuleError)
  | config (error : ConfigError)
  deriving DecidableEq, Repr

namespace RunError

def code : RunError → String
  | scan _ => ScanError.code
  | parse error => error.code
  | graph _ => LifecycleError.code
  | classification _ => RuleError.code
  | config _ => ConfigError.code

/-- The message of the stage's own error. -/
def innerMessage : RunError → String
  | scan error => error.message
  | parse error => error.message
  | graph error => error.message
  | classification error => error.message
  | config error => error.message

/-- The stage in front of its error's message. -/
def message (error : RunError) : String :=
  let stage :=
    match error with
    | scan _ => "Scan"
    | parse _ => "Parse"
    | graph _ => "Graph"
    | classification _ => "Classification"
    | config _ => "Configuration"
  stage ++ " error: " ++ error.innerMessage

/-- A message with its code in front. -/
def coded (code message : String) : String :=
  "[" ++ code ++ "] " ++ message

def path? : RunError → Option Path
  | parse error => error.path?
  | _ => none

end RunError

/-- A result with the errors that were met on the way and did not prevent it. -/
structure Recorded (α : Type) where
  data : α
  errors : List RunError

namespace Recorded

variable {α β : Type}

def clean (data : α) : Recorded α := ⟨data, []⟩

def record (result : Recorded α) (error : RunError) : Recorded α :=
  { result with errors := result.errors ++ [error] }

def isClean (result : Recorded α) : Bool :=
  result.errors.isEmpty

/-- Another result with the same errors. -/
def map (f : α → β) (result : Recorded α) : Recorded β :=
  ⟨f result.data, result.errors⟩

end Recorded

end LayerAtlas
