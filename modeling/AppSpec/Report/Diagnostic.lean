import AppSpec.Application.Merge

/-!
# Diagnostics

Messages about a project that a phase leaves behind.
-/

namespace AppSpec

inductive Severity where
  | error
  | warning
  | info
deriving DecidableEq, Repr, Inhabited

namespace Severity

def all : List Severity := [.error, .warning, .info]

def name : Severity → String
  | .error => "error"
  | .warning => "warning"
  | .info => "info"

def ofName? (s : String) : Option Severity :=
  all.find? fun severity => severity.name == s

end Severity

structure Diagnostic where
  severity : Severity
  /-- The phase that left the message. -/
  phase : String
  message : String
  location : Option String := none
deriving DecidableEq, Repr, Inhabited

namespace Diagnostic

def text (d : Diagnostic) : String :=
  d.severity.name ++ ": " ++ d.message ++
    match d.location with
    | some place => " (at " ++ place ++ ")"
    | none => ""

/-- A redefinition is expected, so it is only told. -/
def ofConflict (c : Conflict) : Diagnostic :=
  { severity := .info, phase := "merge", message := c.text }

def toValue (d : Diagnostic) : Value :=
  Record.toValue
    [("severity", .string d.severity.name), ("phase", .string d.phase),
      ("message", .string d.message), ("location", (d.location.map .string).getD .null)]

end Diagnostic

end AppSpec
