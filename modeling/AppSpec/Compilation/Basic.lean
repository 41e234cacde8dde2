import AppSpec.Application.DefaultPage
import AppSpec.Application.Merge
import AppSpec.Compilation.Discovery
import AppSpec.Project.Basic
import AppSpec.Report.Diagnostic
import AppSpec.Report.Status
import AppSpec.SpecError

/-!
# Compilations

A compilation is what has been found out about a project so far. It ends in an application unless a
specification file is bad or something took the application away.
-/

namespace AppSpec

structure Compilation where
  project : Project
  sources : List Source := []
  documents : List Document := []
  /-- One error for each bad specification file. -/
  errors : List SpecError := []
  application : Option Application := none
  conflicts : List Conflict := []
  synthesis : Option Synthesis := none
  diagnostics : List Diagnostic := []
  status : List Status := []

/-- Why a compilation has no result. -/
inductive CompilationFault where
  | badFiles (errors : List SpecError) (status : List Status) (diagnostics : List Diagnostic)
  | stopped (reason : String)
  | noApplication

/-- The result of a compilation. -/
structure Compiled where
  application : Application
  sources : List Source
  conflicts : List Conflict
  synthesis : Synthesis
  diagnostics : List Diagnostic
  status : List Status

namespace CompilationFault

def text : CompilationFault → String
  | .badFiles errors _ _ =>
    toString errors.length ++ " specification file(s) failed to parse; generation skipped"
  | .stopped reason => "build cycle failed: " ++ reason
  | .noApplication => "build cycle failed: IR not set - did MergePhase run?"

/-- The status lines from before the compilation ended. -/
def status : CompilationFault → List Status
  | .badFiles _ status _ => status
  | .stopped _ | .noApplication => []

def diagnostics : CompilationFault → List Diagnostic
  | .badFiles _ _ diagnostics => diagnostics
  | .stopped _ | .noApplication => []

def errors : CompilationFault → List SpecError
  | .badFiles errors _ _ => errors
  | .stopped _ | .noApplication => []

end CompilationFault

namespace Compilation

def ofProject (p : Project) : Compilation := { project := p }

def report (c : Compilation) (s : Status) : Compilation :=
  { c with status := c.status ++ [s] }

def note (c : Compilation) (d : Diagnostic) : Compilation :=
  { c with diagnostics := c.diagnostics ++ [d] }

def displayed (c : Compilation) (path : String) : String :=
  FilePath.display path c.project.root

def count (c : Compilation) (severity : Severity) : Nat :=
  c.diagnostics.countP fun d => d.severity == severity

/-- The result, if no file was bad and there is an application. -/
def finish (c : Compilation) : Except CompilationFault Compiled :=
  if c.errors.isEmpty then
    match c.application with
    | some a => .ok ⟨a, c.sources, c.conflicts, c.synthesis.getD {}, c.diagnostics, c.status⟩
    | none => .error .noApplication
  else .error (.badFiles c.errors c.status c.diagnostics)

end Compilation

end AppSpec
