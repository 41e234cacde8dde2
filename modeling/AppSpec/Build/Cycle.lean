import AppSpec.Build.Inventories
import AppSpec.Compilation.Pipeline

/-!
# Build cycles

A cycle compiles a project and has the generators of the requested target run, unless there is
nothing to build. When the compilation fails no generator runs and the disk stays as it is.
-/

namespace AppSpec

structure Request where
  target : Target := .all
  environment : Environment := .development
deriving DecidableEq, Repr, Inhabited

/-- What an application holds, by category and section. -/
structure Summary where
  counts : List (String × Nat)
  sections : List String
deriving DecidableEq, Repr, Inhabited

namespace Summary

def ofApplication (a : Application) : Summary := ⟨a.counts, a.configuredSections⟩

def nonEmpty (s : Summary) : List (String × Nat) :=
  s.counts.filter fun c => c.2 != 0

end Summary

/-- What a cycle did. -/
structure CycleReport where
  request : Request
  status : List Status
  diagnostics : List Diagnostic
  synthesis : Synthesis
  summary : Summary
  outcomes : List Outcome

namespace CycleReport

def succeeded (r : CycleReport) : Bool :=
  r.outcomes.all Outcome.isOk

def failed (r : CycleReport) : List Outcome :=
  r.outcomes.filter fun o => !o.isOk

end CycleReport

namespace Cycle

/-- Runs the generators on a compiled application; with no sources there is nothing to build. -/
def generate (gs : Registry) (d : Disk) (p : Project) (c : Compiled) (r : Request) :
    CycleReport × Disk :=
  let (outcomes, d) :=
    if c.sources.isEmpty then ([], d) else gs.build d p c.application r.target r.environment
  let told :=
    if c.sources.isEmpty then [⟨.generate, r.target.name, .skipped Compilation.noSources⟩]
    else outcomes.map Outcome.status
  (⟨r, c.status ++ told, c.diagnostics, c.synthesis, .ofApplication c.application, outcomes⟩, d)

def run (pipeline : Pipeline) (gs : Registry) (d : Disk) (p : Project) (r : Request) :
    Except CompilationFault CycleReport × Disk :=
  match pipeline.compile d p with
  | .error fault => (.error fault, d)
  | .ok c =>
    let (report, d) := generate gs d p c r
    (.ok report, d)

end Cycle

namespace Project

/-- One cycle with the inventory generators. -/
def build (p : Project) (d : Disk) (r : Request) : Except CompilationFault CycleReport × Disk :=
  Cycle.run {} Inventory.registry d p r

/-- A compilation that nothing follows. -/
def check (p : Project) (d : Disk) : Except CompilationFault Compiled :=
  ({} : Pipeline).compile d p

end Project

end AppSpec
