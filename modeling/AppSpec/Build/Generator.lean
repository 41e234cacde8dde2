import AppSpec.Application.Basic
import AppSpec.Disk.Basic
import AppSpec.Project.Basic
import AppSpec.Report.Status
import AppSpec.Target

/-!
# Generators

A generator fulfils one contract. A target has the generators of its contracts run in order, each
once; what becomes of one does not touch the others. Registering a generator replaces an earlier one
of its contract.
-/

namespace AppSpec

/-- The files that a generator wrote or found as they should be. -/
structure Generated where
  written : List String := []
  unchanged : List String := []
deriving DecidableEq, Repr, Inhabited

/-- How a call of a generator ends. -/
inductive Attempt where
  | done (files : Generated)
  | failed (reason : String)
  | crashed (message : Option String)
deriving DecidableEq, Repr, Inhabited

/-- What is told of a crash. -/
def crashText (message : Option String) : String :=
  message.getD "unknown panic"

structure Generator where
  contract : Contract
  run : Disk → Project → Application → Environment → Attempt × Disk

/-- Why a contract was not fulfilled. -/
inductive GeneratorFault where
  | failed (reason : String)
  | crashed (message : Option String)
  | unregistered (contract : Contract)
deriving DecidableEq, Repr, Inhabited

def GeneratorFault.text : GeneratorFault → String
  | .failed reason => reason
  | .crashed message => "generator panicked: " ++ crashText message
  | .unregistered c => "no generator registered for " ++ c.name

/-- What became of a contract. -/
structure Outcome where
  contract : Contract
  result : Except GeneratorFault Generated

namespace Outcome

def isOk (o : Outcome) : Bool :=
  match o.result with
  | .ok _ => true
  | .error _ => false

def fault? (o : Outcome) : Option GeneratorFault :=
  match o.result with
  | .ok _ => none
  | .error f => some f

def ofAttempt (c : Contract) : Attempt → Outcome
  | .done files => ⟨c, .ok files⟩
  | .failed reason => ⟨c, .error (.failed reason)⟩
  | .crashed message => ⟨c, .error (.crashed message)⟩

def status (o : Outcome) : Status :=
  ⟨.generate, o.contract.name,
    match o.result with
    | .ok _ => .ok
    | .error f => .failed f.text⟩

end Outcome

/-- Generators, at most one for each contract. -/
abbrev Registry := List Generator

namespace Registry

def register (r : Registry) (g : Generator) : Registry :=
  r.filter (fun h => h.contract != g.contract) ++ [g]

def ofList (gs : List Generator) : Registry :=
  gs.foldl register []

def generator? (r : Registry) (c : Contract) : Option Generator :=
  r.find? fun g => g.contract == c

/-- Fulfils one contract. -/
def fulfil (r : Registry) (d : Disk) (p : Project) (a : Application) (env : Environment)
    (c : Contract) : Outcome × Disk :=
  match r.generator? c with
  | some g =>
    let (attempt, d) := g.run d p a env
    (.ofAttempt c attempt, d)
  | none => (⟨c, .error (.unregistered c)⟩, d)

def fulfilAll (r : Registry) (p : Project) (a : Application) (env : Environment) :
    Disk → List Contract → List Outcome × Disk
  | d, [] => ([], d)
  | d, c :: rest =>
    let (outcome, d) := r.fulfil d p a env c
    let (outcomes, d) := fulfilAll r p a env d rest
    (outcome :: outcomes, d)

/-- Fulfils the contracts of a target, in order. -/
def build (r : Registry) (d : Disk) (p : Project) (a : Application) (t : Target)
    (env : Environment) : List Outcome × Disk :=
  r.fulfilAll p a env d t.contracts

end Registry

end AppSpec
