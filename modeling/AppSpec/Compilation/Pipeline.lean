import AppSpec.Compilation.Stages

/-!
# Pipelines

A pipeline runs the built-in phases and then phases of its own. Plugins are called before and after
each phase, in the order in which they were added. The first failure of a plugin or of a phase ends the
run; the steps taken until then are kept.
-/

namespace AppSpec

/-- What a plugin or an added phase may do to a compilation. -/
inductive Effect where
  | tell (severity : Severity) (message : String)
  | dropApplication
  | fail (reason : String)
  /-- Looks at the compilation, and changes it or fails. -/
  | revise (f : Compilation → Except String Compilation)
deriving Inhabited

abbrev Action := List Effect

structure Plugin where
  name : String
  /-- What is done before a phase, by the name of the phase. -/
  before : String → Action := fun _ => []
  after : String → Action := fun _ => []

inductive Phase where
  | builtin (phase : BuiltinPhase)
  | added (name : String) (action : Action)
deriving Inhabited

def Phase.name : Phase → String
  | .builtin phase => phase.name
  | .added name _ => name

structure Pipeline where
  plugins : List Plugin := []
  /-- The phases that follow the built-in ones. -/
  added : List (String × Action) := []

/-- One step of a run: a call of a plugin, or a phase. -/
inductive Step where
  | before (plugin phase : String)
  | phase (name : String)
  | after (plugin phase : String)
deriving DecidableEq, Repr, Inhabited

/-- A run so far: the steps taken, and the compilation unless a step failed. -/
structure Run where
  taken : List Step
  state : Except String Compilation

namespace Effect

def apply (phase : String) (c : Compilation) : Effect → Except String Compilation
  | .tell severity message => .ok (c.note ⟨severity, phase, message, none⟩)
  | .dropApplication => .ok { c with application := none }
  | .fail reason => .error reason
  | .revise f => f c

end Effect

def Action.apply (a : Action) (phase : String) (c : Compilation) : Except String Compilation :=
  a.foldlM (Effect.apply phase) c

namespace Run

/-- Takes a step unless an earlier one failed. -/
def take (r : Run) (s : Step) (f : Compilation → Except String Compilation) : Run :=
  match r.state with
  | .error _ => r
  | .ok c => ⟨r.taken ++ [s], f c⟩

end Run

namespace Pipeline

def phases (p : Pipeline) : List Phase :=
  BuiltinPhase.all.map .builtin ++ p.added.map fun e => .added e.1 e.2

def runPhase (d : Disk) (c : Compilation) : Phase → Except String Compilation
  | .builtin phase => c.runBuiltin d phase
  | .added name action => action.apply name c

/-- Runs one phase between the calls of the plugins. -/
def surround (p : Pipeline) (d : Disk) (r : Run) (phase : Phase) : Run :=
  let r := p.plugins.foldl
    (fun r q => r.take (.before q.name phase.name) ((q.before phase.name).apply phase.name)) r
  let r := r.take (.phase phase.name) fun c => runPhase d c phase
  p.plugins.foldl
    (fun r q => r.take (.after q.name phase.name) ((q.after phase.name).apply phase.name)) r

def run (p : Pipeline) (d : Disk) (project : Project) : Run :=
  p.phases.foldl (p.surround d) ⟨[], .ok (.ofProject project)⟩

/-- Runs the pipeline to its result. -/
def compile (p : Pipeline) (d : Disk) (project : Project) : Except CompilationFault Compiled :=
  match (p.run d project).state with
  | .error reason => .error (.stopped reason)
  | .ok c => c.finish

end Pipeline

end AppSpec
