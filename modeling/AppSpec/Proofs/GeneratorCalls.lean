import AppSpec.Build.Cycle

/-!
# Calls of generators

The calls of generators that a cycle makes (`Cycle.calls`), each on the disk that the one before it
left. The disk that a cycle leaves is the one that the last call left (`Cycle.disk_run`), and the
calls are one for each contract that has a generator (`Registry.contracts_calls`). A compilation
that fails ends the cycle before any call (`Cycle.run_of_fault`).
-/

namespace AppSpec

/-- A call of a generator with what it is given. -/
structure Call where
  generator : Generator
  disk : Disk
  project : Project
  application : Application
  environment : Environment

def Call.result (x : Call) : Attempt × Disk :=
  x.generator.run x.disk x.project x.application x.environment

/-- The disk after calls that begin on a disk. -/
def Call.diskAfter (d : Disk) (l : List Call) : Disk :=
  l.foldl (fun _ x => x.result.2) d

namespace Registry

theorem contract_of_generator? {r : Registry} {c : Contract} {g : Generator}
    (h : r.generator? c = some g) : g.contract = c := by
  simpa using List.find?_some h

variable (r : Registry) (p : Project) (a : Application) (env : Environment)

/-- The calls that fulfil contracts. A contract without a generator has none. -/
def calls : Disk → List Contract → List Call
  | _, [] => []
  | d, c :: rest =>
    match r.generator? c with
    | some g => ⟨g, d, p, a, env⟩ :: calls (g.run d p a env).2 rest
    | none => calls d rest

theorem disk_fulfilAll :
    ∀ (cs : List Contract) (d : Disk),
      (r.fulfilAll p a env d cs).2 = Call.diskAfter d (r.calls p a env d cs)
  | [], _ => rfl
  | c :: cs, d => by
    unfold fulfilAll fulfil calls
    rcases r.generator? c with _ | g
    · exact disk_fulfilAll cs d
    · exact disk_fulfilAll cs (g.run d p a env).2

/-- Each contract that has a generator is called for once, in order. -/
theorem contracts_calls :
    ∀ (cs : List Contract) (d : Disk), (r.calls p a env d cs).map (·.generator.contract) =
      cs.filter fun c => (r.generator? c).isSome
  | [], _ => rfl
  | c :: cs, d => by
    unfold calls
    rcases hg : r.generator? c with _ | g
    · rw [List.filter_cons_of_neg (by simp [hg])]
      exact contracts_calls cs d
    · rw [List.filter_cons_of_pos (by simp [hg]), List.map_cons, contracts_calls cs]
      rw [contract_of_generator? hg]

end Registry

namespace Cycle

variable (pl : Pipeline) (gs : Registry) (d : Disk) (p : Project) (r : Request)

/-- The calls of generators that a cycle makes. -/
def calls : List Call :=
  match pl.compile d p with
  | .error _ => []
  | .ok c =>
    if c.sources.isEmpty then []
    else gs.calls p c.application r.environment d r.target.contracts

theorem disk_run : (run pl gs d p r).2 = Call.diskAfter d (calls pl gs d p r) := by
  unfold run calls generate
  rcases pl.compile d p with fault | c
  · rfl
  · simp only
    split
    · rfl
    · exact gs.disk_fulfilAll p c.application r.environment _ d

variable {pl d p}

theorem run_of_fault {fault : CompilationFault} (h : pl.compile d p = .error fault) :
    run pl gs d p r = (.error fault, d) ∧ calls pl gs d p r = [] := by
  unfold run calls
  rw [h]
  exact ⟨rfl, rfl⟩

theorem run_of_compiled {c : Compiled} (h : pl.compile d p = .ok c) :
    (∃ report, (run pl gs d p r).1 = .ok report) ∧
      (c.sources ≠ [] → (calls pl gs d p r).map (·.generator.contract) =
        r.target.contracts.filter fun k => (gs.generator? k).isSome) := by
  refine ⟨⟨(generate gs d p c r).1, ?_⟩, ?_⟩
  · simp only [run, h]
  · intro hsources
    have hempty : c.sources.isEmpty = false := by simpa using hsources
    simp only [calls, h, hempty]
    exact gs.contracts_calls p c.application r.environment _ d

end Cycle

end AppSpec
