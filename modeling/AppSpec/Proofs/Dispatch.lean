import Mathlib.Data.List.Induction
import AppSpec.Proofs.Entries
import AppSpec.Proofs.GeneratorCalls

/-!
# Dispatch

After any registrations a contract has the generator that was registered for it last
(`Registry.generator?_ofList`), and a build sees nothing else of them. Every contract of a target
gets an outcome, and the calls are those of the generators that its contracts have. When the
generator of one contract is exchanged for one that leaves the same disks, the other outcomes and
calls stay (`Registry.SameBut`).
-/

namespace AppSpec

/-- The generator that was registered last for a contract. -/
def Generator.lastFor (gs : List Generator) (c : Contract) : Option Generator :=
  (gs.filter (·.contract == c)).getLast?

@[simp] theorem Outcome.contract_ofAttempt (c : Contract) (attempt : Attempt) :
    (ofAttempt c attempt).contract = c := by
  cases attempt <;> rfl

theorem Target.contracts_sublist (t : Target) : t.contracts.Sublist Contract.all := by
  cases t <;> decide

namespace Registry

/-! ## Registrations -/

/-- Where the generators of a contract are removed, those of the others stay. -/
theorem generator?_filter (r : Registry) (c c' : Contract) :
    generator? (r.filter (·.contract != c')) c = if c = c' then none else r.generator? c := by
  unfold generator?
  rw [List.find?_filter]
  by_cases h : c = c'
  · subst h
    simp
  · rw [if_neg h]
    refine congrArg (r.find? ·) (funext fun g => ?_)
    by_cases hg : g.contract = c
    · simp [hg, h]
    · simp [hg]

theorem generator?_register (r : Registry) (g : Generator) (c : Contract) :
    (r.register g).generator? c = if c = g.contract then some g else r.generator? c := by
  have happend : (r.register g).generator? c =
      (generator? (r.filter (·.contract != g.contract)) c).or (generator? [g] c) :=
    List.find?_append
  rw [happend, generator?_filter]
  by_cases h : c = g.contract
  · simp [generator?, h]
  · simp [generator?, h, Ne.symm h]

theorem generator?_ofList (gs : List Generator) :
    (ofList gs).generator? = Generator.lastFor gs := by
  funext c
  induction gs using List.reverseRecOn with
  | nil => rfl
  | append_singleton gs g ih =>
    have hregister : ofList (gs ++ [g]) = (ofList gs).register g := by simp [ofList]
    rw [hregister, generator?_register, ih]
    exact (getLast?_filter_concat Generator.contract gs g c).symm

/-! ## One run -/

variable (r : Registry) (p : Project) (a : Application) (env : Environment)

theorem contract_fulfil (d : Disk) (c : Contract) : (r.fulfil d p a env c).1.contract = c := by
  unfold fulfil
  split
  · exact Outcome.contract_ofAttempt ..
  · rfl

/-- The contracts after the first one are fulfilled on the disk that it leaves. -/
theorem fulfilAll_cons (d : Disk) (c : Contract) (cs : List Contract) :
    r.fulfilAll p a env d (c :: cs) =
      ((r.fulfil d p a env c).1 :: (r.fulfilAll p a env (r.fulfil d p a env c).2 cs).1,
        (r.fulfilAll p a env (r.fulfil d p a env c).2 cs).2) :=
  rfl

/-- The first contract makes one call or none. -/
theorem calls_cons (d : Disk) (c : Contract) (cs : List Contract) :
    r.calls p a env d (c :: cs) = (r.generator? c).toList.map (Call.mk · d p a env) ++
      r.calls p a env (r.fulfil d p a env c).2 cs := by
  rw [calls, fulfil]
  rcases r.generator? c with _ | g <;> rfl

theorem contracts_fulfilAll :
    ∀ (cs : List Contract) (d : Disk), (r.fulfilAll p a env d cs).1.map Outcome.contract = cs
  | [], _ => rfl
  | c :: cs, d => by
    rw [fulfilAll_cons, List.map_cons, contract_fulfil, contracts_fulfilAll cs]

theorem generators_calls :
    ∀ (cs : List Contract) (d : Disk),
      (r.calls p a env d cs).map Call.generator = cs.filterMap r.generator?
  | [], _ => rfl
  | c :: cs, d => by
    rw [calls_cons, List.map_append, generators_calls cs, List.map_map]
    rcases hg : r.generator? c with _ | g
    · rw [List.filterMap_cons_none hg]
      rfl
    · rw [List.filterMap_cons_some hg]
      rfl

/-- A call is given the disk that the calls before it left. -/
theorem call_eq_of_append :
    ∀ (cs : List Contract) (d : Disk) {before after : List Call} {x : Call},
      r.calls p a env d cs = before ++ x :: after →
        x = ⟨x.generator, Call.diskAfter d before, p, a, env⟩
  | [], _, before, after, x, h => by simp [calls] at h
  | c :: cs, d, before, after, x, h => by
    unfold calls at h
    rcases hg : r.generator? c with _ | g
    · rw [hg] at h
      exact call_eq_of_append cs d h
    · rw [hg] at h
      rcases before with _ | ⟨y, before⟩
      · injection h with hx
        rw [← hx]
        rfl
      · injection h with hy hrest
        rw [call_eq_of_append cs _ hrest, ← hy]
        rfl

end Registry

/-- What becomes of a contract that has this generator, or none, where these calls are made. -/
def Outcome.Due (o : Outcome) (calls : List Call) : Option Generator → Prop
  | some g => ∃ x ∈ calls, x.generator = g ∧ o = .ofAttempt o.contract x.result.1
  | none => o.result = .error (.unregistered o.contract)

theorem Outcome.Due.mono {o : Outcome} {l l' : List Call} {g : Option Generator}
    (h : o.Due l g) (hl : l ⊆ l') : o.Due l' g := by
  rcases g with _ | g
  · exact h
  · obtain ⟨x, hx, hgenerator⟩ := h
    exact ⟨x, hl hx, hgenerator⟩

namespace Registry

variable (r : Registry) (p : Project) (a : Application) (env : Environment)

theorem due_of_mem_fulfilAll :
    ∀ (cs : List Contract) (d : Disk), ∀ o ∈ (r.fulfilAll p a env d cs).1,
      o.Due (r.calls p a env d cs) (r.generator? o.contract)
  | [], _, _, h => nomatch h
  | c :: cs, d, o, h => by
    rw [calls_cons]
    rw [fulfilAll_cons] at h
    rcases List.mem_cons.mp h with hfirst | hrest
    · have hcontract : o.contract = c := by rw [hfirst, contract_fulfil]
      rw [hcontract, hfirst, fulfil]
      rcases r.generator? c with _ | g
      · rfl
      · exact ⟨⟨g, d, p, a, env⟩, List.mem_cons_self, rfl, by simp [Call.result]⟩
    · exact (due_of_mem_fulfilAll cs _ o hrest).mono (List.subset_append_right ..)

/-! ## Two runs -/

variable {r p a env} {r' : Registry}

theorem filter_calls {c k : Contract} {d : Disk} (hk : k = c) :
    ((r.generator? k).toList.map (Call.mk · d p a env)).filter (·.generator.contract != c) = [] := by
  rcases hg : r.generator? k with _ | g
  · rfl
  · simp [contract_of_generator? hg, hk]

theorem fulfilAll_congr (h : r'.generator? = r.generator?) :
    ∀ (cs : List Contract) (d : Disk), r'.fulfilAll p a env d cs = r.fulfilAll p a env d cs ∧
      r'.calls p a env d cs = r.calls p a env d cs
  | [], _ => ⟨rfl, rfl⟩
  | c :: cs, d => by
    have hfirst : r'.fulfil d p a env c = r.fulfil d p a env c := by rw [fulfil, fulfil, h]
    obtain ⟨hrest, hcalls⟩ := fulfilAll_congr h cs (r.fulfil d p a env c).2
    rw [fulfilAll_cons, fulfilAll_cons, calls_cons, calls_cons, hfirst, hrest, hcalls, h]
    exact ⟨rfl, rfl⟩

/-- Registries that differ at one contract at most, and there in no disk that is left. -/
structure SameBut (c : Contract) (p : Project) (a : Application) (env : Environment)
    (r r' : Registry) : Prop where
  others : ∀ k, k ≠ c → r'.generator? k = r.generator? k
  disks : ∀ d, (r'.fulfil d p a env c).2 = (r.fulfil d p a env c).2

namespace SameBut

variable {c : Contract}

theorem fulfil_of_ne (h : SameBut c p a env r r') {k : Contract} (hk : k ≠ c) (d : Disk) :
    r'.fulfil d p a env k = r.fulfil d p a env k := by
  rw [fulfil, fulfil, h.others k hk]

theorem disk_fulfil (h : SameBut c p a env r r') (k : Contract) (d : Disk) :
    (r'.fulfil d p a env k).2 = (r.fulfil d p a env k).2 := by
  by_cases hk : k = c
  · rw [hk, h.disks]
  · rw [h.fulfil_of_ne hk]

theorem fulfilAll (h : SameBut c p a env r r') :
    ∀ (cs : List Contract) (d : Disk),
      (r'.fulfilAll p a env d cs).2 = (r.fulfilAll p a env d cs).2 ∧
      (r'.fulfilAll p a env d cs).1.filter (·.contract != c) =
        (r.fulfilAll p a env d cs).1.filter (·.contract != c) ∧
      (r'.calls p a env d cs).filter (·.generator.contract != c) =
        (r.calls p a env d cs).filter (·.generator.contract != c)
  | [], _ => ⟨rfl, rfl, rfl⟩
  | k :: cs, d => by
    obtain ⟨hdisk, houtcomes, hcalls⟩ := fulfilAll h cs (r.fulfil d p a env k).2
    rw [fulfilAll_cons, fulfilAll_cons, calls_cons, calls_cons, h.disk_fulfil]
    rw [List.filter_append, List.filter_append, hcalls]
    refine ⟨hdisk, ?_, ?_⟩
    · by_cases hk : k = c
      · rw [List.filter_cons_of_neg (by simp [contract_fulfil, hk]),
          List.filter_cons_of_neg (by simp [contract_fulfil, hk]), houtcomes]
      · rw [h.fulfil_of_ne hk, List.filter_cons, List.filter_cons, houtcomes]
    · by_cases hk : k = c
      · rw [filter_calls hk, filter_calls hk]
      · rw [h.others k hk]

end SameBut

/-- After any registrations, of whatever generators, a build has one outcome for each contract of
its target, in order, and calls the generators that were registered last for them, each once. A call
is given the project, the application, the environment and the disk that the calls before it left;
its result, be it a crash, is the outcome of its contract alone, and a contract without a generator
has a fault as its outcome. What is registered otherwise for a contract shows nowhere but in its own
outcome, as long as the same disks are left. The order of registrations for different contracts
changes nothing. -/
theorem build_ofList (gs : List Generator) (d : Disk) (p : Project) (a : Application) (t : Target)
    (env : Environment) :
    let built := (ofList gs).build d p a t env
    let called := (ofList gs).calls p a env d t.contracts
    built.1.map Outcome.contract = t.contracts ∧ t.contracts.Sublist Contract.all ∧
      called.map Call.generator = t.contracts.filterMap (Generator.lastFor gs) ∧
      (called.map (·.generator.contract)).Sublist t.contracts ∧
      (∀ before x after, called = before ++ x :: after →
        x = ⟨x.generator, Call.diskAfter d before, p, a, env⟩) ∧
      (∀ o ∈ built.1, o.Due called (Generator.lastFor gs o.contract)) ∧
      built.2 = Call.diskAfter d called ∧
      (∀ c gs', SameBut c p a env (ofList gs) (ofList gs') →
        let built' := (ofList gs').build d p a t env
        let called' := (ofList gs').calls p a env d t.contracts
        built'.2 = built.2 ∧
          built'.1.filter (·.contract != c) = built.1.filter (·.contract != c) ∧
          called'.filter (·.generator.contract != c) =
            called.filter (·.generator.contract != c)) ∧
      ∀ gs', (∀ c, gs'.filter (·.contract == c) = gs.filter (·.contract == c)) →
        (ofList gs').build d p a t env = built ∧
          (ofList gs').calls p a env d t.contracts = called := by
  intro built called
  refine ⟨contracts_fulfilAll .., t.contracts_sublist, ?_, ?_, ?_, ?_, disk_fulfilAll .., ?_, ?_⟩
  · rw [← generator?_ofList]
    exact generators_calls ..
  · rw [contracts_calls]
    exact List.filter_sublist
  · intro before x after h
    exact call_eq_of_append _ p a env _ d h
  · rw [← generator?_ofList]
    exact due_of_mem_fulfilAll _ p a env _ d
  · exact fun c gs' h => h.fulfilAll t.contracts d
  · intro gs' h
    have hlast : (ofList gs').generator? = (ofList gs).generator? := by
      rw [generator?_ofList, generator?_ofList]
      funext c
      rw [Generator.lastFor, Generator.lastFor, h]
    exact fulfilAll_congr hlast t.contracts d

/-- A generator that crashes does not keep the next one from being called. -/
example (p : Project) (a : Application) (env : Environment) :
    let gs : List Generator :=
      [⟨.mobileAndroid, fun d _ _ _ => (.done {}, d)⟩, ⟨.mobileIos, fun d _ _ _ => (.done {}, d)⟩,
        ⟨.mobileIos, fun d _ _ _ => (.crashed none, d)⟩]
    ((ofList gs).build {} p a .mobile env).1.map Outcome.isOk = [false, true] :=
  rfl

end Registry

end AppSpec
