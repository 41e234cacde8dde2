import Mathlib.Data.List.Chain
import AppSpec.Proofs.Debounce

/-!
# A scheduler in use

A scheduler may be used in any order: offered changes, told to run a build, settled, or triggered,
which is all of these at once. Each use does one of few things (`Use.perform_offer`,
`Use.perform_trigger`); what the uses so far say about the scheduler is kept by the next one
(`Used.sound_run`), so that accepted changes are a window apart whatever is done in between
(`safety_of_uses`).
-/

namespace AppSpec.Watch

/-- A use of a scheduler. A build is given what the builds before it left behind. -/
inductive Use (σ : Type) where
  | offer (time : Nat)
  | run (build : σ → Build × σ)
  | settle
  | trigger (time : Nat) (build : σ → Build × σ)

/-- What a use of a scheduler is answered with. -/
inductive Answer where
  | offered (accepted : Bool)
  | ran (ending : CycleEnd)
  | settled
  | triggered (ending : Option CycleEnd)
deriving DecidableEq, Repr

namespace Answer

/-- A change was offered and dropped. -/
def isRejection : Answer → Bool
  | .offered accepted => !accepted
  | .triggered ending => ending.isNone
  | .ran _ | .settled => false

/-- How the build ended that was run, if one was. -/
def ending? : Answer → Option CycleEnd
  | .ran ending => some ending
  | .triggered ending => ending
  | .offered _ | .settled => none

end Answer

section Uses

variable {σ : Type}

namespace Use

/-- The answer, and the scheduler and what the builds left behind afterwards. -/
def perform (s : Scheduler) (state : σ) : Use σ → Answer × Scheduler × σ
  | .offer time =>
    let (accepted, s) := s.offer time
    (.offered accepted, s, state)
  | .run build =>
    let (b, state) := build state
    let (ending, s) := s.run b
    (.ran ending, s, state)
  | .settle => (.settled, s.settle, state)
  | .trigger time build =>
    match s.offer time with
    | (false, s) => (.triggered none, s, state)
    | (true, s) =>
      let (b, state) := build state
      let (ending, s) := s.run b
      (.triggered (some ending), s.settle, state)

/-- The time of the change that was accepted, if one was. -/
def acceptedAt? : Use σ × Answer → Option Nat
  | (.offer time, answer) | (.trigger time _, answer) =>
    if answer.isRejection then none else some time
  | (.run _, _) | (.settle, _) => none

/-- The build that was run, if one was. -/
def build? : Use σ × Answer → Option (σ → Build × σ)
  | (.run build, _) => some build
  | (.trigger _ build, answer) => if answer.isRejection then none else some build
  | (.offer _, _) | (.settle, _) => none

/-- An offered change is taken as the last one or changes nothing. -/
theorem perform_offer (s : Scheduler) (state : σ) (time : Nat) :
    (Use.offer time).perform s state =
      if s.accepts time then (.offered true, { s with last := some time }, state)
      else (.offered false, s, state) := by
  rcases h : s.accepts time with _ | _ <;> simp [perform, Scheduler.offer, h]

theorem perform_run (s : Scheduler) (state : σ) (build : σ → Build × σ) :
    (Use.run build).perform s state =
      (.ran (.ofBuild (build state).1), s.finish (.ofBuild (build state).1), (build state).2) :=
  rfl

/-- Settling ends a cooldown and changes nothing else. -/
theorem perform_settle (s : Scheduler) (state : σ) : Use.settle.perform s state =
    (.settled, { s with state := if s.state = .cooldown then .idle else s.state }, state) := by
  simp only [perform, Scheduler.settle]
  split <;> rfl

/-- A trigger is a whole cycle or changes nothing. -/
theorem perform_trigger (s : Scheduler) (state : σ) (time : Nat) (build : σ → Build × σ) :
    (Use.trigger time build).perform s state =
      if s.accepts time then
        (.triggered (some (.ofBuild (build state).1)),
          { s.finish (.ofBuild (build state).1) with state := .idle, last := some time },
          (build state).2)
      else (.triggered none, s, state) := by
  rcases h : s.accepts time with _ | _
  · simp [perform, Scheduler.offer, h]
  · simp [perform, Scheduler.offer, h, Scheduler.run, Scheduler.finish, Scheduler.settle]

/-- A trigger is told how its build ends only when the build is run. -/
theorem perform_trigger_eq (s : Scheduler) (state : σ) (time : Nat) (build : σ → Build × σ) :
    (Use.trigger time build).perform s state =
      let (ending, s') := s.trigger time (build state).1
      (.triggered ending, s', if ending.isSome then (build state).2 else state) := by
  rcases h : s.accepts time with _ | _ <;> simp [perform, Scheduler.trigger, Scheduler.offer, h]

/-- A change that is not accepted leaves everything as it is. -/
theorem perform_of_isRejection {s : Scheduler} {state : σ} {c : Use σ}
    (h : (c.perform s state).1.isRejection = true) : (c.perform s state).2 = (s, state) := by
  cases c with
  | offer time =>
    rw [perform_offer] at h ⊢
    split at h
    · cases h
    · rename_i hno
      rw [if_neg hno]
  | run build => cases h
  | settle => cases h
  | trigger time build =>
    rw [perform_trigger] at h ⊢
    split at h
    · cases h
    · rename_i hno
      rw [if_neg hno]

/-- A trigger whose change is accepted runs its build and leaves the scheduler idle. -/
theorem perform_trigger_of_accepted {s : Scheduler} {state : σ} {time : Nat} {build : σ → Build × σ}
    (h : ((Use.trigger time build).perform s state).1.isRejection = false) :
    ((Use.trigger time build).perform s state).1.ending? = some (.ofBuild (build state).1) ∧
      ((Use.trigger time build).perform s state).2.2 = (build state).2 ∧
      ((Use.trigger time build).perform s state).2.1.state = .idle := by
  rw [perform_trigger] at h ⊢
  split at h
  · rename_i haccepts
    rw [if_pos haccepts]
    exact ⟨rfl, rfl, rfl⟩
  · cases h

end Use

/-- A scheduler and what the builds have left behind, with all its uses and their answers. -/
structure Used (σ : Type) where
  scheduler : Scheduler
  state : σ
  log : List (Use σ × Answer) := []

/-- How builds end that are run one after another, and what the last one leaves behind. -/
def runBuilds : σ → List (σ → Build × σ) → List Build × σ
  | state, [] => ([], state)
  | state, build :: rest =>
    let (b, state) := build state
    let (bs, state) := runBuilds state rest
    (b :: bs, state)

theorem runBuilds_concat (build : σ → Build × σ) :
    ∀ (bs : List (σ → Build × σ)) (state : σ), runBuilds state (bs ++ [build]) =
      ((runBuilds state bs).1 ++ [(build (runBuilds state bs).2).1],
        (build (runBuilds state bs).2).2)
  | [], _ => rfl
  | b :: bs, state => by
    have ih := runBuilds_concat build bs (b state).2
    simp only [List.cons_append, runBuilds, ih]

namespace Used

def ofDebounce (clock : Clock) (debounce : Nat) (start : σ) : Used σ :=
  { scheduler := .ofDebounce debounce clock, state := start }

def step (u : Used σ) (c : Use σ) : Used σ :=
  let r := c.perform u.scheduler u.state
  ⟨r.2.1, r.2.2, u.log ++ [(c, r.1)]⟩

/-- A new scheduler after uses of it. -/
def run (clock : Clock) (debounce : Nat) (start : σ) (cs : List (Use σ)) : Used σ :=
  cs.foldl step (ofDebounce clock debounce start)

/-- The times of the changes that were accepted. -/
def accepted (u : Used σ) : List Nat :=
  u.log.filterMap Use.acceptedAt?

/-- The builds that were run. -/
def built (u : Used σ) : List (σ → Build × σ) :=
  u.log.filterMap Use.build?

theorem run_concat (clock : Clock) (debounce : Nat) (start : σ) (cs : List (Use σ)) (c : Use σ) :
    run clock debounce start (cs ++ [c]) = (run clock debounce start cs).step c := by
  rw [run, List.foldl_append]
  rfl

end Used

end Uses

/-! ## One use -/

/-- The times at which changes were accepted, up to the last one. -/
structure Spaced (clock : Clock) (debounce : Nat) (times : List Nat) (s : Scheduler) : Prop where
  window : s.debounce = max debounce (1000 * clock.ticks)
  last : times.getLast? = s.last
  chain : times.IsChain fun t t' => t + max debounce (1000 * clock.ticks) ≤ t'

theorem Spaced.accept {clock : Clock} {debounce time : Nat} {times : List Nat} {s s' : Scheduler}
    (h : Spaced clock debounce times s) (haccepts : s.accepts time = true)
    (hwindow : s'.debounce = s.debounce) (hlast : s'.last = some time) :
    Spaced clock debounce (times ++ [time]) s' where
  window := hwindow.trans h.window
  last := by rw [List.getLast?_concat, hlast]
  chain := by
    have hidle : s.state = .idle := by simpa using (Bool.and_eq_true_iff.mp haccepts).1
    have hpos : 0 < s.debounce := by
      have hwindow := h.window
      have htick := clock.pos
      omega
    have hover := (Scheduler.accepts_iff hidle hpos time).mp haccepts
    rw [← h.last, h.window] at hover
    rw [List.isChain_append]
    refine ⟨h.chain, .singleton time, fun t ht t' ht' => ?_⟩
    rw [List.head?_singleton, Option.mem_some_iff] at ht'
    exact ht' ▸ hover t ht

theorem Spaced.keep {clock : Clock} {debounce : Nat} {times : List Nat} {s s' : Scheduler}
    (h : Spaced clock debounce times s) (hwindow : s'.debounce = s.debounce)
    (hlast : s'.last = s.last) : Spaced clock debounce (times ++ []) s' := by
  rw [List.append_nil]
  exact ⟨hwindow.trans h.window, h.last.trans hlast.symm, h.chain⟩

section Uses

variable {σ : Type}

/-- The builds that were run, one after another, and how they ended. -/
structure Counted (start : σ) (bs : List (σ → Build × σ)) (endings : List CycleEnd)
    (s : Scheduler) (state : σ) : Prop where
  state_eq : (runBuilds start bs).2 = state
  endings_eq : endings = (runBuilds start bs).1.map .ofBuild
  cycles : s.cycles = bs.length
  failures : s.failures = (runBuilds start bs).1.countP (· ≠ .succeeded)

theorem Counted.build {start state : σ} {bs : List (σ → Build × σ)} {endings : List CycleEnd}
    {s s' : Scheduler} (h : Counted start bs endings s state) (build : σ → Build × σ)
    (hcycles : s'.cycles = s.cycles + 1)
    (hfailures : s'.failures =
      s.failures + if (CycleEnd.ofBuild (build state).1).isFailed then 1 else 0) :
    Counted start (bs ++ [build]) (endings ++ [.ofBuild (build state).1]) s' (build state).2 where
  state_eq := by rw [runBuilds_concat, h.state_eq]
  endings_eq := by
    rw [runBuilds_concat, h.state_eq, List.map_append, ← h.endings_eq]
    rfl
  cycles := by rw [hcycles, h.cycles, List.length_append, List.length_singleton]
  failures := by
    rw [runBuilds_concat, h.state_eq, List.countP_append, ← h.failures, List.countP_singleton,
      hfailures, CycleEnd.isFailed_ofBuild]

theorem Counted.keep {start state : σ} {bs : List (σ → Build × σ)} {endings : List CycleEnd}
    {s s' : Scheduler} (h : Counted start bs endings s state) (hcycles : s'.cycles = s.cycles)
    (hfailures : s'.failures = s.failures) :
    Counted start (bs ++ []) (endings ++ []) s' state := by
  rw [List.append_nil, List.append_nil]
  exact ⟨h.state_eq, h.endings_eq, hcycles.trans h.cycles, hfailures.trans h.failures⟩

namespace Used

/-- How the builds ended that were run. -/
def endings (u : Used σ) : List CycleEnd :=
  u.log.filterMap (·.2.ending?)

theorem accepted_step (u : Used σ) (c : Use σ) : (u.step c).accepted =
    u.accepted ++ (Use.acceptedAt? (c, (c.perform u.scheduler u.state).1)).toList := by
  simp only [accepted, step, List.filterMap_append]
  rcases h : Use.acceptedAt? (c, (c.perform u.scheduler u.state).1) <;> simp [h]

theorem built_step (u : Used σ) (c : Use σ) : (u.step c).built =
    u.built ++ (Use.build? (c, (c.perform u.scheduler u.state).1)).toList := by
  simp only [built, step, List.filterMap_append]
  rcases h : Use.build? (c, (c.perform u.scheduler u.state).1) <;> simp [h]

theorem endings_step (u : Used σ) (c : Use σ) : (u.step c).endings =
    u.endings ++ (c.perform u.scheduler u.state).1.ending?.toList := by
  simp only [endings, step, List.filterMap_append]
  rcases h : (c.perform u.scheduler u.state).1.ending? <;> simp [h]

theorem spaced_step {clock : Clock} {debounce : Nat} {u : Used σ}
    (h : Spaced clock debounce u.accepted u.scheduler) (c : Use σ) :
    Spaced clock debounce (u.step c).accepted (u.step c).scheduler := by
  rw [accepted_step, step]
  cases c with
  | offer time =>
    rw [Use.perform_offer]
    split
    · rename_i haccepts
      exact h.accept haccepts rfl rfl
    · exact h.keep rfl rfl
  | run build => exact h.keep rfl rfl
  | settle =>
    rw [Use.perform_settle]
    exact h.keep rfl rfl
  | trigger time build =>
    rw [Use.perform_trigger]
    split
    · rename_i haccepts
      exact h.accept haccepts rfl rfl
    · exact h.keep rfl rfl

theorem counted_step {start : σ} {u : Used σ}
    (h : Counted start u.built u.endings u.scheduler u.state) (c : Use σ) :
    Counted start (u.step c).built (u.step c).endings (u.step c).scheduler (u.step c).state := by
  rw [built_step, endings_step, step]
  cases c with
  | offer time =>
    rw [Use.perform_offer]
    split
    · exact h.keep rfl rfl
    · exact h.keep rfl rfl
  | run build => exact h.build build rfl rfl
  | settle =>
    rw [Use.perform_settle]
    exact h.keep rfl rfl
  | trigger time build =>
    rw [Use.perform_trigger]
    split
    · exact h.build build rfl rfl
    · exact h.keep rfl rfl

theorem state_step {u : Used σ} (h : u.scheduler.state ≠ .building) (c : Use σ) :
    (u.step c).scheduler.state ≠ .building := by
  rw [step]
  cases c with
  | offer time =>
    rw [Use.perform_offer]
    split <;> exact h
  | run build => exact nofun
  | settle =>
    rw [Use.perform_settle]
    simp only
    split
    · exact nofun
    · exact h
  | trigger time build =>
    rw [Use.perform_trigger]
    split
    · exact nofun
    · exact h

/-! ## All uses -/

/-- What is known of a scheduler after uses of it. -/
structure Sound (clock : Clock) (debounce : Nat) (start : σ) (u : Used σ) : Prop where
  spaced : Spaced clock debounce u.accepted u.scheduler
  counted : Counted start u.built u.endings u.scheduler u.state
  state : u.scheduler.state ≠ .building

theorem sound_run (clock : Clock) (debounce : Nat) (start : σ) (cs : List (Use σ)) :
    Sound clock debounce start (run clock debounce start cs) := by
  induction cs using List.reverseRecOn with
  | nil => exact ⟨⟨rfl, rfl, .nil⟩, ⟨rfl, rfl, rfl, rfl⟩, nofun⟩
  | append_singleton cs c ih =>
    rw [run_concat]
    exact ⟨spaced_step ih.spaced c, counted_step ih.counted c, state_step ih.state c⟩

theorem uses_run (clock : Clock) (debounce : Nat) (start : σ) (cs : List (Use σ)) :
    (run clock debounce start cs).log.map Prod.fst = cs := by
  induction cs using List.reverseRecOn with
  | nil => rfl
  | append_singleton cs c ih =>
    rw [run_concat, step, List.map_append, ih]
    rfl

/-- Until it is settled, a scheduler that cools down goes on to do so and accepts nothing. -/
theorem foldl_step_of_cooldown :
    ∀ (cs : List (Use σ)) {u : Used σ}, u.scheduler.state = .cooldown → (∀ c ∈ cs, c ≠ .settle) →
      (cs.foldl step u).accepted = u.accepted
  | [], _, _, _ => rfl
  | c :: cs, u, h, hcs => by
    have hno : ∀ time, u.scheduler.accepts time = false := by
      intro time
      simp [Scheduler.accepts, h]
    have hstep : (u.step c).scheduler.state = .cooldown ∧ (u.step c).accepted = u.accepted := by
      rw [accepted_step, step]
      cases c with
      | offer time => simp [Use.perform_offer, hno, h, Use.acceptedAt?, Answer.isRejection]
      | run build => simp [Use.perform_run, Scheduler.finish, Use.acceptedAt?]
      | settle => exact absurd rfl (hcs _ List.mem_cons_self)
      | trigger time build => simp [Use.perform_trigger, hno, h, Use.acceptedAt?, Answer.isRejection]
    rw [List.foldl_cons, foldl_step_of_cooldown cs hstep.1 fun c' hc' =>
      hcs c' (List.mem_cons_of_mem c hc'), hstep.2]

end Used

/-- However a scheduler is used, in whatever order and at whatever times, and however the builds end:
changes are accepted a window after one another, and none between a run and the next settling. A
change that is not accepted leaves everything as it is, and a trigger that is accepted runs its build
once and leaves the scheduler idle. The scheduler counts the builds that were run and those of them
that did not succeed. Whatever the ticks of the clock, the window is no shorter than a second. -/
theorem safety_of_uses (clock : Clock) (debounce : Nat) (start : σ) (cs : List (Use σ)) :
    let window := max debounce (1000 * clock.ticks)
    let u := Used.run clock debounce start cs
    let bs := runBuilds start u.built
    u.log.map Prod.fst = cs ∧
      u.accepted.IsChain (fun t t' => t < t' ∧ t + window ≤ t') ∧
      (u.scheduler.state = .idle ∨ u.scheduler.state = .cooldown) ∧
      (∀ us build vs, cs = us ++ .run build :: vs → (∀ c ∈ vs, c ≠ .settle) →
        u.accepted = (Used.run clock debounce start us).accepted) ∧
      (∀ c : Use σ, (c.perform u.scheduler u.state).1.isRejection = true →
        (c.perform u.scheduler u.state).2 = (u.scheduler, u.state)) ∧
      (∀ time build, let triggered := (Use.trigger time build).perform u.scheduler u.state
        triggered.1 = .triggered (u.scheduler.trigger time (build u.state).1).1 ∧
        triggered.2.1 = (u.scheduler.trigger time (build u.state).1).2 ∧
        (triggered.1.isRejection = false →
          triggered.1.ending? = some (.ofBuild (build u.state).1) ∧
          triggered.2.2 = (build u.state).2 ∧ triggered.2.1.state = .idle)) ∧
      u.state = bs.2 ∧ u.endings = bs.1.map .ofBuild ∧
      u.scheduler.cycles = u.built.length ∧
      u.scheduler.failures = bs.1.countP (· ≠ .succeeded) := by
  intro window u bs
  have hsound : Used.Sound clock debounce start u := Used.sound_run clock debounce start cs
  refine ⟨Used.uses_run clock debounce start cs, ?_, ?_, ?_, ?_, ?_, hsound.counted.state_eq.symm,
    hsound.counted.endings_eq, hsound.counted.cycles, hsound.counted.failures⟩
  · have htick := clock.pos
    refine hsound.spaced.chain.imp fun t t' h => ⟨?_, h⟩
    omega
  · have hstate := hsound.state
    rcases h : u.scheduler.state with _ | _ | _
    · exact .inl rfl
    · exact absurd h hstate
    · exact .inr rfl
  · rintro us build vs rfl hvs
    have hu : u = vs.foldl Used.step ((Used.run clock debounce start us).step (.run build)) := by
      simp [u, Used.run]
    rw [hu, Used.foldl_step_of_cooldown vs rfl hvs, Used.accepted_step]
    exact List.append_nil _
  · intro c hc
    exact Use.perform_of_isRejection hc
  · intro time build triggered
    have heq := Use.perform_trigger_eq u.scheduler u.state time build
    exact ⟨congrArg Prod.fst heq, congrArg (·.2.1) heq, Use.perform_trigger_of_accepted⟩

/-- A time before the last accepted one is too soon, and so is any time before the scheduler is
settled. -/
example :
    let build : Unit → Build × Unit := fun x => (.crashed none, x)
    let u := Used.run {} 0 () [.offer 5000, .trigger 6000 build, .trigger 10 build, .run build,
      .offer 9000, .settle, .settle, .offer 9000]
    u.accepted = [5000, 6000, 9000] ∧ u.scheduler.cycles = 2 ∧ u.scheduler.failures = 2 := by
  decide

end Uses

end AppSpec.Watch
