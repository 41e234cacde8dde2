import AppSpec.Proofs.PipelineRun

/-!
# The steps that a run takes

The turns of a pipeline are the calls of its plugins and its phases, one by one. A run takes the turns
in order (`Pipeline.run_eq`): all of them, or those up to the first that fails, with whose error it ends
(`Pipeline.taken_of_run`). Of the phases that every pipeline has only discovery can fail
(`Turn.act_builtin_eq_error_iff`), so what a specification file holds cannot end a run.
-/

namespace AppSpec

/-- A call of a plugin around a phase, or the phase itself. -/
inductive Turn where
  | before (plugin : Plugin) (phase : Phase)
  | perform (phase : Phase)
  | after (plugin : Plugin) (phase : Phase)

namespace Turn

def step : Turn → Step
  | .before q phase => .before q.name phase.name
  | .perform phase => .phase phase.name
  | .after q phase => .after q.name phase.name

def act (d : Disk) (c : Compilation) : Turn → Except String Compilation
  | .before q phase => (q.before phase.name).apply phase.name c
  | .perform phase => Pipeline.runPhase d c phase
  | .after q phase => (q.after phase.name).apply phase.name c

/-- The turn is one of the phases that every pipeline has. -/
def IsBuiltin (t : Turn) : Prop :=
  ∃ b, t = .perform (.builtin b)

/-- Of the phases that every pipeline has, only discovery fails, when the flows directory cannot be
read. -/
theorem act_builtin_eq_error_iff {d : Disk} {c : Compilation} {b : BuiltinPhase} {reason : String} :
    (perform (.builtin b)).act d c = .error reason ↔
      b = .discover ∧ Discovery.run d c.project.flowsDir = .unreadable reason := by
  refine ⟨Compilation.runBuiltin_eq_error, ?_⟩
  rintro ⟨rfl, h⟩
  exact Compilation.discover_eq_error_iff.mpr h

/-- The turns succeed one after another and make the one compilation into the other. -/
inductive Pass (d : Disk) : Compilation → List Turn → Compilation → Prop
  | nil {c : Compilation} : Pass d c [] c
  | cons {c c₁ c' : Compilation} {t : Turn} {ts : List Turn} (hact : t.act d c = .ok c₁)
    (hrest : Pass d c₁ ts c') : Pass d c (t :: ts) c'

/-- The turns succeed up to the last one, which fails with the reason. -/
inductive Fail (d : Disk) : Compilation → List Turn → String → Prop
  | last {c : Compilation} {t : Turn} {reason : String} (hact : t.act d c = .error reason) :
    Fail d c [t] reason
  | cons {c c₁ : Compilation} {t : Turn} {ts : List Turn} {reason : String}
    (hact : t.act d c = .ok c₁) (hrest : Fail d c₁ ts reason) : Fail d c (t :: ts) reason

variable {d : Disk} {c : Compilation}

theorem fail_iff {ts : List Turn} {reason : String} : Fail d c ts reason ↔
    ∃ done t c', ts = done ++ [t] ∧ Pass d c done c' ∧ t.act d c' = .error reason := by
  constructor
  · intro h
    induction h with
    | last hact => exact ⟨[], _, _, rfl, .nil, hact⟩
    | @cons _ _ u _ _ hact _ ih =>
      obtain ⟨done, t, c', rfl, hpass, hfail⟩ := ih
      exact ⟨u :: done, t, c', rfl, .cons hact hpass, hfail⟩
  · rintro ⟨done, t, c', rfl, hpass, hfail⟩
    induction hpass with
    | nil => exact .last hfail
    | cons hact _ ih => exact .cons hact (ih hfail)

theorem pass_append_iff {ts us : List Turn} {c' : Compilation} : Pass d c (ts ++ us) c' ↔
    ∃ c₁, Pass d c ts c₁ ∧ Pass d c₁ us c' := by
  constructor
  · intro h
    induction ts generalizing c with
    | nil => exact ⟨c, .nil, h⟩
    | cons t ts ih =>
      cases h with
      | cons hact hrest =>
        obtain ⟨c₁, hts, hus⟩ := ih hrest
        exact ⟨c₁, .cons hact hts, hus⟩
  · rintro ⟨c₁, hts, hus⟩
    induction hts with
    | nil => exact hus
    | cons hact _ ih => exact .cons hact (ih hus)

/-- Turns pass, or some of them from the first on fail. -/
theorem pass_or_fail (d : Disk) : ∀ (ts : List Turn) (c : Compilation),
    (∃ c', Pass d c ts c') ∨ ∃ done rest reason, ts = done ++ rest ∧ Fail d c done reason
  | [], c => .inl ⟨c, .nil⟩
  | t :: ts, c => by
    rcases hact : t.act d c with reason | c₁
    · exact .inr ⟨[t], ts, reason, rfl, .last hact⟩
    · rcases pass_or_fail d ts c₁ with ⟨c', h⟩ | ⟨done, rest, reason, rfl, h⟩
      · exact .inl ⟨c', .cons hact h⟩
      · exact .inr ⟨t :: done, rest, reason, rfl, .cons hact h⟩

/-- What no turn changes, turns that pass keep. -/
theorem view_of_pass {α : Type} (view : Compilation → α) {ts : List Turn} {c' : Compilation}
    (hts : ∀ t ∈ ts, ∀ c c', t.act d c = .ok c' → view c' = view c) (h : Pass d c ts c') :
    view c' = view c := by
  induction h with
  | nil => rfl
  | @cons _ _ _ t ts hact _ ih =>
    rw [ih fun u hu => hts u (List.mem_cons_of_mem t hu), hts t List.mem_cons_self _ _ hact]

/-- Turns of which none can fail pass. -/
theorem exists_pass {ts : List Turn} (h : ∀ t ∈ ts, ∀ c, ∃ c', t.act d c = .ok c') :
    ∃ c', Pass d c ts c' := by
  induction ts generalizing c with
  | nil => exact ⟨c, .nil⟩
  | cons t ts ih =>
    obtain ⟨c₁, hact⟩ := h t List.mem_cons_self c
    obtain ⟨c', hrest⟩ := ih (c := c₁) fun u hu => h u (List.mem_cons_of_mem t hu)
    exact ⟨c', .cons hact hrest⟩

end Turn

namespace Run

def turn (d : Disk) (r : Run) (t : Turn) : Run :=
  r.take t.step fun c => t.act d c

variable {d : Disk} {c : Compilation}

/-- A run that has failed takes no more turns. -/
theorem foldl_turn_of_error (steps : List Step) (reason : String) (ts : List Turn) :
    ts.foldl (turn d) ⟨steps, .error reason⟩ = ⟨steps, .error reason⟩ := by
  induction ts with
  | nil => rfl
  | cons t ts ih => exact ih

theorem turn_of_ok {t : Turn} (steps : List Step) :
    turn d ⟨steps, .ok c⟩ t = ⟨steps ++ [t.step], t.act d c⟩ := rfl

theorem foldl_turn_of_pass {ts : List Turn} {c' : Compilation} (h : Turn.Pass d c ts c') :
    ∀ steps, ts.foldl (turn d) ⟨steps, .ok c⟩ = ⟨steps ++ ts.map Turn.step, .ok c'⟩ := by
  induction h with
  | nil => simp
  | cons hact _ ih =>
    intro steps
    rw [List.foldl_cons, turn_of_ok, hact, ih, List.map_cons, List.append_assoc]
    rfl

theorem foldl_turn_of_fail {done : List Turn} {reason : String} (h : Turn.Fail d c done reason)
    (rest : List Turn) : ∀ steps, (done ++ rest).foldl (turn d) ⟨steps, .ok c⟩ =
      ⟨steps ++ done.map Turn.step, .error reason⟩ := by
  induction h with
  | last hact =>
    intro steps
    rw [List.singleton_append, List.foldl_cons, turn_of_ok, hact, foldl_turn_of_error]
    rfl
  | cons hact _ ih =>
    intro steps
    rw [List.cons_append, List.foldl_cons, turn_of_ok, hact, ih, List.map_cons, List.append_assoc]
    rfl

end Run

namespace Pipeline

variable (pl : Pipeline) (d : Disk)

/-- A phase with the calls of the plugins before and after it. -/
def turnsAround (phase : Phase) : List Turn :=
  pl.plugins.map (Turn.before · phase) ++ Turn.perform phase :: pl.plugins.map (Turn.after · phase)

/-- Discovery, parsing, merging and synthesis, and then the added phases. -/
def turns : List Turn :=
  pl.turnsAround (.builtin .discover) ++ pl.turnsAround (.builtin .parse) ++
    pl.turnsAround (.builtin .merge) ++ pl.turnsAround (.builtin .synthesize) ++
    pl.added.flatMap fun e => pl.turnsAround (.added e.1 e.2)

theorem surround_eq (r : Run) (phase : Phase) :
    pl.surround d r phase = (pl.turnsAround phase).foldl (Run.turn d) r := by
  rw [turnsAround, List.foldl_append, List.foldl_cons, List.foldl_map, List.foldl_map]
  rfl

theorem turns_eq : pl.turns = pl.phases.flatMap pl.turnsAround := by
  simp [turns, phases, BuiltinPhase.all, List.flatMap_map]

theorem run_eq (p : Project) :
    pl.run d p = pl.turns.foldl (Run.turn d) ⟨[], .ok (.ofProject p)⟩ := by
  have hphases : ∀ (phases : List Phase) (r : Run),
      phases.foldl (pl.surround d) r = (phases.flatMap pl.turnsAround).foldl (Run.turn d) r := by
    intro phases
    induction phases with
    | nil => exact fun _ => rfl
    | cons phase phases ih =>
      intro r
      rw [List.foldl_cons, ih, surround_eq, List.flatMap_cons, List.foldl_append]
  rw [turns_eq]
  exact hphases pl.phases _

variable {pl d} {p : Project}

theorem run_of_pass {c : Compilation} (h : Turn.Pass d (.ofProject p) pl.turns c) :
    pl.run d p = ⟨pl.turns.map Turn.step, .ok c⟩ := by
  rw [run_eq, Run.foldl_turn_of_pass h, List.nil_append]

theorem run_of_fail {done rest : List Turn} {reason : String} (hturns : pl.turns = done ++ rest)
    (h : Turn.Fail d (.ofProject p) done reason) :
    pl.run d p = ⟨done.map Turn.step, .error reason⟩ := by
  rw [run_eq, hturns, Run.foldl_turn_of_fail h, List.nil_append]

/-- A run takes all turns or fails at one of them. -/
theorem run_cases (pl : Pipeline) (d : Disk) (p : Project) :
    (∃ c, Turn.Pass d (.ofProject p) pl.turns c ∧ pl.run d p = ⟨pl.turns.map Turn.step, .ok c⟩) ∨
      ∃ done rest reason, pl.turns = done ++ rest ∧ Turn.Fail d (.ofProject p) done reason ∧
        pl.run d p = ⟨done.map Turn.step, .error reason⟩ := by
  rcases Turn.pass_or_fail d pl.turns (.ofProject p) with ⟨c, h⟩ | ⟨done, rest, reason, hturns, h⟩
  · exact .inl ⟨c, h, run_of_pass h⟩
  · exact .inr ⟨done, rest, reason, hturns, h, run_of_fail hturns h⟩

theorem run_eq_ok_iff {steps : List Step} {c : Compilation} : pl.run d p = ⟨steps, .ok c⟩ ↔
    Turn.Pass d (.ofProject p) pl.turns c ∧ steps = pl.turns.map Turn.step := by
  constructor
  · intro h
    rcases run_cases pl d p with ⟨c', hpass, hrun⟩ | ⟨done, rest, reason, -, -, hrun⟩
    · obtain ⟨rfl, hstate⟩ := Run.mk.inj (h.symm.trans hrun)
      exact ⟨Except.ok.inj hstate ▸ hpass, rfl⟩
    · cases h.symm.trans hrun
  · rintro ⟨hpass, rfl⟩
    exact run_of_pass hpass

theorem run_eq_error_iff {steps : List Step} {reason : String} :
    pl.run d p = ⟨steps, .error reason⟩ ↔ ∃ done t rest c, pl.turns = done ++ t :: rest ∧
      Turn.Pass d (.ofProject p) done c ∧ t.act d c = .error reason ∧
      steps = (done ++ [t]).map Turn.step := by
  constructor
  · intro h
    rcases run_cases pl d p with ⟨c, -, hrun⟩ | ⟨done, rest, reason', hturns, hfail, hrun⟩
    · cases h.symm.trans hrun
    · obtain ⟨rfl, hstate⟩ := Run.mk.inj (h.symm.trans hrun)
      obtain rfl := Except.error.inj hstate
      obtain ⟨done, t, c, rfl, hpass, hact⟩ := Turn.fail_iff.mp hfail
      exact ⟨done, t, rest, c, by simpa using hturns, hpass, hact, rfl⟩
  · rintro ⟨done, t, rest, c, hturns, hpass, hact, rfl⟩
    have hfail := Turn.fail_iff.mpr ⟨done, t, c, rfl, hpass, hact⟩
    exact run_of_fail (by simpa using hturns) hfail

/-- The turns behind discovery. -/
def turnsBehind (pl : Pipeline) : List Turn :=
  pl.plugins.map (Turn.after · (.builtin .discover)) ++ pl.turnsAround (.builtin .parse) ++
    pl.turnsAround (.builtin .merge) ++ pl.turnsAround (.builtin .synthesize) ++
    pl.added.flatMap fun e => pl.turnsAround (.added e.1 e.2)

theorem turns_eq_behind (pl : Pipeline) :
    pl.turns = pl.plugins.map (Turn.before · (.builtin .discover)) ++
      Turn.perform (.builtin .discover) :: pl.turnsBehind := by
  simp [turns, turnsBehind, turnsAround]

/-- No turn behind discovery discovers. -/
theorem not_mem_turnsBehind (pl : Pipeline) :
    Turn.perform (.builtin .discover) ∉ pl.turnsBehind := by
  simp [turnsBehind, turnsAround]

/-- With plugins and added phases that succeed, all turns are taken unless the flows directory cannot be
read. -/
theorem run_of_total (htotal : ∀ t ∈ pl.turns, ¬ t.IsBuiltin → ∀ c, ∃ c', t.act d c = .ok c') :
    (∃ c, Turn.Pass d (.ofProject p) pl.turns c) ∨
      ∃ c reason, Turn.Pass d (.ofProject p)
          (pl.plugins.map (Turn.before · (.builtin .discover))) c ∧
        Discovery.run d c.project.flowsDir = .unreadable reason ∧
        pl.run d p = ⟨pl.plugins.map (fun q => .before q.name "discover") ++ [.phase "discover"],
          .error reason⟩ := by
  have hturns := pl.turns_eq_behind
  have hbefore : ∃ c, Turn.Pass d (.ofProject p)
      (pl.plugins.map (Turn.before · (.builtin .discover))) c := by
    refine Turn.exists_pass fun t ht => htotal t (hturns ▸ List.mem_append_left _ ht) ?_
    obtain ⟨q, -, rfl⟩ := List.mem_map.mp ht
    rintro ⟨b, h⟩
    cases h
  obtain ⟨c, hc⟩ := hbefore
  rcases hact : (Turn.perform (.builtin .discover)).act d c with reason | c₁
  · refine .inr ⟨c, reason, hc, (Turn.act_builtin_eq_error_iff.mp hact).2, ?_⟩
    rw [run_eq_error_iff.mpr ⟨_, _, _, c, hturns, hc, hact, rfl⟩, List.map_append, List.map_map]
    rfl
  · have hbehind : ∃ c', Turn.Pass d c₁ pl.turnsBehind c' := by
      refine Turn.exists_pass fun t ht => ?_
      by_cases hbuiltin : t.IsBuiltin
      · obtain ⟨b, rfl⟩ := hbuiltin
        intro c
        rcases h : (Turn.perform (.builtin b)).act d c with reason | c'
        · obtain ⟨rfl, -⟩ := Turn.act_builtin_eq_error_iff.mp h
          exact absurd ht pl.not_mem_turnsBehind
        · exact ⟨c', rfl⟩
      · refine htotal t ?_ hbuiltin
        rw [hturns]
        exact List.mem_append_right _ (List.mem_cons_of_mem _ ht)
    obtain ⟨c', hc'⟩ := hbehind
    exact .inl ⟨c', hturns ▸ Turn.pass_append_iff.mpr ⟨c, hc, .cons hact hc'⟩⟩

theorem pass_of_state {c : Compilation} (h : (pl.run d p).state = .ok c) :
    Turn.Pass d (.ofProject p) pl.turns c := by
  rcases run_cases pl d p with ⟨c', hpass, hrun⟩ | ⟨done, rest, reason, -, -, hrun⟩
  · rw [hrun, Except.ok.injEq] at h
    exact h ▸ hpass
  · rw [hrun] at h
    cases h

/-- Without plugins and added phases a run comes to its end once it is past discovery. -/
theorem state_of_discover {c : Compilation} (h : (Compilation.ofProject p).discover d = .ok c) :
    (run {} d p).state = .ok (c.parse d).merge.synthesize := by
  have hdiscover : (Turn.perform (.builtin .discover)).act d (.ofProject p) = .ok c := h
  have hpass : Turn.Pass d (.ofProject p) (turns {}) (c.parse d).merge.synthesize :=
    .cons hdiscover (.cons rfl (.cons rfl (.cons rfl .nil)))
  rw [run_of_pass hpass]

theorem state_of_unreadable {reason : String}
    (h : Discovery.run d p.flowsDir = .unreadable reason) :
    (run {} d p).state = .error reason := by
  have hact : (Turn.perform (.builtin .discover)).act d (.ofProject p) = .error reason :=
    Turn.act_builtin_eq_error_iff.mpr ⟨rfl, h⟩
  rw [run_eq_error_iff.mpr ⟨[], _, _, _, rfl, .nil, hact, rfl⟩]

/-- The last turn of a run makes the compilation that the run ends with. -/
theorem act_of_state {c : Compilation} (ts : List Turn) {t : Turn} (hturns : pl.turns = ts ++ [t])
    (h : (pl.run d p).state = .ok c) : ∃ c₁, t.act d c₁ = .ok c := by
  obtain ⟨c₁, -, hlast⟩ := Turn.pass_append_iff.mp (hturns ▸ pass_of_state h)
  cases hlast with
  | cons hact hrest =>
    cases hrest
    exact ⟨c₁, hact⟩

/-- No call of a plugin and no added phase fails. -/
structure Total (pl : Pipeline) : Prop where
  before : ∀ q ∈ pl.plugins, ∀ phase c, ∃ c', (q.before phase).apply phase c = .ok c'
  after : ∀ q ∈ pl.plugins, ∀ phase c, ∃ c', (q.after phase).apply phase c = .ok c'
  added : ∀ e ∈ pl.added, ∀ c, ∃ c', e.2.apply e.1 c = .ok c'

theorem Total.act (h : pl.Total) (t : Turn) (ht : t ∈ pl.turns) (hbuiltin : ¬ t.IsBuiltin)
    (c : Compilation) : ∃ c', t.act d c = .ok c' := by
  have haround : ∀ phase, (∀ name action, phase = .added name action → (name, action) ∈ pl.added) →
      t ∈ pl.turnsAround phase → ∃ c', t.act d c = .ok c' := by
    intro phase hphase ht
    simp only [turnsAround, List.mem_append, List.mem_cons, List.mem_map] at ht
    rcases ht with ⟨q, hq, rfl⟩ | rfl | ⟨q, hq, rfl⟩
    · exact h.before q hq phase.name c
    · cases phase with
      | builtin b => exact absurd ⟨b, rfl⟩ hbuiltin
      | added name action => exact h.added _ (hphase name action rfl) c
    · exact h.after q hq phase.name c
  have hphase : ∀ b, t ∈ pl.turnsAround (.builtin b) → ∃ c', t.act d c = .ok c' := fun b =>
    haround _ fun _ _ heq => by cases heq
  simp only [turns, List.mem_append, List.mem_flatMap] at ht
  rcases ht with (((ht | ht) | ht) | ht) | ⟨e, he, ht⟩
  · exact hphase _ ht
  · exact hphase _ ht
  · exact hphase _ ht
  · exact hphase _ ht
  · refine haround _ (fun name action heq => ?_) ht
    cases heq
    exact he

/-- A run of which no step can fail comes to its end if the flows directory can be read. -/
theorem exists_run (hpl : pl.Keeps Compilation.project) (htotal : pl.Total)
    (hfound : ∀ reason, Discovery.run d p.flowsDir ≠ .unreadable reason) :
    ∃ c, (pl.run d p).state = .ok c := by
  rcases run_of_total (d := d) (p := p) htotal.act with ⟨c, hpass⟩ | ⟨c, reason, hpass, hreason, -⟩
  · exact ⟨c, by rw [run_of_pass hpass]⟩
  · have hproject : c.project = p := by
      refine Turn.view_of_pass Compilation.project (fun t ht c c' hact => ?_) hpass
      obtain ⟨q, hq, rfl⟩ := List.mem_map.mp ht
      exact hpl.before q hq _ c c' hact
    rw [hproject] at hreason
    exact absurd hreason (hfound reason)

/-- A run takes the steps of the schedule in order: discovery, parsing, merging, synthesis and then the
added phases, each between the calls of the plugins. It takes all of them when none fails, otherwise those
up to the first one that fails, and the error of that one is its own. A phase that every pipeline has
fails only where the flows directory cannot be read, so with plugins and added phases that succeed the
whole schedule is taken unless that is so, whatever the specification files hold. -/
theorem taken_of_run (pl : Pipeline) (d : Disk) (p : Project) :
    let around (phase : String) : List Step :=
      pl.plugins.map (fun q => .before q.name phase) ++ [.phase phase] ++
        pl.plugins.map fun q => .after q.name phase
    let schedule := around "discover" ++ around "parse" ++ around "merge" ++ around "synthesize" ++
      pl.added.flatMap fun e => around e.1
    pl.turns.map Turn.step = schedule ∧
      (∀ c, pl.run d p = ⟨schedule, .ok c⟩ ↔ Turn.Pass d (.ofProject p) pl.turns c) ∧
      (∀ steps reason, pl.run d p = ⟨steps, .error reason⟩ ↔ ∃ done t rest c,
        pl.turns = done ++ t :: rest ∧ Turn.Pass d (.ofProject p) done c ∧
        t.act d c = .error reason ∧ steps = (done ++ [t]).map Turn.step) ∧
      ((∃ c, pl.run d p = ⟨schedule, .ok c⟩) ∨
        ∃ steps reason, steps <+: schedule ∧ pl.run d p = ⟨steps, .error reason⟩ ∧
          pl.compile d p = .error (.stopped reason)) ∧
      (∀ b c reason, (Turn.perform (.builtin b)).act d c = .error reason ↔
        b = .discover ∧ Discovery.run d c.project.flowsDir = .unreadable reason) ∧
      ((∀ t ∈ pl.turns, ¬ t.IsBuiltin → ∀ c, ∃ c', t.act d c = .ok c') →
        (∃ c, pl.run d p = ⟨schedule, .ok c⟩) ∨
        ∃ c reason, Turn.Pass d (.ofProject p)
            (pl.plugins.map (Turn.before · (.builtin .discover))) c ∧
          Discovery.run d c.project.flowsDir = .unreadable reason ∧
          pl.run d p = ⟨pl.plugins.map (fun q => .before q.name "discover") ++ [.phase "discover"],
            .error reason⟩) := by
  intro around schedule
  have haround : ∀ phase : Phase, (pl.turnsAround phase).map Turn.step = around phase.name := by
    intro phase
    simp [turnsAround, around, Turn.step, Function.comp_def]
  have hschedule : pl.turns.map Turn.step = schedule := by
    simp only [turns, List.map_append, List.map_flatMap, haround]
    rfl
  have hpass : ∀ c, pl.run d p = ⟨schedule, .ok c⟩ ↔ Turn.Pass d (.ofProject p) pl.turns c := by
    intro c
    rw [run_eq_ok_iff, hschedule, and_iff_left rfl]
  refine ⟨hschedule, hpass, fun steps reason => run_eq_error_iff, ?_,
    fun b c reason => Turn.act_builtin_eq_error_iff, fun htotal => ?_⟩
  · rcases run_cases pl d p with ⟨c, h, -⟩ | ⟨done, rest, reason, hturns, -, hrun⟩
    · exact .inl ⟨c, (hpass c).mpr h⟩
    · refine .inr ⟨_, reason, ?_, hrun, by simp only [compile, hrun]⟩
      rw [← hschedule, hturns, List.map_append]
      exact List.prefix_append _ _
  · rcases run_of_total (p := p) htotal with ⟨c, h⟩ | h
    · exact .inl ⟨c, (hpass c).mpr h⟩
    · exact .inr h

/-- A file that is no text does not end a run. A plugin that refuses to go on after parsing does, and so
does a flows directory that cannot be read. -/
theorem taken_of_three_runs :
    let p : Project := ⟨"/app", { name := "app" }⟩
    let d : Disk := { nodes := [(["app"], .directory), (["app", "src"], .directory),
      (["app", "src", "flows"], .directory),
      (["app", "src", "flows", "a.flow"], .file ⟨#[255]⟩ false)] }
    let closed : Disk := { d with unreadable := [(["app", "src", "flows"], .denied)] }
    let lint : Plugin :=
      { name := "lint", after := fun phase => if phase = "parse" then [.fail "no more"] else [] }
    let pl : Pipeline := { plugins := [lint] }
    (∃ c, run {} d p =
        ⟨[.phase "discover", .phase "parse", .phase "merge", .phase "synthesize"], .ok c⟩) ∧
      pl.run d p = ⟨[.before "lint" "discover", .phase "discover", .after "lint" "discover",
        .before "lint" "parse", .phase "parse", .after "lint" "parse"], .error "no more"⟩ ∧
      pl.run closed p = ⟨[.before "lint" "discover", .phase "discover"], .error
        ("failed to read flows directory entry: attempting to read `/app/src/flows` " ++
          "resulted in an error: Permission denied (os error 13)")⟩ := by
  intro p d closed lint pl
  have hfound : ∀ reason, Discovery.run d p.flowsDir ≠ .unreadable reason := by
    have hrun : Discovery.run d p.flowsDir = .found [⟨"/app/src/flows/a.flow", .flow⟩] := by
      decide +kernel
    rw [hrun]
    exact nofun
  have hclosed : Discovery.run closed p.flowsDir = .unreadable
      (Discovery.unreadableText "/app/src/flows" .denied) := by
    decide +kernel
  obtain ⟨c, hc⟩ := Compilation.exists_discover (c := .ofProject p) hfound
  have hdiscover : (Turn.perform (.builtin .discover)).act d (.ofProject p) = .ok c := hc
  have hparse : (Turn.perform (.builtin .parse)).act d c = .ok (c.parse d) := rfl
  have hrefuse : (Turn.after lint (.builtin .parse)).act d (c.parse d) = .error "no more" := rfl
  obtain ⟨-, hpass, -⟩ := taken_of_run {} d p
  obtain ⟨-, -, hrun, -⟩ := taken_of_run pl d p
  obtain ⟨-, -, hrun', -⟩ := taken_of_run pl closed p
  refine ⟨⟨(c.parse d).merge.synthesize, (hpass _).mpr ?_⟩, ?_, ?_⟩
  · exact .cons hdiscover (.cons hparse (.cons rfl (.cons rfl .nil)))
  · refine (hrun _ _).mpr ⟨[.before lint (.builtin .discover), .perform (.builtin .discover),
      .after lint (.builtin .discover), .before lint (.builtin .parse),
      .perform (.builtin .parse)], _, _, _, rfl, ?_, hrefuse, rfl⟩
    exact .cons rfl (.cons hdiscover (.cons rfl (.cons rfl (.cons hparse .nil))))
  · exact (hrun' _ _).mpr ⟨[.before lint (.builtin .discover)], .perform (.builtin .discover), _,
      .ofProject p, rfl, .cons rfl .nil, Compilation.discover_eq_error_iff.mpr hclosed, rfl⟩

end Pipeline

end AppSpec
