import AppSpec.Compilation.Pipeline

/-!
# What a run keeps

The compilation that a run ends with is what the phases, each between the calls of the plugins, make
of the new one (`run_state`). What the plugins and the added phases keep is decided by the built-in
phases alone (`view_run`).
-/

namespace AppSpec

variable {α : Type} (view : Compilation → α)

/-- The action changes nothing of the view. -/
def Action.Keeps (phase : String) (a : Action) : Prop :=
  ∀ c c', a.apply phase c = .ok c' → view c' = view c

/-- What the plugins and the added phases do changes nothing of the view. -/
structure Pipeline.Keeps (pl : Pipeline) : Prop where
  before : ∀ q ∈ pl.plugins, ∀ phase, (q.before phase).Keeps view phase
  after : ∀ q ∈ pl.plugins, ∀ phase, (q.after phase).Keeps view phase
  added : ∀ e ∈ pl.added, e.2.Keeps view e.1

theorem bind_eq_ok {ε β γ : Type} {x : Except ε β} {f : β → Except ε γ} {z : γ} :
    x >>= f = .ok z ↔ ∃ y, x = .ok y ∧ f y = .ok z := by
  rcases x with e | y
  · refine ⟨fun h => ?_, fun ⟨y, h, _⟩ => ?_⟩ <;> cases h
  · refine ⟨fun h => ⟨y, rfl, h⟩, fun ⟨y', h, hz⟩ => ?_⟩
    cases h
    exact hz

/-- What no step of a run over a list changes, the run keeps. -/
theorem view_foldlM {β : Type} {f : Compilation → β → Except String Compilation} :
    ∀ (l : List β) {c c' : Compilation},
      (∀ x ∈ l, ∀ c c', f c x = .ok c' → view c' = view c) →
      l.foldlM f c = .ok c' → view c' = view c
  | [], c, c', _, h => by
    cases h
    rfl
  | x :: l, c, c', hl, h => by
    rw [List.foldlM_cons, bind_eq_ok] at h
    obtain ⟨c₁, h₁, h⟩ := h
    have hrest := view_foldlM l (fun y hy => hl y (List.mem_cons_of_mem x hy)) h
    rw [hrest, hl x List.mem_cons_self c c₁ h₁]

/-- An action whose effects keep the view keeps it. -/
theorem Action.keeps_of_effects {phase : String} {a : Action}
    (h : ∀ e ∈ a, ∀ c c', Effect.apply phase c e = .ok c' → view c' = view c) :
    a.Keeps view phase :=
  fun _ _ hrun => view_foldlM view a h hrun

/-- Without plugins and added phases every view is kept. -/
theorem Pipeline.Keeps.empty {view : Compilation → α} : ({} : Pipeline).Keeps view where
  before := fun _ hq => absurd hq List.not_mem_nil
  after := fun _ hq => absurd hq List.not_mem_nil
  added := fun _ he => absurd he List.not_mem_nil

/-- What keeps the view keeps whatever the view shows. -/
theorem Pipeline.Keeps.comp {view : Compilation → α} {pl : Pipeline} (h : pl.Keeps view)
    {β : Type} (f : α → β) : pl.Keeps fun c => f (view c) where
  before := fun q hq phase c c' hrun => congrArg f (h.before q hq phase c c' hrun)
  after := fun q hq phase c c' hrun => congrArg f (h.after q hq phase c c' hrun)
  added := fun e he c c' hrun => congrArg f (h.added e he c c' hrun)

namespace Compilation

variable {d : Disk} {c c' : Compilation}

/-- Discovery fails if and only if the flows directory cannot be read. -/
theorem discover_eq_error_iff {reason : String} : c.discover d = .error reason ↔
    Discovery.run d c.project.flowsDir = .unreadable reason := by
  unfold discover
  rcases hfound : Discovery.run d c.project.flowsDir with _ | sources | reason' <;> simp [hfound]

/-- Otherwise it takes down what is found there, and tells nothing worse than a warning. -/
theorem discover_eq_ok (h : c.discover d = .ok c') :
    ∃ told, (∀ t ∈ told, t.severity = .warning) ∧
      c' = { c with diagnostics := c.diagnostics ++ told }.withSources
        (c.displayed c.project.flowsDir) (Discovery.run d c.project.flowsDir).sources := by
  unfold discover at h
  rcases hfound : Discovery.run d c.project.flowsDir with _ | sources | reason
  · simp only [hfound, Except.ok.injEq] at h
    exact ⟨[_], by simp, h.symm⟩
  · simp only [hfound, Except.ok.injEq] at h
    exact ⟨[], nofun, by rw [← h, List.append_nil]; rfl⟩
  · simp only [hfound, reduceCtorEq] at h

theorem exists_discover (h : ∀ reason, Discovery.run d c.project.flowsDir ≠ .unreadable reason) :
    ∃ c', c.discover d = .ok c' := by
  rcases hc : c.discover d with reason | c'
  · exact absurd (discover_eq_error_iff.mp hc) (h reason)
  · exact ⟨c', rfl⟩

/-- No phase but discovery fails. -/
theorem runBuiltin_eq_error {b : BuiltinPhase} {reason : String}
    (h : c.runBuiltin d b = .error reason) :
    b = .discover ∧ Discovery.run d c.project.flowsDir = .unreadable reason := by
  cases b with
  | discover => exact ⟨rfl, discover_eq_error_iff.mp h⟩
  | parse | merge | synthesize => cases h

end Compilation

namespace Pipeline

variable (pl : Pipeline) (d : Disk)

/-- One phase between the calls of the plugins. -/
def around (c : Compilation) (phase : Phase) : Except String Compilation := do
  let c ← pl.plugins.foldlM (fun c q => (q.before phase.name).apply phase.name c) c
  let c ← runPhase d c phase
  pl.plugins.foldlM (fun c q => (q.after phase.name).apply phase.name c) c

theorem take_state (r : Run) (s : Step) (f : Compilation → Except String Compilation) :
    (r.take s f).state = r.state >>= f := by
  unfold Run.take
  rcases h : r.state with e | c
  · exact h
  · rfl

theorem foldl_take_state {β : Type} (s : β → Step)
    (f : β → Compilation → Except String Compilation) :
    ∀ (l : List β) (r : Run), (l.foldl (fun r x => r.take (s x) (f x)) r).state =
      r.state >>= fun c => l.foldlM (fun c x => f x c) c
  | [], r => by
    rcases h : r.state with e | c
    · exact h
    · exact h
  | x :: l, r => by
    have ih := foldl_take_state s f l (r.take (s x) (f x))
    rw [take_state] at ih
    rw [List.foldl_cons, ih]
    rcases r.state with e | c
    · rfl
    · rfl

theorem surround_state (r : Run) (phase : Phase) :
    (pl.surround d r phase).state = r.state >>= fun c => pl.around d c phase := by
  unfold surround around
  rw [foldl_take_state, take_state, foldl_take_state, bind_assoc, bind_assoc]

theorem foldl_surround_state :
    ∀ (l : List Phase) (r : Run), (l.foldl (pl.surround d) r).state =
      r.state >>= fun c => l.foldlM (pl.around d) c
  | [], r => by
    rcases h : r.state with e | c
    · exact h
    · exact h
  | phase :: l, r => by
    have ih := foldl_surround_state l (pl.surround d r phase)
    rw [surround_state] at ih
    rw [List.foldl_cons, ih]
    rcases r.state with e | c
    · rfl
    · rfl

/-- The state of a run, said without the steps that were taken. -/
theorem run_state (p : Project) :
    (pl.run d p).state = pl.phases.foldlM (pl.around d) (.ofProject p) :=
  foldl_surround_state pl d pl.phases _

variable {pl d} {view}

/-- A phase between calls that keep the view does to it what the phase does. -/
theorem view_around (hpl : pl.Keeps view) {c c' : Compilation} {phase : Phase}
    (h : pl.around d c phase = .ok c') :
    ∃ c₁ c₂, view c₁ = view c ∧ runPhase d c₁ phase = .ok c₂ ∧ view c' = view c₂ := by
  unfold around at h
  obtain ⟨c₁, h₁, h⟩ := bind_eq_ok.mp h
  obtain ⟨c₂, h₂, h₃⟩ := bind_eq_ok.mp h
  refine ⟨c₁, c₂, ?_, h₂, ?_⟩
  · exact view_foldlM view _ (fun q hq c c' => hpl.before q hq phase.name c c') h₁
  · exact view_foldlM view _ (fun q hq c c' => hpl.after q hq phase.name c c') h₃

variable {step : BuiltinPhase → α → α}

theorem view_builtin (hpl : pl.Keeps view)
    (hstep : ∀ b c c', c.runBuiltin d b = .ok c' → view c' = step b (view c)) :
    ∀ (bs : List BuiltinPhase) {c c' : Compilation},
      (bs.map Phase.builtin).foldlM (pl.around d) c = .ok c' →
      view c' = bs.foldl (fun x b => step b x) (view c)
  | [], c, c', h => by
    cases h
    rfl
  | b :: bs, c, c', h => by
    rw [List.map_cons, List.foldlM_cons, bind_eq_ok] at h
    obtain ⟨c₃, h₃, h⟩ := h
    have ih := view_builtin hpl hstep bs h
    obtain ⟨c₁, c₂, hc₁, hrun, hc₃⟩ := view_around hpl h₃
    rw [ih, hc₃, hstep b c₁ c₂ hrun, hc₁, List.foldl_cons]

theorem view_added (hpl : pl.Keeps view) {c c' : Compilation}
    (h : (pl.added.map fun e => Phase.added e.1 e.2).foldlM (pl.around d) c = .ok c') :
    view c' = view c := by
  refine view_foldlM view _ ?_ h
  intro phase hphase c c' hrun
  obtain ⟨e, he, rfl⟩ := List.mem_map.mp hphase
  obtain ⟨c₁, c₂, hc₁, hadded, hc'⟩ := view_around hpl hrun
  rw [hc', hpl.added e he c₁ c₂ hadded, hc₁]

/-- At the end of a run that keeps the view, the view is what the built-in phases make of it. -/
theorem view_run (hpl : pl.Keeps view)
    (hstep : ∀ b c c', c.runBuiltin d b = .ok c' → view c' = step b (view c)) {p : Project}
    {c : Compilation} (h : (pl.run d p).state = .ok c) :
    view c = BuiltinPhase.all.foldl (fun x b => step b x) (view (.ofProject p)) := by
  rw [run_state, phases, List.foldlM_append, bind_eq_ok] at h
  obtain ⟨c₁, h₁, h⟩ := h
  rw [view_added hpl h, view_builtin hpl hstep _ h₁]

end Pipeline

end AppSpec
