import Mathlib.Data.List.Basic
import AppSpec.Proofs.BadFiles
import AppSpec.Proofs.DirectoryScans
import AppSpec.Proofs.GeneratorCalls
import AppSpec.Proofs.TakenSteps

/-!
# When a cycle generates

A compilation has a result unless there are errors or no application
(`Compilation.finish_eq_error_iff`), and a cycle whose compilation has no result calls no generator.
So one bad file is enough to stop a cycle, whatever plugins tell or drop, and the fault that it ends
with names the bad files alone (`cycle_of_bad_file`). Diagnostics have no say: one that is an error
stops no cycle (`cycle_stops_iff`).
-/

namespace AppSpec

namespace Compilation

variable (c : Compilation)

theorem finish_of_errors {c : Compilation} (h : c.errors ≠ []) :
    c.finish = .error (.badFiles c.errors c.status c.diagnostics) := by
  have hempty : c.errors.isEmpty = false := by simpa using h
  rw [finish, hempty]
  rfl

/-- A compilation has no result if and only if there are errors or there is no application. -/
theorem finish_eq_error_iff :
    (∃ fault, c.finish = .error fault) ↔ c.errors ≠ [] ∨ c.application = none := by
  unfold finish
  rcases herrors : c.errors with _ | ⟨e, errors⟩
  · rcases happ : c.application with _ | a
    · exact ⟨fun _ => .inr rfl, fun _ => ⟨.noApplication, rfl⟩⟩
    · refine ⟨fun ⟨fault, h⟩ => ?_, fun h => ?_⟩
      · cases h
      · rcases h with h | h
        · exact absurd rfl h
        · cases h
  · exact ⟨fun _ => .inl (List.cons_ne_nil e errors), fun _ => ⟨_, rfl⟩⟩

/-- A result is what a compilation without errors has found out. -/
theorem finish_eq_ok_iff {c : Compilation} {compiled : Compiled} :
    c.finish = .ok compiled ↔ c.errors = [] ∧ ∃ a, c.application = some a ∧
      compiled = ⟨a, c.sources, c.conflicts, c.synthesis.getD {}, c.diagnostics, c.status⟩ := by
  unfold finish
  rcases c.errors with _ | ⟨e, errors⟩
  · rcases c.application with _ | a
    · simp
    · simp [eq_comm]
  · simp

theorem sources_of_finish {c : Compilation} {compiled : Compiled}
    (h : c.finish = .ok compiled) : compiled.sources = c.sources := by
  obtain ⟨-, a, -, rfl⟩ := finish_eq_ok_iff.mp h
  rfl

theorem errors_ne_nil_of_badFiles {c : Compilation} {errors : List SpecError}
    {status : List Status} {told : List Diagnostic}
    (h : c.finish = .error (.badFiles errors status told)) : c.errors ≠ [] := by
  intro hnil
  rcases happ : c.application with _ | a
  · simp [finish, hnil, happ] at h
  · simp [finish, hnil, happ] at h

end Compilation

namespace Pipeline

theorem compile_of_stopped {pl : Pipeline} {d : Disk} {p : Project} {reason : String}
    (h : (pl.run d p).state = .error reason) : pl.compile d p = .error (.stopped reason) := by
  rw [compile, h]

theorem compile_of_run {pl : Pipeline} {d : Disk} {p : Project} {c : Compilation}
    (h : (pl.run d p).state = .ok c) : pl.compile d p = c.finish := by
  rw [compile, h]

end Pipeline

/-- The plugins and added phases may be plain ones or anything else that leaves alone what is known
of the files. Then a bad file stops the cycle before any generator is called. Unless a step fails,
every file has been read and the fault names each bad file once, in order; and a cycle faults a file
only if one is bad. -/
theorem cycle_of_bad_file {pl : Pipeline} (hpl : pl.Keeps Compilation.files) (d : Disk)
    (p : Project) :
    let sources := (Discovery.run d p.flowsDir).sources
    ((∃ s ∈ sources, ∃ e, s.Bad d e) → ∃ fault, ∀ (gs : Registry) (r : Request),
        Cycle.run pl gs d p r = (.error fault, d) ∧ Cycle.calls pl gs d p r = []) ∧
      (∀ c, (pl.run d p).state = .ok c →
        c.sources = sources ∧ Reads d sources c.documents c.errors ∧
        sources.length = c.documents.length + c.errors.length ∧
        ((∃ s ∈ sources, ∃ e, s.Bad d e) → ∀ (gs : Registry) (r : Request),
          Cycle.run pl gs d p r = (.error (.badFiles c.errors c.status c.diagnostics), d))) ∧
      (∀ (gs : Registry) (r : Request) (errors : List SpecError) (status : List Status)
        (told : List Diagnostic),
        (Cycle.run pl gs d p r).1 = .error (.badFiles errors status told) →
          ∃ s ∈ sources, ∃ e, s.Bad d e) := by
  intro sources
  have hreads : ∀ c, (pl.run d p).state = .ok c →
      c.sources = sources ∧ Reads d sources c.documents c.errors := by
    intro c hc
    obtain ⟨hsources, hreads⟩ := Pipeline.reads_run hpl hc
    rw [hsources] at hreads
    exact ⟨hsources, hreads⟩
  have hfault : ∀ c, (pl.run d p).state = .ok c → (∃ s ∈ sources, ∃ e, s.Bad d e) →
      pl.compile d p = .error (.badFiles c.errors c.status c.diagnostics) := by
    intro c hc hbad
    rw [Pipeline.compile_of_run hc]
    exact Compilation.finish_of_errors ((hreads c hc).2.errors_ne_nil_iff.mpr hbad)
  refine ⟨?_, ?_, ?_⟩
  · intro hbad
    rcases hstate : (pl.run d p).state with reason | c
    · exact ⟨_, fun gs r => Cycle.run_of_fault gs r (Pipeline.compile_of_stopped hstate)⟩
    · exact ⟨_, fun gs r => Cycle.run_of_fault gs r (hfault c hstate hbad)⟩
  · intro c hc
    obtain ⟨hsources, hread⟩ := hreads c hc
    refine ⟨hsources, hread, hread.length_eq, fun hbad gs r => ?_⟩
    exact (Cycle.run_of_fault gs r (hfault c hc hbad)).1
  · intro gs r errors status told hrun
    rcases hcompile : pl.compile d p with fault | compiled
    · rw [(Cycle.run_of_fault gs r hcompile).1] at hrun
      cases hrun
      rcases hstate : (pl.run d p).state with reason | c
      · rw [Pipeline.compile_of_stopped hstate] at hcompile
        cases hcompile
      · rw [Pipeline.compile_of_run hstate] at hcompile
        exact (hreads c hstate).2.errors_ne_nil_iff.mp
          (Compilation.errors_ne_nil_of_badFiles hcompile)
    · obtain ⟨⟨report, hreport⟩, -⟩ := Cycle.run_of_compiled gs r hcompile
      rw [hreport] at hrun
      cases hrun

/-- One file that is no text and one that is empty, in a pipeline that drops the application. -/
theorem cycle_of_unreadable_file :
    let d : Disk := { nodes := [(["app"], .directory), (["app", "src"], .directory),
      (["app", "src", "flows"], .directory),
      (["app", "src", "flows", "a.flow"], .file ⟨#[255]⟩ false),
      (["app", "src", "flows", "b.flow"], .file ⟨#[]⟩ false)] }
    let p : Project := ⟨"/app", { name := "app" }⟩
    let pl : Pipeline :=
      { plugins := [{ name := "lint", after := fun _ => [.tell .warning "old", .dropApplication] }]
        added := [("count", [.tell .error "none"])] }
    pl.Keeps Compilation.files ∧ ∃ c, (pl.run d p).state = .ok c ∧
      c.sources = [⟨"/app/src/flows/a.flow", .flow⟩, ⟨"/app/src/flows/b.flow", .flow⟩] ∧
      c.documents.length + c.errors.length = 2 ∧ ∀ (gs : Registry) (r : Request),
        Cycle.run pl gs d p r = (.error (.badFiles c.errors c.status c.diagnostics), d) := by
  intro d p pl
  have hkeeps : pl.Keeps Compilation.files := by
    refine Pipeline.keeps_files (fun q hq phase => ?_) (fun e he => ?_)
    · rw [List.mem_singleton.mp hq]
      simp [Action.Plain]
    · rw [List.mem_singleton.mp he]
      simp [Action.Plain]
  have hchildren : d.children ["app", "src", "flows"] =
      [("a.flow", .file ⟨#[255]⟩ false), ("b.flow", .file ⟨#[]⟩ false)] :=
    List.mergeSort_of_pairwise (by decide)
  have hfound : Discovery.run d p.flowsDir =
      .found [⟨"/app/src/flows/a.flow", .flow⟩, ⟨"/app/src/flows/b.flow", .flow⟩] := by
    have hlisted : Discovery.listedAs? p.flowsDir = some "/app/src/flows" := by decide +kernel
    have hfind : d.find p.flowsDir = .ok (["app", "src", "flows"], .directory) := by
      decide +kernel
    rw [Discovery.run_of_readable hfind hlisted rfl, hchildren]
    exact congrArg Discovery.found (List.mergeSort_of_pairwise (by decide +kernel))
  obtain ⟨-, hrun, -⟩ := cycle_of_bad_file hkeeps d p
  have htotal : pl.Total := by
    refine ⟨fun q hq phase c => ?_, fun q hq phase c => ?_, fun e he c => ?_⟩
    · exact List.mem_singleton.mp hq ▸ ⟨_, rfl⟩
    · exact List.mem_singleton.mp hq ▸ ⟨_, rfl⟩
    · exact List.mem_singleton.mp he ▸ ⟨_, rfl⟩
  have hreadable : ∀ reason, Discovery.run d p.flowsDir ≠ .unreadable reason := by simp [hfound]
  obtain ⟨c, hc⟩ := Pipeline.exists_run (hkeeps.comp Files.project) htotal hreadable
  obtain ⟨hsources, -, hlength, hfault⟩ := hrun c hc
  simp only [hfound, Discovery.sources] at hsources hlength hfault
  have hread : d.readText "/app/src/flows/a.flow" = .error .notText := by decide +kernel
  exact ⟨hkeeps, c, hc, hsources, hlength.symm,
    hfault ⟨_, List.mem_cons_self, _, .unreadable hread⟩⟩

/-! ## Diagnostics and the gate -/

namespace Compilation

theorem application_parse (d : Disk) (c : Compilation) : (c.parse d).application = c.application := by
  have hrun : ∀ (ss : List Source) (c : Compilation),
      (ss.foldl (parseSource d) c).application = c.application := by
    intro ss
    induction ss with
    | nil => exact fun _ => rfl
    | cons s ss ih =>
      intro c
      rw [List.foldl_cons, ih, parseSource]
      split <;> rfl
  exact hrun c.sources c

/-- What decides whether there is a result: the files and whether there is an application. -/
def gate (c : Compilation) : Files × Bool := (c.files, c.application.isSome)

/-- Merging makes an application unless there are errors, and no other phase makes one. -/
def gateAfter (d : Disk) (b : BuiltinPhase) (x : Files × Bool) : Files × Bool :=
  (x.1.after d b, if b = .merge then x.2 || x.1.errors.isEmpty else x.2)

theorem application_discover {d : Disk} {c c' : Compilation} (h : c.discover d = .ok c') :
    c'.application = c.application := by
  obtain ⟨told, -, rfl⟩ := discover_eq_ok h
  rfl

theorem gate_runBuiltin {d : Disk} (b : BuiltinPhase) (c c' : Compilation)
    (hrun : c.runBuiltin d b = .ok c') : c'.gate = gateAfter d b c.gate := by
  refine Prod.ext (Files.files_runBuiltin b c c' hrun) ?_
  unfold gateAfter
  cases b with
  | discover => exact congrArg Option.isSome (application_discover hrun)
  | parse =>
    cases hrun
    exact congrArg Option.isSome (application_parse d c)
  | merge =>
    cases hrun
    simp only [merge, gate, files]
    split <;> rename_i h <;> simp [h, report]
  | synthesize =>
    cases hrun
    simp only [synthesize, gate]
    split <;> rename_i h <;> simp [h, report]

end Compilation

/-- Telling changes nothing that does not look at what was told. -/
theorem Action.keeps_of_tells {α : Type} {view : Compilation → α} {a : Action}
    (hview : ∀ c t, view (c.note t) = view c)
    (ha : ∀ e ∈ a, ∃ severity message, e = .tell severity message) (phase : String) :
    a.Keeps view phase := by
  refine Action.keeps_of_effects _ fun e he c c' h => ?_
  obtain ⟨severity, message, rfl⟩ := ha e he
  cases h
  exact hview c _

/-- When nothing but diagnostics is added, there is an application unless there are errors. -/
theorem Pipeline.application_run {pl : Pipeline} {d : Disk} {p : Project} {c : Compilation}
    (hpl : pl.Keeps Compilation.gate) (h : (pl.run d p).state = .ok c) :
    c.application.isSome = c.errors.isEmpty := by
  have hgate := view_run hpl Compilation.gate_runBuiltin h
  have happ := congrArg Prod.snd hgate
  have herrors := congrArg (fun x => x.1.errors.isEmpty) hgate
  refine happ.trans (Eq.trans ?_ herrors.symm)
  simp [BuiltinPhase.all, Compilation.gateAfter, Files.after, Compilation.gate,
    Compilation.ofProject]

section Stopping

variable {pl : Pipeline} {d : Disk} {p : Project} {c : Compilation}

theorem Cycle.calls_of_finish (hrun : (pl.run d p).state = .ok c) {compiled : Compiled}
    (hfinish : c.finish = .ok compiled) (gs : Registry) (r : Request) :
    (∃ report, (Cycle.run pl gs d p r).1 = .ok report) ∧
      (Cycle.run pl gs d p r).2 = Call.diskAfter d (Cycle.calls pl gs d p r) ∧
      (c.sources ≠ [] → (Cycle.calls pl gs d p r).map (·.generator.contract) =
        r.target.contracts.filter fun k => (gs.generator? k).isSome) := by
  have hcompile := (Pipeline.compile_of_run hrun).trans hfinish
  have hsources := Compilation.sources_of_finish hfinish
  obtain ⟨hreport, hcalls⟩ := Cycle.run_of_compiled gs r hcompile
  exact ⟨hreport, Cycle.disk_run pl gs d p r, fun h => hcalls (hsources ▸ h)⟩

/-- When nothing but diagnostics is added, there is a result unless a file is bad. -/
theorem Pipeline.finish_run (hpl : pl.Keeps Compilation.gate) (hrun : (pl.run d p).state = .ok c) :
    (∃ fault, c.finish = .error fault) ↔
      ∃ s ∈ (Discovery.run d p.flowsDir).sources, ∃ e, s.Bad d e := by
  obtain ⟨hsources, hreads⟩ := reads_run (hpl.comp Prod.fst) hrun
  have happ := application_run hpl hrun
  rw [c.finish_eq_error_iff, ← hsources, ← hreads.errors_ne_nil_iff]
  refine ⟨fun h => h.elim id fun hnone hnil => ?_, .inl⟩
  rw [hnone, hnil] at happ
  cases happ

/-- Once all phases have run, whatever was told, the cycle stops if and only if there are errors or
there is no application; where nothing but diagnostics was added, if and only if a discovered file
is bad. A cycle that does not stop calls each generator of its target, unless no file was found, and
leaves the disk that these calls leave. -/
theorem cycle_stops_iff (hrun : (pl.run d p).state = .ok c) :
    let stops := ∃ fault, c.finish = .error fault ∧ ∀ (gs : Registry) (r : Request),
      Cycle.run pl gs d p r = (.error fault, d) ∧ Cycle.calls pl gs d p r = []
    (stops ↔ c.errors ≠ [] ∨ c.application = none) ∧
      (pl.Keeps Compilation.gate →
        (stops ↔ ∃ s ∈ (Discovery.run d p.flowsDir).sources, ∃ e, s.Bad d e)) ∧
      (¬ stops → (∃ compiled, c.finish = .ok compiled) ∧ ∀ (gs : Registry) (r : Request),
        (∃ report, (Cycle.run pl gs d p r).1 = .ok report) ∧
        (Cycle.run pl gs d p r).2 = Call.diskAfter d (Cycle.calls pl gs d p r) ∧
        (c.sources ≠ [] → (Cycle.calls pl gs d p r).map (·.generator.contract) =
          r.target.contracts.filter fun k => (gs.generator? k).isSome)) := by
  intro stops
  have hstops : stops ↔ ∃ fault, c.finish = .error fault := by
    refine ⟨fun ⟨fault, h, _⟩ => ⟨fault, h⟩, fun ⟨fault, h⟩ => ⟨fault, h, fun gs r => ?_⟩⟩
    exact Cycle.run_of_fault gs r ((Pipeline.compile_of_run hrun).trans h)
  refine ⟨hstops.trans c.finish_eq_error_iff, ?_, ?_⟩
  · intro hpl
    exact hstops.trans (Pipeline.finish_run hpl hrun)
  · intro hgoes
    rcases hfinish : c.finish with fault | compiled
    · exact absurd (hstops.mpr ⟨fault, hfinish⟩) hgoes
    · exact ⟨⟨compiled, rfl⟩, Cycle.calls_of_finish hrun hfinish⟩

end Stopping

/-- Without its application a compilation has no result. -/
theorem cycle_of_dropped_application :
    let p : Project := ⟨"/app", { name := "app" }⟩
    let pl : Pipeline := { plugins := [{ name := "lint", after := fun _ => [.dropApplication] }] }
    ∃ c, (pl.run {} p).state = .ok c ∧ ∃ fault, c.finish = .error fault ∧
      ∀ (gs : Registry) (r : Request),
        Cycle.run pl gs {} p r = (.error fault, {}) ∧ Cycle.calls pl gs {} p r = [] := by
  intro p pl
  have hplain : ∀ q ∈ pl.plugins, ∀ phase, (q.before phase).Plain ∧ (q.after phase).Plain := by
    intro q hq phase
    rw [List.mem_singleton.mp hq]
    simp [Action.Plain]
  have hkeeps : pl.Keeps Compilation.files := Pipeline.keeps_files hplain (fun _ he => nomatch he)
  have htotal : pl.Total := by
    refine ⟨fun q hq phase c => ?_, fun q hq phase c => ?_, fun _ he => nomatch he⟩
    · exact List.mem_singleton.mp hq ▸ ⟨_, rfl⟩
    · exact List.mem_singleton.mp hq ▸ ⟨_, rfl⟩
  have habsent : Discovery.run {} p.flowsDir = .absent := by decide +kernel
  have hreadable : ∀ reason, Discovery.run {} p.flowsDir ≠ .unreadable reason := by simp [habsent]
  obtain ⟨c, hc⟩ := Pipeline.exists_run (hkeeps.comp Files.project) htotal hreadable
  obtain ⟨c₁, hact⟩ := Pipeline.act_of_state pl.turns.dropLast rfl hc
  have hnone : c.application = none := by
    cases hact
    rfl
  exact ⟨c, hc, (cycle_stops_iff hc).1.mpr (.inr hnone)⟩

/-- A plugin tells an error after the last phase, and all generators are called nevertheless. -/
theorem cycle_of_told_error :
    let d : Disk := { nodes := [(["app"], .directory), (["app", "src"], .directory),
      (["app", "src", "flows"], .directory),
      (["app", "src", "flows", "todo.flow"], .file ⟨#[]⟩ false)] }
    let p : Project := ⟨"/app", { name := "app" }⟩
    let pl : Pipeline :=
      { plugins := [{
          name := "lint"
          after := fun phase => if phase = "synthesize" then [.tell .error "boom"] else [] }] }
    ∃ c, (pl.run d p).state = .ok c ∧ (∃ t ∈ c.diagnostics, t.severity = .error) ∧
      (∃ compiled, c.finish = .ok compiled) ∧
      (∃ report, (Cycle.run pl Inventory.registry d p {}).1 = .ok report) ∧
      (Cycle.calls pl Inventory.registry d p {}).map (·.generator.contract) = Contract.all := by
  intro d p pl
  have hkeeps : pl.Keeps Compilation.gate := by
    refine ⟨?_, ?_, fun e he => by cases he⟩
    · intro q hq phase
      rw [List.mem_singleton.mp hq]
      exact Action.keeps_of_tells (fun _ _ => rfl) (by simp) phase
    · intro q hq phase
      rw [List.mem_singleton.mp hq]
      refine Action.keeps_of_tells (fun _ _ => rfl) ?_ phase
      simp only
      split <;> simp
  have hfound : Discovery.run d p.flowsDir = .found [⟨"/app/src/flows/todo.flow", .flow⟩] := by
    decide +kernel
  have hgood : ¬ ∃ s ∈ (Discovery.run d p.flowsDir).sources, ∃ e, s.Bad d e := by
    simp only [hfound, Discovery.sources]
    rintro ⟨s, hs, e, hbad⟩
    rw [List.mem_singleton.mp hs] at hbad
    have hread : d.readText "/app/src/flows/todo.flow" = .ok "" := by decide +kernel
    exact hbad.not_holds _ (Source.holds_of_empty hread)
  have htotal : pl.Total := by
    refine ⟨fun q hq phase c => ?_, fun q hq phase c => ?_, fun _ he => nomatch he⟩
    · exact List.mem_singleton.mp hq ▸ ⟨_, rfl⟩
    · rw [List.mem_singleton.mp hq]
      simp only
      split <;> exact ⟨_, rfl⟩
  have hreadable : ∀ reason, Discovery.run d p.flowsDir ≠ .unreadable reason := by simp [hfound]
  obtain ⟨c, hc⟩ := Pipeline.exists_run (hkeeps.comp fun x => x.1.project) htotal hreadable
  -- the plugin has the last turn
  obtain ⟨c₁, hact⟩ := Pipeline.act_of_state pl.turns.dropLast rfl hc
  have htold : ∃ t ∈ c.diagnostics, t.severity = .error := by
    cases hact
    exact ⟨_, List.mem_append_right _ List.mem_cons_self, rfl⟩
  obtain ⟨hsources, -⟩ := Pipeline.reads_run (hkeeps.comp Prod.fst) hc
  rcases hfinish : c.finish with fault | compiled
  · exact absurd ((Pipeline.finish_run hkeeps hc).mp ⟨fault, hfinish⟩) hgood
  · obtain ⟨hreport, -, hcalls⟩ := Cycle.calls_of_finish hc hfinish Inventory.registry {}
    simp only [hsources, hfound, Discovery.sources] at hcalls
    refine ⟨c, hc, htold, ⟨compiled, hfinish⟩, hreport, ?_⟩
    rw [hcalls (List.cons_ne_nil _ _)]
    decide

end AppSpec
