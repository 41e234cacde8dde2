import Mathlib
import AppSpec.CommandLine.Program
import AppSpec.Proofs.OutputUnseen
import AppSpec.Proofs.StatusLedger

/-!
# Checks and builds

A build is a check whose result the generators go on with (`Project.build_eq`), so it is refused for
the same fault, and what it reports is what the check found out, behind which generation adds its
lines. An error is told only where a file is bad (`Compilation.isValid_runBuiltin`), so a check that
has a result ends well. A build ends well if every contract of its target was fulfilled, or if there
was nothing to build (`CommandLine.exit_of_check_and_build`).
-/

namespace AppSpec

/-- What is no error leaves a check as valid as it was. -/
theorem Report.isValid_append {ds ds' : List Diagnostic} (h : ∀ t ∈ ds', t.severity ≠ .error) :
    isValid (ds ++ ds') = isValid ds := by
  have htold : isValid ds' = true := by simpa [isValid] using h
  rw [isValid] at htold ⊢
  rw [List.all_append, htold, Bool.and_true]
  rfl

namespace Compilation

theorem isValid_parseSource (d : Disk) {c : Compilation} (s : Source)
    (h : Report.isValid c.diagnostics = c.errors.isEmpty) :
    Report.isValid (c.parseSource d s).diagnostics = (c.parseSource d s).errors.isEmpty := by
  unfold parseSource
  rcases s.read d with e | doc
  · simp [report, note, Report.isValid]
  · exact h

/-- An error is told if and only if a file is bad. -/
theorem isValid_runBuiltin {d : Disk} {b : BuiltinPhase} {c c' : Compilation}
    (hrun : c.runBuiltin d b = .ok c') (h : Report.isValid c.diagnostics = c.errors.isEmpty) :
    Report.isValid c'.diagnostics = c'.errors.isEmpty := by
  cases b with
  | discover =>
    obtain ⟨told, htold, rfl⟩ := discover_eq_ok hrun
    exact (Report.isValid_append fun t ht => by simp [htold t ht]).trans h
  | parse =>
    cases hrun
    have hrun : ∀ (ss : List Source) (c : Compilation),
        Report.isValid c.diagnostics = c.errors.isEmpty →
        Report.isValid (ss.foldl (parseSource d) c).diagnostics =
          (ss.foldl (parseSource d) c).errors.isEmpty := by
      intro ss
      induction ss with
      | nil => exact fun _ h => h
      | cons s ss ih => exact fun c h => ih _ (isValid_parseSource d s h)
    exact hrun c.sources c h
  | merge =>
    cases hrun
    unfold merge
    split
    · refine (Report.isValid_append fun t ht => ?_).trans h
      rcases List.mem_append.mp ht with ht | ht
      · obtain ⟨conflict, -, rfl⟩ := List.mem_map.mp ht
        exact Severity.noConfusion
      · obtain ⟨notice, -, rfl⟩ := List.mem_map.mp ht
        exact Severity.noConfusion
    · exact h
  | synthesize =>
    cases hrun
    unfold synthesize
    split
    · exact h
    · refine (Report.isValid_append fun t ht => ?_).trans h
      obtain ⟨path, -, rfl⟩ := List.mem_map.mp ht
      exact Severity.noConfusion

end Compilation

/-- The configuration of a project that has only a name. -/
theorem Config.parse_name :
    Config.parse "[project]\nname = \"app\"\n" = .ok { name := "app" } := by
  cbv

namespace Project

variable {p : Project} {d : Disk} {c : Compiled}

/-- A check has the fault of discovery, or goes through the stages behind it. -/
theorem check_cases (p : Project) (d : Disk) :
    (∃ reason, Discovery.run d p.flowsDir = .unreadable reason ∧
      p.check d = .error (.stopped reason)) ∨
    ∃ c, (Compilation.ofProject p).discover d = .ok c ∧
      p.check d = (c.parse d).merge.synthesize.finish := by
  rcases hdiscover : (Compilation.ofProject p).discover d with reason | c
  · have hunreadable := Compilation.discover_eq_error_iff.mp hdiscover
    exact .inl ⟨reason, hunreadable,
      Pipeline.compile_of_stopped (Pipeline.state_of_unreadable hunreadable)⟩
  · exact .inr ⟨c, rfl, Pipeline.compile_of_run (Pipeline.state_of_discover hdiscover)⟩

/-- A check that has a result tells no error. -/
theorem isValid_of_check (h : p.check d = .ok c) : Report.isValid c.diagnostics = true := by
  rcases check_cases p d with ⟨reason, -, hcheck⟩ | ⟨c₁, hdiscover, hcheck⟩
  · rw [h] at hcheck
    cases hcheck
  · have hrun {b : BuiltinPhase} {c c' : Compilation} (h : c.runBuiltin d b = .ok c') :=
      Compilation.isValid_runBuiltin h
    have hdiscovered := hrun (b := .discover) hdiscover rfl
    have hparsed := hrun (b := .parse) (c := c₁) rfl hdiscovered
    have hmerged := hrun (b := .merge) (c := c₁.parse d) rfl hparsed
    have hmade := hrun (b := .synthesize) (c := (c₁.parse d).merge) rfl hmerged
    obtain ⟨herrors, a, -, rfl⟩ := Compilation.finish_eq_ok_iff.mp (hcheck.symm.trans h)
    rw [herrors] at hmade
    exact hmade

theorem load_of_readText {root text : String} {config : Config}
    (hread : d.readText (configPath root) = .ok text) (hparse : Config.parse text = .ok config) :
    load d root = .ok ⟨root, config⟩ := by
  simp only [load, hread, hparse]

theorem sources_of_check (h : p.check d = .ok c) :
    c.sources = (Discovery.run d p.flowsDir).sources :=
  (Pipeline.reads_of_compile Pipeline.Keeps.empty h).1

/-- A check has a result unless the flows directory cannot be read or a file is bad. -/
theorem exists_check_iff (p : Project) (d : Disk) : (∃ c, p.check d = .ok c) ↔
    (∀ reason, Discovery.run d p.flowsDir ≠ .unreadable reason) ∧
      ¬ ∃ s ∈ (Discovery.run d p.flowsDir).sources, ∃ e, s.Bad d e := by
  rcases check_cases p d with ⟨reason, hreason, hcheck⟩ | ⟨c, hdiscover, hcheck⟩
  · rw [hcheck, hreason]
    simp
  · have hread : ∀ reason, Discovery.run d p.flowsDir ≠ .unreadable reason := by
      intro reason hreason
      have hfails := Compilation.discover_eq_error_iff (c := .ofProject p).mpr hreason
      cases hfails.symm.trans hdiscover
    have hstate := Pipeline.state_of_discover hdiscover
    rw [← Pipeline.finish_run Pipeline.Keeps.empty hstate, hcheck]
    rcases (c.parse d).merge.synthesize.finish with fault | compiled
    · simp
    · simp [hread]

/-- A build has the fault of the check, or generation goes on with its result. -/
theorem build_eq (p : Project) (d : Disk) (r : Request) : (p.build d r).1 =
    (p.check d).map fun c => (Cycle.generate Inventory.registry d p c r).1 := by
  unfold build check Cycle.run
  rcases ({} : Pipeline).compile d p with fault | c <;> rfl

theorem build_eq_error_iff (p : Project) (d : Disk) (r : Request) (fault : CompilationFault) :
    (p.build d r).1 = .error fault ↔ p.check d = .error fault := by
  rw [build_eq]
  rcases p.check d with fault' | c
  · simp [Except.map]
  · simp [Except.map]

theorem build_eq_ok_iff (p : Project) (d : Disk) (r : Request) (report : CycleReport) :
    (p.build d r).1 = .ok report ↔ ∃ c, p.check d = .ok c ∧
      report = (Cycle.generate Inventory.registry d p c r).1 := by
  rw [build_eq]
  rcases p.check d with fault | c
  · simp [Except.map]
  · simp [Except.map, eq_comm]

end Project

namespace Cycle

variable (gs : Registry) (d : Disk) (p : Project) (c : Compiled) (r : Request)

/-- The lines behind those of the compilation are about generation: one for each outcome, or a single
one if there are no sources. -/
theorem stage_generate : ∃ lines, (generate gs d p c r).1.status = c.status ++ lines ∧
    (∀ line ∈ lines, line.stage = .generate) ∧
    (c.sources = [] → lines = [⟨.generate, r.target.name, .skipped Compilation.noSources⟩]) ∧
    (c.sources ≠ [] → lines = (generate gs d p c r).1.outcomes.map Outcome.status) := by
  obtain ⟨-, lines, hstatus, hnone, hall⟩ := status_generate gs d p c r
  refine ⟨lines, hstatus, fun line hline => ?_, fun h => (hnone h).2, fun h => (hall h).2⟩
  by_cases hsources : c.sources = []
  · rw [(hnone hsources).2, List.mem_singleton] at hline
    rw [hline]
  · rw [(hall hsources).2] at hline
    obtain ⟨o, -, rfl⟩ := List.mem_map.mp hline
    rfl

/-- Generation succeeds if there is nothing to generate from or every contract of the target is
fulfilled. -/
theorem succeeded_generate_iff :
    let report := (generate gs d p c r).1
    report.succeeded = true ↔ c.sources = [] ∨
      ∀ k ∈ r.target.contracts, ∃ o ∈ report.outcomes, o.contract = k ∧ o.isOk = true := by
  intro report
  obtain ⟨-, lines, -, hnone, hall⟩ := status_generate gs d p c r
  rw [CycleReport.succeeded, List.all_eq_true]
  by_cases hsources : c.sources = []
  · have houtcomes : report.outcomes = [] := (hnone hsources).1
    rw [houtcomes]
    exact ⟨fun _ => .inl hsources, fun _ o ho => nomatch ho⟩
  · have hcontracts : report.outcomes.map Outcome.contract = r.target.contracts :=
      (hall hsources).1
    have hnodup : (report.outcomes.map Outcome.contract).Nodup := by
      rw [hcontracts]
      exact r.target.contracts_sublist.nodup (by decide)
    rw [← hcontracts]
    constructor
    · intro hok
      refine .inr fun k hk => ?_
      obtain ⟨o, ho, rfl⟩ := List.mem_map.mp hk
      exact ⟨o, ho, rfl, hok o ho⟩
    · rintro (h | hfulfilled) o ho
      · exact absurd h hsources
      · obtain ⟨o', ho', hcontract, hok⟩ := hfulfilled o.contract (List.mem_map_of_mem ho)
        rwa [List.inj_on_of_nodup_map hnodup ho' ho hcontract] at hok

/-- Without sources no generator is called, and the disk stays as it is. -/
theorem calls_of_nil {pl : Pipeline} {c : Compiled} (h : pl.compile d p = .ok c)
    (hsources : c.sources = []) : calls pl gs d p r = [] ∧ (run pl gs d p r).2 = d := by
  have hcalls : calls pl gs d p r = [] := by
    simp only [calls, h, hsources, List.isEmpty_nil, if_true]
  refine ⟨hcalls, ?_⟩
  rw [disk_run, hcalls]
  rfl

end Cycle

namespace CommandLine

theorem exit_check_eq_zero_iff (d : Disk) (p : Project) :
    (check d p).exit = 0 ↔ ∃ c, p.check d = .ok c := by
  unfold check
  rcases h : p.check d with fault | c
  · simp [stopped]
  · simp [Project.isValid_of_check h]

theorem disk_check (d : Disk) (p : Project) : (check d p).disk = d := by
  unfold check stopped
  rcases p.check d with fault | c
  · rfl
  · rfl

theorem exit_build_eq_zero_iff (d : Disk) (p : Project) (r : Request) :
    (build d p r false false).exit = 0 ↔
      ∃ report, (p.build d r).1 = .ok report ∧ report.succeeded = true := by
  unfold build buildProject buildOnce
  generalize p.build d r = result
  obtain ⟨fault | report, d'⟩ := result
  · simp
  · simp

theorem disk_build (d : Disk) (p : Project) (r : Request) :
    (build d p r false false).disk = (p.build d r).2 := by
  unfold build buildProject buildOnce
  generalize p.build d r = result
  obtain ⟨fault | report, d'⟩ := result <;> rfl

variable {d : Disk} {root : String} {p : Project} {arguments : List String}

theorem run_of_check (hload : Project.load d root = .ok p)
    (harguments : Command.ofArguments? arguments = .ok (.check root)) :
    run d arguments = check d p := by
  simp only [run, harguments, withProject, hload]

theorem run_of_build {t : Target} {env : Environment} {watching service : Bool}
    (hload : Project.load d root = .ok p)
    (harguments : Command.ofArguments? arguments = .ok (.build root t env watching service)) :
    run d arguments = build d p ⟨t, env⟩ watching service := by
  simp only [run, harguments, withProject, hload]

/-- A check and a build without the service have a result for the same projects and otherwise the
same fault. A build reports what the check has found out, behind which there are only lines of
generation. Without specification files no generator is called, the disk stays as it is and the only
such line says that generation was skipped; else there is an outcome and a line for each contract of the
target. A check leaves the disk alone and ends well if it has a result. A build ends well if it has a
report and there was no specification file or every contract of the target was fulfilled. -/
theorem exit_of_check_and_build {t : Target} {env : Environment}
    {checkArguments buildArguments : List String} (hload : Project.load d root = .ok p)
    (hcheck : Command.ofArguments? checkArguments = .ok (.check root))
    (hbuild : Command.ofArguments? buildArguments = .ok (.build root t env false false)) :
    let checked := p.check d
    let built := (p.build d ⟨t, env⟩).1
    let found := (Discovery.run d p.flowsDir).sources
    ((∃ c, checked = .ok c) ↔ ∃ report, built = .ok report) ∧
      (∀ fault, checked = .error fault ↔ built = .error fault) ∧
      (∀ c report, checked = .ok c → built = .ok report →
        report.diagnostics = c.diagnostics ∧ report.summary = .ofApplication c.application ∧
        report.synthesis = c.synthesis ∧ ∃ lines, report.status = c.status ++ lines ∧
          (∀ line ∈ lines, line.stage = .generate) ∧
          (found = [] → lines = [⟨.generate, t.name, .skipped Compilation.noSources⟩]) ∧
          (found ≠ [] → lines = report.outcomes.map Outcome.status)) ∧
      (∀ report, built = .ok report →
        (found = [] → report.outcomes = [] ∧
          Cycle.calls {} Inventory.registry d p ⟨t, env⟩ = [] ∧ (run d buildArguments).disk = d) ∧
        (found ≠ [] → report.outcomes.map Outcome.contract = t.contracts)) ∧
      (run d checkArguments).disk = d ∧
      ((run d checkArguments).exit = 0 ↔ ∃ c, checked = .ok c) ∧
      ((run d buildArguments).exit = 0 ↔ ∃ report, built = .ok report ∧
        (found = [] ∨
          ∀ k ∈ t.contracts, ∃ o ∈ report.outcomes, o.contract = k ∧ o.isOk = true)) := by
  intro checked built found
  have hreport : ∀ report, built = .ok report ↔ ∃ c, checked = .ok c ∧
      report = (Cycle.generate Inventory.registry d p c ⟨t, env⟩).1 := p.build_eq_ok_iff d _
  have hfound : ∀ {c}, checked = .ok c → c.sources = found := Project.sources_of_check
  refine ⟨⟨?_, ?_⟩, fun fault => (p.build_eq_error_iff d _ fault).symm, ?_, ?_, ?_, ?_, ?_⟩
  · rintro ⟨c, hc⟩
    exact ⟨_, (hreport _).mpr ⟨c, hc, rfl⟩⟩
  · rintro ⟨report, h⟩
    obtain ⟨c, hc, -⟩ := (hreport report).mp h
    exact ⟨c, hc⟩
  · intro c report hc h
    obtain ⟨c', hc', rfl⟩ := (hreport report).mp h
    rw [hc] at hc'
    cases hc'
    rw [← hfound hc]
    exact ⟨rfl, rfl, rfl, Cycle.stage_generate _ d p c _⟩
  · intro report h
    obtain ⟨c, hc, rfl⟩ := (hreport report).mp h
    obtain ⟨-, _, -, hnone, hall⟩ := Cycle.status_generate Inventory.registry d p c ⟨t, env⟩
    rw [← hfound hc]
    refine ⟨fun hsources => ?_, fun hsources => (hall hsources).1⟩
    obtain ⟨hcalls, hdisk⟩ := Cycle.calls_of_nil Inventory.registry d p ⟨t, env⟩ hc hsources
    rw [run_of_build hload hbuild, disk_build]
    exact ⟨(hnone hsources).1, hcalls, hdisk⟩
  · rw [run_of_check hload hcheck]
    exact disk_check d p
  · rw [run_of_check hload hcheck]
    exact exit_check_eq_zero_iff d p
  · rw [run_of_build hload hbuild, exit_build_eq_zero_iff]
    refine exists_congr fun report => and_congr_right fun h => ?_
    obtain ⟨c, hc, rfl⟩ := (hreport report).mp h
    rw [← hfound hc]
    exact Cycle.succeeded_generate_iff Inventory.registry d p c ⟨t, env⟩

/-- A project with one file, which is good. -/
theorem exit_of_check_of_good_file :
    let config : ByteArray := "[project]\nname = \"app\"\n".toUTF8
    let d : Disk := { nodes := [(["app"], .directory), (["app", "flowc.toml"], .file config false),
      (["app", "src"], .directory), (["app", "src", "flows"], .directory),
      (["app", "src", "flows", "todo.flow"], .file ⟨#[]⟩ false)] }
    let p : Project := ⟨"/app", { name := "app" }⟩
    let checkArguments := ["check", "--project", "/app"]
    let buildArguments := ["build", "-p/app", "--target=ios", "--env", "prod", "--no-service"]
    Project.load d "/app" = .ok p ∧
      Command.ofArguments? checkArguments = .ok (.check "/app") ∧
      Command.ofArguments? buildArguments = .ok (.build "/app" .ios .production false false) ∧
      (run d checkArguments).exit = 0 ∧ (run d checkArguments).disk = d ∧
      ∃ report, (p.build d ⟨.ios, .production⟩).1 = .ok report := by
  intro config d p checkArguments buildArguments
  have hload : Project.load d "/app" = .ok p :=
    Project.load_of_readText (by decide +kernel) Config.parse_name
  have hcheckArguments : Command.ofArguments? checkArguments = .ok (.check "/app") := by
    decide +kernel
  have hbuildArguments : Command.ofArguments? buildArguments =
      .ok (.build "/app" .ios .production false false) := by decide +kernel
  have hchildren : d.children ["app", "src", "flows"] = [("todo.flow", .file ⟨#[]⟩ false)] :=
    List.mergeSort_of_pairwise (by decide)
  have hfound : Discovery.run d p.flowsDir = .found [⟨"/app/src/flows/todo.flow", .flow⟩] := by
    have hlisted : Discovery.listedAs? p.flowsDir = some "/app/src/flows" := by decide +kernel
    have hfind : d.find p.flowsDir = .ok (["app", "src", "flows"], .directory) := by
      decide +kernel
    rw [Discovery.run_of_readable hfind hlisted rfl, hchildren]
    decide +kernel
  have hgood : ¬ ∃ s ∈ (Discovery.run d p.flowsDir).sources, ∃ e, s.Bad d e := by
    rw [hfound]
    rintro ⟨s, hs, e, hbad⟩
    rw [List.mem_singleton.mp hs] at hbad
    have hread : d.readText "/app/src/flows/todo.flow" = .ok "" := by decide +kernel
    exact hbad.not_holds _ (Source.holds_of_empty hread)
  have hread : ∀ reason, Discovery.run d p.flowsDir ≠ .unreadable reason := by
    rw [hfound]
    exact fun _ h => by cases h
  have hchecked : ∃ c, p.check d = .ok c := (p.exists_check_iff d).mpr ⟨hread, hgood⟩
  obtain ⟨hiff, -, -, -, hdisk, hexit, -⟩ :=
    exit_of_check_and_build hload hcheckArguments hbuildArguments
  exact ⟨hload, hcheckArguments, hbuildArguments, hexit.mpr hchecked, hdisk, hiff.mp hchecked⟩

/-- Without files a build ends well, and no generator has run. -/
theorem exit_of_build_without_files :
    let config : ByteArray := "[project]\nname = \"app\"\n".toUTF8
    let d : Disk := { nodes := [(["app"], .directory), (["app", "flowc.toml"], .file config false)] }
    let p : Project := ⟨"/app", { name := "app" }⟩
    let arguments := ["build", "--project", "/app", "--no-service"]
    Project.load d "/app" = .ok p ∧
      Command.ofArguments? arguments = .ok (.build "/app" .all .development false false) ∧
      (run d arguments).exit = 0 ∧ ¬ ∃ report, (p.build d {}).1 = .ok report ∧
        ∀ k ∈ Target.all.contracts, ∃ o ∈ report.outcomes, o.contract = k ∧ o.isOk = true := by
  intro config d p arguments
  have hload : Project.load d "/app" = .ok p :=
    Project.load_of_readText (by decide +kernel) Config.parse_name
  have harguments : Command.ofArguments? arguments =
      .ok (.build "/app" .all .development false false) := by decide +kernel
  refine ⟨hload, harguments, ?_, ?_⟩
  · rw [run_of_build hload harguments]
    decide +kernel
  · rintro ⟨report, hreport, hfulfilled⟩
    obtain ⟨c, hc, rfl⟩ := (p.build_eq_ok_iff d {} report).mp hreport
    have hsources : c.sources = [] := (Project.sources_of_check hc).trans (by decide +kernel)
    obtain ⟨-, _, -, hnone, -⟩ := Cycle.status_generate Inventory.registry d p c {}
    obtain ⟨o, ho, -⟩ := hfulfilled .backend (by decide)
    rw [(hnone hsources).1] at ho
    cases ho

end CommandLine

end AppSpec
