import AppSpec.Proofs.Dispatch
import AppSpec.Proofs.GenerationGate

/-!
# The status of a cycle

Every stage adds its lines behind those of the stages before it: discovery one, parsing one for each
file (`Compilation.status_parse`), merging and synthesis one each, and generation one for each contract
(`Cycle.status_generate`). So the status that a cycle ends with tells of every stage that it came to, of
every file and of every contract, and of nothing else (`status_of_cycle`).
-/

namespace AppSpec

/-- The line of a discovered file: it was read, or why it is bad. -/
inductive ParseLine (d : Disk) (root : String) (s : Source) : Status → Prop
  | good {doc : Document} (hdoc : s.Holds d doc) :
    ParseLine d root s ⟨.parse, FilePath.display s.path root, .ok⟩
  | bad {e : SpecError} (hbad : s.Bad d e) :
    ParseLine d root s
      ⟨.parse, FilePath.display s.path root, .failed (e.cause?.getD e.message)⟩

/-- The line of a file says that it failed if and only if the file is bad. -/
theorem ParseLine.isFailed_iff {d : Disk} {root : String} {s : Source} {line : Status}
    (h : ParseLine d root s line) : line.result.isFailed = true ↔ ∃ e, s.Bad d e := by
  cases h with
  | good hdoc => exact ⟨fun h => Bool.noConfusion h, fun ⟨e, hbad⟩ => absurd hdoc (hbad.not_holds _)⟩
  | bad hbad => exact ⟨fun _ => ⟨_, hbad⟩, fun _ => rfl⟩

/-- The line of a contract says that it failed if and only if the contract was not fulfilled. -/
theorem Outcome.isFailed_status (o : Outcome) : o.status.result.isFailed = !o.isOk := by
  unfold status isOk
  rcases o.result with fault | files <;> rfl

namespace Compilation

/-- The line of what was discovered in the flows directory of a project. -/
def discoverLine (p : Project) (found : List Source) : Status :=
  let subject := FilePath.display p.flowsDir p.root
  if found = [] then ⟨.discover, subject, .skipped noSources⟩
  else ⟨.discover, subject ++ " (" ++ toString found.length ++ " files)", .ok⟩

theorem status_discover {d : Disk} {c c' : Compilation} (h : c.discover d = .ok c') : c'.status =
    c.status ++ [discoverLine c.project (Discovery.run d c.project.flowsDir).sources] := by
  obtain ⟨told, -, rfl⟩ := discover_eq_ok h
  simp only [withSources, discoverLine, List.isEmpty_iff]
  rfl

theorem status_parseSource (d : Disk) (c : Compilation) (s : Source) :
    ∃ line, ParseLine d c.project.root s line ∧ (c.parseSource d s).status = c.status ++ [line] := by
  rcases s.read_spec d with ⟨doc, hread, hdoc⟩ | ⟨e, hread, hbad⟩
  · refine ⟨_, .good hdoc, ?_⟩
    simp only [parseSource, hread, report, displayed]
  · refine ⟨_, .bad hbad, ?_⟩
    simp only [parseSource, hread, report, note, displayed]

theorem project_parseSource (d : Disk) (c : Compilation) (s : Source) :
    (c.parseSource d s).project = c.project := by
  unfold parseSource
  rcases s.read d with e | doc <;> rfl

theorem status_foldl_parseSource (d : Disk) : ∀ (ss : List Source) (c : Compilation),
    ∃ lines, List.Forall₂ (ParseLine d c.project.root) ss lines ∧
      (ss.foldl (parseSource d) c).status = c.status ++ lines
  | [], c => ⟨[], .nil, (List.append_nil _).symm⟩
  | s :: ss, c => by
    obtain ⟨line, hline, hstatus⟩ := status_parseSource d c s
    obtain ⟨lines, hlines, hrest⟩ := status_foldl_parseSource d ss (c.parseSource d s)
    rw [project_parseSource] at hlines
    refine ⟨line :: lines, .cons hline hlines, ?_⟩
    rw [List.foldl_cons, hrest, hstatus, List.append_assoc, List.singleton_append]

/-- Parsing adds a line for each file, in order. -/
theorem status_parse (d : Disk) (c : Compilation) :
    ∃ lines, List.Forall₂ (ParseLine d c.project.root) c.sources lines ∧
      (c.parse d).status = c.status ++ lines :=
  status_foldl_parseSource d c.sources c

/-- The lines of the stages behind parsing when there are errors. -/
def skippedLines (errors : List SpecError) : List Status :=
  [⟨.merge, "ir", .skipped (toString errors.length ++ " file(s) failed to parse")⟩,
    ⟨.synthesize, "default pages", .skipped "no IR"⟩]

/-- The lines of the stages behind parsing when there are no errors. -/
def madeLines (documents : Nat) (s : Synthesis) : List Status :=
  [⟨.merge, toString documents ++ " document(s)", .ok⟩,
    ⟨.synthesize, toString s.inserted.length ++ " default page(s)", .ok⟩]

/-- With errors and no application the last two stages are skipped, and there is no result. -/
theorem finish_of_skipped {c : Compilation} (herrors : c.errors ≠ [])
    (happ : c.application = none) : c.merge.synthesize.finish =
      .error (.badFiles c.errors (c.status ++ skippedLines c.errors) c.diagnostics) := by
  have hmerge : c.merge = c.report
      ⟨.merge, "ir", .skipped (toString c.errors.length ++ " file(s) failed to parse")⟩ := by
    rw [merge, if_neg (by simpa using herrors)]
  have hsynthesize : c.merge.synthesize =
      c.merge.report ⟨.synthesize, "default pages", .skipped "no IR"⟩ := by
    have hnone : c.merge.application = none := by
      rw [hmerge]
      exact happ
    simp only [synthesize, hnone]
  have herrors' : c.merge.synthesize.errors ≠ [] := by
    rw [hsynthesize, hmerge]
    exact herrors
  rw [finish_of_errors herrors', hsynthesize, hmerge]
  simp only [report, skippedLines, List.append_assoc, List.singleton_append]

/-- Without errors the last two stages are done, and there is a result. -/
theorem finish_of_made {c : Compilation} (herrors : c.errors = []) :
    ∃ compiled, c.merge.synthesize.finish = .ok compiled ∧ compiled.sources = c.sources ∧
      compiled.status = c.status ++ madeLines c.documents.length compiled.synthesis := by
  unfold merge
  rw [herrors]
  refine ⟨_, rfl, rfl, ?_⟩
  simp [synthesize, madeLines]

/-- Discovery and parsing read all files, and so far no application is made. -/
theorem read_files {d : Disk} {p : Project} {c₁ : Compilation}
    (h : (ofProject p).discover d = .ok c₁) :
    let found := (Discovery.run d p.flowsDir).sources
    let c := c₁.parse d
    ∃ lines, List.Forall₂ (ParseLine d p.root) found lines ∧
      c.status = discoverLine p found :: lines ∧ c.sources = found ∧
      Reads d found c.documents c.errors ∧ c.application = none := by
  intro found c
  have hdiscovered : c₁.files = ⟨p, found, [], []⟩ := Files.files_discover h
  have hsources : c₁.sources = found := congrArg Files.sources hdiscovered
  have hproject : c₁.project = p := congrArg Files.project hdiscovered
  obtain ⟨lines, hlines, hstatus⟩ := status_parse d c₁
  rw [hsources, hproject] at hlines
  have hfiles : c.files = found.foldl (Files.takeIn d) ⟨p, found, [], []⟩ := by
    have hparse := Files.files_parse d c₁
    rwa [hdiscovered] at hparse
  obtain ⟨hfound, hreads⟩ := Files.reads_of_files hfiles
  refine ⟨lines, hlines, ?_, hfound, hreads, ?_⟩
  · rw [hstatus, status_discover h]
    rfl
  · rw [application_parse, application_discover h]
    rfl

end Compilation

/-- Generation adds a line for each contract of the target, in order, or a single one if there are no
sources. -/
theorem Cycle.status_generate (gs : Registry) (d : Disk) (p : Project) (c : Compiled)
    (r : Request) :
    let report := (generate gs d p c r).1
    report.synthesis = c.synthesis ∧ ∃ lines, report.status = c.status ++ lines ∧
      (c.sources = [] → report.outcomes = [] ∧
        lines = [⟨.generate, r.target.name, .skipped Compilation.noSources⟩]) ∧
      (c.sources ≠ [] → report.outcomes.map Outcome.contract = r.target.contracts ∧
        lines = report.outcomes.map Outcome.status) := by
  unfold generate
  rcases hsources : c.sources with _ | ⟨s, ss⟩
  · exact ⟨rfl, _, rfl, fun _ => ⟨rfl, rfl⟩, fun h => absurd rfl h⟩
  · refine ⟨rfl, _, rfl, fun h => absurd h (List.cons_ne_nil s ss), fun _ => ⟨?_, rfl⟩⟩
    exact gs.contracts_fulfilAll p c.application r.environment r.target.contracts d

/-- The status of a cycle without plugins and added phases: a line of discovery, one for each file in
the order of discovery, failed for the bad files, one of merging and one of synthesis. If no file is
bad there follow the lines of the contracts in order, failed for those that were not fulfilled, or a
single line that is skipped if there are no files. If one is bad, merging and synthesis are skipped, and
there is no further line. Where the flows directory cannot be read the cycle ends before any of this. -/
theorem status_of_cycle (gs : Registry) (d : Disk) (p : Project) (r : Request) :
    let found := (Discovery.run d p.flowsDir).sources
    (∀ reason, Discovery.run d p.flowsDir = .unreadable reason →
        (Cycle.run {} gs d p r).1 = .error (.stopped reason)) ∧
      ((∀ reason, Discovery.run d p.flowsDir ≠ .unreadable reason) → ∃ parsed,
        List.Forall₂ (ParseLine d p.root) found parsed ∧
        (∀ s line, ParseLine d p.root s line →
          (line.result.isFailed = true ↔ ∃ e, s.Bad d e)) ∧
        ((¬ ∃ s ∈ found, ∃ e, s.Bad d e) →
          ∃ report generated, (Cycle.run {} gs d p r).1 = .ok report ∧
            report.status = Compilation.discoverLine p found :: parsed ++
              Compilation.madeLines found.length report.synthesis ++ generated ∧
            (found = [] → report.outcomes = [] ∧
              generated = [⟨.generate, r.target.name, .skipped Compilation.noSources⟩]) ∧
            (found ≠ [] → report.outcomes.map Outcome.contract = r.target.contracts ∧
              generated = report.outcomes.map Outcome.status ∧
              ∀ o ∈ report.outcomes, o.status.result.isFailed = !o.isOk)) ∧
        ((∃ s ∈ found, ∃ e, s.Bad d e) →
          ∃ docs errors diagnostics, Reads d found docs errors ∧
            (Cycle.run {} gs d p r).1 = .error (.badFiles errors
              (Compilation.discoverLine p found :: parsed ++ Compilation.skippedLines errors)
              diagnostics))) := by
  intro found
  constructor
  · intro reason h
    have hcompile := Pipeline.compile_of_stopped (Pipeline.state_of_unreadable h)
    rw [(Cycle.run_of_fault gs r hcompile).1]
  · intro hreadable
    obtain ⟨c₁, hc₁⟩ := Compilation.exists_discover (c := .ofProject p) hreadable
    obtain ⟨parsed, hparsed, hstatus, hsources, hreads, happ⟩ := Compilation.read_files hc₁
    let c := c₁.parse d
    have hcompile : ({} : Pipeline).compile d p = c.merge.synthesize.finish :=
      Pipeline.compile_of_run (Pipeline.state_of_discover hc₁)
    refine ⟨parsed, hparsed, fun s line => ParseLine.isFailed_iff, fun hgood => ?_, fun hbad => ?_⟩
    · have herrors : c.errors = [] := by
        by_contra h
        exact hgood (hreads.errors_ne_nil_iff.mp h)
      obtain ⟨compiled, hfinish, hsources', hstatus'⟩ := Compilation.finish_of_made herrors
      obtain ⟨hsynthesis, generated, hgenerated, hnone, hall⟩ :=
        Cycle.status_generate gs d p compiled r
      have hfound : compiled.sources = found := hsources'.trans hsources
      have hlength : c.documents.length = found.length := by
        have hlength := hreads.length_eq
        rw [herrors] at hlength
        exact hlength.symm
      rw [hfound] at hnone hall
      refine ⟨_, generated, ?_, ?_, hnone, fun h => ?_⟩
      · simp only [Cycle.run, hcompile, hfinish]
      · rw [hgenerated, hsynthesis, hstatus', hstatus, hlength]
      · exact ⟨(hall h).1, (hall h).2, fun o _ => o.isFailed_status⟩
    · have herrors : c.errors ≠ [] := hreads.errors_ne_nil_iff.mpr hbad
      refine ⟨c.documents, c.errors, c.diagnostics, hreads, ?_⟩
      rw [Compilation.finish_of_skipped herrors happ, hstatus] at hcompile
      rw [(Cycle.run_of_fault gs r hcompile).1]

end AppSpec
