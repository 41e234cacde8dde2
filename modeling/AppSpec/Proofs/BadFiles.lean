import AppSpec.Proofs.PipelineRun

/-!
# Good and bad specification files

A specification file holds a document or is bad, and never both (`Source.Bad.not_holds`). A run
whose plugins and added phases leave alone what was found out about the files has read every
discovered file at its end, whatever the files before it held (`Pipeline.reads_run`), and its errors
are one for each bad file in the order of discovery (`Reads`).
-/

namespace AppSpec

namespace Source

/-- The mapping that a text holds; no text and null are an empty one. -/
inductive HoldsMapping (text : String) : Value.Mapping → Prop
  | mapping {body : Value.Mapping} (h : Yaml.read (Document.stripComments text) = .ok (.map body)) :
    HoldsMapping text body
  | null (h : Yaml.read (Document.stripComments text) = .ok .null) : HoldsMapping text []

/-- The file can be read and holds the document. -/
inductive Holds (d : Disk) (s : Source) : Document → Prop
  | document {text : String} {body : Value.Mapping} (hread : d.readText s.path = .ok text)
    (hbody : HoldsMapping text body) : Holds d s ⟨s.dialect, FilePath.stem s.path, s.path, body⟩

/-- The file cannot be read, or its text is malformed, or the text is neither a mapping nor null. -/
inductive Bad (d : Disk) (s : Source) : SpecError → Prop
  | unreadable {cause : DiskFault} (hread : d.readText s.path = .error cause) :
    Bad d s (.unreadable s.path cause)
  | malformed {text : String} {cause : Yaml.ReadError} (hread : d.readText s.path = .ok text)
    (hyaml : Yaml.read (Document.stripComments text) = .error cause) :
    Bad d s (.document s.path (.malformed (Document.spanOf text.toList cause) cause))
  | notAMapping {text : String} {found : Value} (hread : d.readText s.path = .ok text)
    (hyaml : Yaml.read (Document.stripComments text) = .ok found)
    (hmap : ∀ body, found ≠ .map body) (hnull : found ≠ .null) :
    Bad d s (.document s.path (.notAMapping
      ((Document.survivingLines text.toList).head?.map fun l => ⟨l.1, 0⟩) found))

/-- Reading a file tells its document or why it is bad. -/
theorem read_spec (d : Disk) (s : Source) :
    (∃ doc, s.read d = .ok doc ∧ s.Holds d doc) ∨ ∃ e, s.read d = .error e ∧ s.Bad d e := by
  rcases hread : d.readText s.path with cause | text
  · refine .inr ⟨_, ?_, .unreadable hread⟩
    simp only [read, hread]
  · rcases hyaml : Yaml.read (Document.stripComments text) with cause | v
    · refine .inr ⟨_, ?_, .malformed hread hyaml⟩
      simp only [read, hread, Document.parse, Document.parseBody, hyaml]
      rfl
    · have hother : (∀ body, v ≠ .map body) → v ≠ .null → ∃ e, s.read d = .error e ∧ s.Bad d e := by
        intro hmap hnull
        refine ⟨_, ?_, .notAMapping hread hyaml hmap hnull⟩
        simp only [read, hread, Document.parse, Document.parseBody, hyaml]
        cases v with
        | map body => exact absurd rfl (hmap body)
        | null => exact absurd rfl hnull
        | _ => rfl
      cases v with
      | map body =>
        refine .inl ⟨_, ?_, .document hread (.mapping hyaml)⟩
        simp only [read, hread, Document.parse, Document.parseBody, hyaml]
        rfl
      | null =>
        refine .inl ⟨_, ?_, .document hread (.null hyaml)⟩
        simp only [read, hread, Document.parse, Document.parseBody, hyaml]
        rfl
      | _ => exact .inr (hother (by simp) (by simp))

/-- An empty file holds an empty document. -/
theorem holds_of_empty {d : Disk} {s : Source} (h : d.readText s.path = .ok "") :
    s.Holds d ⟨s.dialect, FilePath.stem s.path, s.path, []⟩ := by
  have hnull : (Yaml.read (Document.stripComments "")).toOption.any Value.isNull = true := by
    decide +kernel
  refine .document h (.null ?_)
  rcases hyaml : Yaml.read (Document.stripComments "") with cause | v
  · simp [hyaml, Except.toOption] at hnull
  · cases v with
    | null => rfl
    | _ => simp [hyaml, Except.toOption, Value.isNull] at hnull

/-- A bad file holds no document. -/
theorem Bad.not_holds {d : Disk} {s : Source} {e : SpecError} (h : s.Bad d e) (doc : Document) :
    ¬ s.Holds d doc := by
  rintro ⟨hread', hbody⟩
  cases h with
  | unreadable hread =>
    rw [hread] at hread'
    cases hread'
  | malformed hread hyaml =>
    rw [hread] at hread'
    cases hread'
    cases hbody with
    | mapping h | null h =>
      rw [hyaml] at h
      cases h
  | notAMapping hread hyaml hmap hnull =>
    rw [hread] at hread'
    cases hread'
    cases hbody with
    | mapping h =>
      rw [hyaml] at h
      cases h
      exact hmap _ rfl
    | null h =>
      rw [hyaml] at h
      cases h
      exact hnull rfl

end Source

/-- Each of the files holds a document or is bad; these are the documents and the errors, in the
order of the files. -/
inductive Reads (d : Disk) : List Source → List Document → List SpecError → Prop
  | nil : Reads d [] [] []
  | good {s : Source} {doc : Document} {ss : List Source} {docs : List Document}
    {errors : List SpecError} (hdoc : s.Holds d doc) (hrest : Reads d ss docs errors) :
    Reads d (s :: ss) (doc :: docs) errors
  | bad {s : Source} {e : SpecError} {ss : List Source} {docs : List Document}
    {errors : List SpecError} (hbad : s.Bad d e) (hrest : Reads d ss docs errors) :
    Reads d (s :: ss) docs (e :: errors)

namespace Reads

variable {d : Disk} {ss : List Source} {docs : List Document} {errors : List SpecError}

theorem length_eq (h : Reads d ss docs errors) : ss.length = docs.length + errors.length := by
  induction h with
  | nil => rfl
  | good _ _ ih =>
    simp only [List.length_cons]
    omega
  | bad _ _ ih =>
    simp only [List.length_cons]
    omega

/-- There are errors if and only if one of the files is bad. -/
theorem errors_ne_nil_iff (h : Reads d ss docs errors) :
    errors ≠ [] ↔ ∃ s ∈ ss, ∃ e, s.Bad d e := by
  induction h with
  | nil => simp
  | @good s doc ss docs errors hdoc _ ih =>
    rw [ih]
    refine ⟨fun ⟨t, ht, hbad⟩ => ⟨t, List.mem_cons_of_mem s ht, hbad⟩, ?_⟩
    rintro ⟨t, ht, e, hbad⟩
    rcases List.mem_cons.mp ht with rfl | ht
    · exact absurd hdoc (hbad.not_holds doc)
    · exact ⟨t, ht, e, hbad⟩
  | @bad s e ss docs errors hbad _ _ =>
    exact ⟨fun _ => ⟨s, List.mem_cons_self, e, hbad⟩, fun _ => List.cons_ne_nil _ _⟩

end Reads

/-- What is known of the specification files. -/
structure Files where
  project : Project
  sources : List Source
  documents : List Document
  errors : List SpecError

namespace Compilation

def files (c : Compilation) : Files := ⟨c.project, c.sources, c.documents, c.errors⟩

end Compilation

namespace Files

/-- Takes in one file. -/
def takeIn (d : Disk) (f : Files) (s : Source) : Files :=
  match s.read d with
  | .ok doc => { f with documents := f.documents ++ [doc] }
  | .error e => { f with errors := f.errors ++ [e] }

/-- What the built-in phases find out about the files. -/
def after (d : Disk) : BuiltinPhase → Files → Files
  | .discover, f => { f with sources := (Discovery.run d f.project.flowsDir).sources }
  | .parse, f => f.sources.foldl (takeIn d) f
  | .merge, f => f
  | .synthesize, f => f

theorem files_parseSource (d : Disk) (c : Compilation) (s : Source) :
    (c.parseSource d s).files = c.files.takeIn d s := by
  unfold Compilation.parseSource takeIn
  rcases s.read d with e | doc
  · rfl
  · rfl

theorem files_foldl_parseSource (d : Disk) :
    ∀ (ss : List Source) (c : Compilation),
      (ss.foldl (Compilation.parseSource d) c).files = ss.foldl (takeIn d) c.files
  | [], _ => rfl
  | s :: ss, c => by
    rw [List.foldl_cons, files_foldl_parseSource d ss, files_parseSource]
    rfl

theorem files_discover {d : Disk} {c c' : Compilation} (h : c.discover d = .ok c') :
    c'.files = after d .discover c.files := by
  obtain ⟨told, -, rfl⟩ := Compilation.discover_eq_ok h
  rfl

theorem files_parse (d : Disk) (c : Compilation) : (c.parse d).files = after d .parse c.files :=
  files_foldl_parseSource d c.sources c

theorem files_runBuiltin {d : Disk} (b : BuiltinPhase) (c c' : Compilation)
    (h : c.runBuiltin d b = .ok c') : c'.files = after d b c.files := by
  cases b with
  | discover => exact files_discover h
  | parse =>
    cases h
    exact files_parse d c
  | merge =>
    cases h
    unfold Compilation.merge
    split <;> rfl
  | synthesize =>
    cases h
    unfold Compilation.synthesize
    split <;> rfl

/-- Taking in files one after another reads them. -/
theorem reads_foldl_takeIn (d : Disk) :
    ∀ (ss : List Source) (f : Files), ∃ docs errors, Reads d ss docs errors ∧
      ss.foldl (takeIn d) f =
        { f with documents := f.documents ++ docs, errors := f.errors ++ errors }
  | [], f => ⟨[], [], .nil, by simp⟩
  | s :: ss, f => by
    obtain ⟨docs, errors, hreads, heq⟩ := reads_foldl_takeIn d ss (f.takeIn d s)
    rcases s.read_spec d with ⟨doc, hread, hdoc⟩ | ⟨e, hread, hbad⟩
    · refine ⟨doc :: docs, errors, .good hdoc hreads, ?_⟩
      rw [List.foldl_cons, heq]
      simp [takeIn, hread]
    · refine ⟨docs, e :: errors, .bad hbad hreads, ?_⟩
      rw [List.foldl_cons, heq]
      simp [takeIn, hread]

/-- A compilation that took in the found files and no others has read them. -/
theorem reads_of_files {d : Disk} {p : Project} {found : List Source} {c : Compilation}
    (h : c.files = found.foldl (takeIn d) ⟨p, found, [], []⟩) :
    c.sources = found ∧ Reads d found c.documents c.errors := by
  obtain ⟨docs, errors, hreads, heq⟩ := reads_foldl_takeIn d found ⟨p, found, [], []⟩
  rw [heq] at h
  simp only [Compilation.files, Files.mk.injEq, List.nil_append] at h
  obtain ⟨-, hsources, hdocuments, herrors⟩ := h
  rw [hdocuments, herrors]
  exact ⟨hsources, hreads⟩

end Files

/-- The action adds diagnostics, drops the application or fails, and does nothing else. -/
def Action.Plain (a : Action) : Prop :=
  ∀ e ∈ a, ∀ f, e ≠ .revise f

theorem Action.Plain.keeps_files {a : Action} (ha : a.Plain) (phase : String) :
    a.Keeps Compilation.files phase := by
  refine Action.keeps_of_effects _ fun e he c c' h => ?_
  cases e with
  | tell severity message =>
    cases h
    rfl
  | dropApplication =>
    cases h
    rfl
  | fail reason => cases h
  | revise f => exact absurd rfl (ha _ he f)

/-- Plain plugins and phases leave alone what is known of the files. -/
theorem Pipeline.keeps_files {pl : Pipeline}
    (hplugins : ∀ q ∈ pl.plugins, ∀ phase, (q.before phase).Plain ∧ (q.after phase).Plain)
    (hadded : ∀ e ∈ pl.added, e.2.Plain) : pl.Keeps Compilation.files where
  before := fun q hq phase => (hplugins q hq phase).1.keeps_files phase
  after := fun q hq phase => (hplugins q hq phase).2.keeps_files phase
  added := fun e he => (hadded e he).keeps_files e.1

/-- At the end of a run every discovered file has been read, each of them once. -/
theorem Pipeline.reads_run {pl : Pipeline} {d : Disk} {p : Project} {c : Compilation}
    (hpl : pl.Keeps Compilation.files) (h : (pl.run d p).state = .ok c) :
    c.sources = (Discovery.run d p.flowsDir).sources ∧ Reads d c.sources c.documents c.errors := by
  let found := (Discovery.run d p.flowsDir).sources
  have hfiles : c.files = found.foldl (Files.takeIn d) ⟨p, found, [], []⟩ :=
    view_run hpl Files.files_runBuiltin h
  obtain ⟨hsources, hreads⟩ := Files.reads_of_files hfiles
  rw [hsources]
  exact ⟨rfl, hreads⟩

end AppSpec
