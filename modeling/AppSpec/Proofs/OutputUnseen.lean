import AppSpec.Inventory.Basic
import AppSpec.Proofs.GenerationGate
import AppSpec.Proofs.DiskGrowth

/-!
# Output is not input

Inventories and their directories are no specification files: a disk that grows by them has the same
specification files (`Discovery.run_of_grows`) with the same texts (`Source.read_of_grows`), so that a
compilation that succeeded comes out the same (`Pipeline.compile_of_grows`).
-/

namespace AppSpec

open Disk

/-- The place of an inventory, or of any file that has its name. -/
def IsInventory (q : Place) : Prop :=
  q.getLast? = some Inventory.fileName

namespace Dialect

theorem not_suffix_fileName (δ : Dialect) : ¬ δ.suffix.toList <:+ Inventory.fileName.toList := by
  cases δ <;> decide

end Dialect

namespace Discovery

/-- The name of an entry that a scan for the dialect finds. -/
def specName? (δ : Dialect) (entry : String × Node) : Option String :=
  if isFile entry.2 && δ.suffix.toList.isSuffixOf entry.1.toList then some entry.1 else none

theorem specName?_eq_some_iff {δ : Dialect} {entry : String × Node} {name : String} :
    specName? δ entry = some name ↔
      isFile entry.2 = true ∧ δ.suffix.toList <:+ entry.1.toList ∧ entry.1 = name := by
  simp [specName?, and_assoc]

theorem scan_eq (listed : String) (listing : List (String × Node)) (δ : Dialect) :
    scan listed listing δ =
      (listing.filterMap (specName? δ)).map fun name => ⟨pathIn listed name, δ⟩ := by
  rw [List.map_filterMap]
  unfold scan specName?
  induction listing with
  | nil => rfl
  | cons entry listing ih =>
    rw [List.filter_cons, List.filterMap_cons]
    split <;> simp [ih]

end Discovery

namespace Disk

/-- The entry of a directory that a node is. -/
def child? (place : Place) (e : Place × Node) : Option (String × Node) :=
  match e.1.getLast? with
  | some name => if e.1.dropLast = place then some (name, e.2) else none
  | none => none

theorem children_eq (d : Disk) (place : Place) : d.children place =
    (d.nodes.filterMap (child? place)).mergeSort fun a b => decide (a.1 ≤ b.1) := rfl

theorem pairwise_children (d : Disk) (place : Place) :
    (d.children place).Pairwise fun a b => a.1 ≤ b.1 := by
  have hsorted := @List.pairwise_mergeSort (String × Node) (fun a b => decide (a.1 ≤ b.1))
    (fun a b c hab hbc => by
      rw [decide_eq_true_iff] at hab hbc ⊢
      exact String.le_trans hab hbc)
    (fun a b => by simpa using String.le_total a.1 b.1) (d.nodes.filterMap (child? place))
  exact hsorted.imp fun h => of_decide_eq_true h

theorem child?_eq_some_iff {place : Place} {e : Place × Node} {entry : String × Node} :
    child? place e = some entry ↔ e = (place ++ [entry.1], entry.2) := by
  unfold child?
  constructor
  · intro h
    split at h
    · rename_i name hlast
      obtain ⟨init, hinit⟩ := List.getLast?_eq_some_iff.mp hlast
      split at h
      · rename_i hplace
        rw [hinit, List.dropLast_concat] at hplace
        cases h
        rw [← hplace, ← hinit]
      · cases h
    · cases h
  · rintro rfl
    simp

variable {d e : Disk}

/-- What a scan finds in a directory, in order. -/
theorem specNames_of_grows (h : Grows IsInventory d e) (place : Place) (δ : Dialect) :
    (e.children place).filterMap (Discovery.specName? δ) =
      (d.children place).filterMap (Discovery.specName? δ) := by
  let name? (x : Place × Node) : Option String := (child? place x).bind (Discovery.specName? δ)
  have hname? : ∀ {q : Place} {n : Node}, (∀ name, ¬ (q = place ++ [name] ∧
      Discovery.isFile n = true ∧ δ.suffix.toList <:+ name.toList)) → name? (q, n) = none := by
    intro q n hno
    rw [Option.eq_none_iff_forall_ne_some]
    intro name hname
    obtain ⟨entry, hentry, hspec⟩ := Option.bind_eq_some_iff.mp hname
    obtain ⟨hq, rfl⟩ := Prod.mk.inj (child?_eq_some_iff.mp hentry)
    obtain ⟨hfile, hsuffix, -⟩ := Discovery.specName?_eq_some_iff.mp hspec
    exact hno entry.1 ⟨hq, hfile, hsuffix⟩
  have hnodes : e.nodes.filterMap name? = d.nodes.filterMap name? := by
    refine h.filterMap_nodes (fun q => hname? ?_) fun q n hq => hname? ?_
    · rintro name ⟨-, hfile, -⟩
      cases hfile
    · rintro name ⟨rfl, -, hsuffix⟩
      rw [IsInventory, List.getLast?_concat, Option.some.injEq] at hq
      exact δ.not_suffix_fileName (hq ▸ hsuffix)
  have hperm : ∀ d : Disk, ((d.children place).filterMap (Discovery.specName? δ)).Perm
      (d.nodes.filterMap name?) := by
    intro d
    have hsort := (List.mergeSort_perm (d.nodes.filterMap (child? place))
      fun a b => decide (a.1 ≤ b.1)).filterMap (Discovery.specName? δ)
    rwa [← children_eq, List.filterMap_filterMap] at hsort
  have hsorted : ∀ d : Disk,
      ((d.children place).filterMap (Discovery.specName? δ)).Pairwise (· ≤ ·) := by
    intro d
    refine (pairwise_children d place).filterMap _ fun a b hab x hx y hy => ?_
    obtain ⟨-, -, rfl⟩ := Discovery.specName?_eq_some_iff.mp hx
    obtain ⟨-, -, rfl⟩ := Discovery.specName?_eq_some_iff.mp hy
    exact hab
  have hsame := ((hperm e).trans (hnodes ▸ List.Perm.refl _)).trans (hperm d).symm
  exact hsame.eq_of_pairwise (fun _ _ _ _ => String.le_antisymm) (hsorted e) (hsorted d)

end Disk

namespace Discovery

variable {d e : Disk}

/-- A directory that is there has the same specification files on the grown disk. -/
theorem run_of_grows (h : Grows IsInventory d e) {dir : String} (hdir : d.isDirectory dir = true) :
    run e dir = run d dir := by
  have hfind : ∃ place, d.find dir = .ok (place, .directory) := by
    unfold Disk.isDirectory at hdir
    split at hdir
    · rename_i place hplace
      exact ⟨place, hplace⟩
    · cases hdir
  obtain ⟨place, hplace⟩ := hfind
  have hplace' := h.find hplace (.inl rfl)
  rcases hlisted : listedAs? dir with _ | listed
  · simp only [run, hplace, hplace', hlisted]
  · rcases hread : d.unreadable.lookup place with _ | cause
    · have hread' : e.unreadable.lookup place = none := h.unreadable ▸ hread
      have hscan : scan listed (e.children place) = scan listed (d.children place) :=
        funext fun δ => by rw [scan_eq, scan_eq, specNames_of_grows h]
      rw [run_of_readable hplace hlisted hread, run_of_readable hplace' hlisted hread', collect,
        collect, hscan]
    · have hread' : e.unreadable.lookup place = some cause := h.unreadable ▸ hread
      rw [run_of_unreadable hplace hlisted hread, run_of_unreadable hplace' hlisted hread']

theorem isDirectory_of_sources {dir : String} (h : (run d dir).sources ≠ []) :
    d.isDirectory dir = true := by
  obtain ⟨s, hs⟩ := List.exists_mem_of_ne_nil _ h
  obtain ⟨_, _, -, hdir, -⟩ := mem_sources_run.mp hs
  simp only [Disk.isDirectory, hdir]

theorem suffix_pathIn (dir name : String) : name.toList <:+ (pathIn dir name).toList := by
  unfold pathIn FilePath.join
  split
  · exact List.suffix_rfl
  · split
    · exact List.suffix_rfl
    · split
      · rw [String.toList_append]
        exact List.suffix_append _ _
      · rw [String.toList_append]
        exact List.suffix_append _ _

/-- The path of a discovered file ends with the suffix of its dialect. -/
theorem suffix_of_mem_run {dir : String} {s : Source} (h : s ∈ (run d dir).sources) :
    s.dialect.suffix.toList <:+ s.path.toList := by
  obtain ⟨listed, _, -, -, -, entry, -, hs⟩ := mem_sources_run.mp h
  rw [hs.path]
  exact hs.suffix.trans (suffix_pathIn listed entry.1)

end Discovery

/-- The place of a discovered file is not that of an inventory. -/
theorem Source.not_isInventory {d d' : Disk} {dir : String} {s : Source}
    (hs : s ∈ (Discovery.run d dir).sources) {q : Place} (h : d'.locate s.path = .ok q) :
    ¬ IsInventory q := by
  have hsuffix := Discovery.suffix_of_mem_run hs
  have hslash : '/' ∉ s.dialect.suffix.toList := by cases s.dialect <;> decide
  have hlength : 2 < s.dialect.suffix.toList.length := by cases s.dialect <;> decide
  obtain ⟨cs, name, hcomponents, hname⟩ := FilePath.components_of_suffix hsuffix hslash hlength
  have hwalk := (locate_eq_ok.mp h).2.2
  rw [hcomponents, walk_concat_eq_ok] at hwalk
  obtain ⟨r, -, hstep⟩ := hwalk
  have hq : q = r ++ [name] := by
    simp only [Disk.step] at hstep
    rcases henter : d'.enter r with fault | r'
    · rw [henter] at hstep
      cases hstep
    · rw [henter] at hstep
      obtain ⟨rfl, -⟩ := enter_eq_ok.mp henter
      cases hstep
      rfl
  rw [IsInventory, hq, List.getLast?_concat, Option.some.injEq]
  rintro rfl
  exact s.dialect.not_suffix_fileName hname

/-- A discovered file holds the same document on the grown disk. -/
theorem Source.read_of_grows {d e : Disk} (h : Grows IsInventory d e) {dir : String} {s : Source}
    (hs : s ∈ (Discovery.run d dir).sources) {text : String} (hread : d.readText s.path = .ok text) :
    s.read e = s.read d := by
  have hread' := h.readText hread fun q hq => Source.not_isInventory hs hq
  simp only [Source.read, hread, hread']

/-! ## The compilation -/

namespace Compilation

theorem discover_congr {d e : Disk} {c : Compilation}
    (h : Discovery.run e c.project.flowsDir = Discovery.run d c.project.flowsDir) :
    c.discover e = c.discover d := by
  simp only [discover, h]

theorem parse_congr {d e : Disk} {c : Compilation} (h : ∀ s ∈ c.sources, s.read e = s.read d) :
    c.parse e = c.parse d := by
  have hrun : ∀ (ss : List Source), (∀ s ∈ ss, s.read e = s.read d) → ∀ c : Compilation,
      ss.foldl (parseSource e) c = ss.foldl (parseSource d) c := by
    intro ss
    induction ss with
    | nil => exact fun _ _ => rfl
    | cons s ss ih =>
      intro hss c
      have hs : c.parseSource e s = c.parseSource d s := by
        simp only [parseSource, hss s List.mem_cons_self]
      rw [List.foldl_cons, List.foldl_cons, hs]
      exact ih (fun t ht => hss t (List.mem_cons_of_mem s ht)) _
  exact hrun c.sources h c

end Compilation

theorem Reads.readText {d : Disk} {ss : List Source} {docs : List Document}
    (h : Reads d ss docs []) : ∀ s ∈ ss, ∃ text, d.readText s.path = .ok text := by
  generalize herrors : ([] : List SpecError) = errors at h
  induction h with
  | nil => exact fun _ hs => nomatch hs
  | good hdoc _ ih =>
    intro s hs
    rcases List.mem_cons.mp hs with rfl | hs
    · cases hdoc with
      | document hread _ => exact ⟨_, hread⟩
    · exact ih herrors s hs
  | bad => cases herrors

namespace Compilation

theorem application_of_finish {c : Compilation} {compiled : Compiled} (h : c.finish = .ok compiled) :
    c.errors = [] ∧ c.application = some compiled.application := by
  obtain ⟨herrors, a, happ, rfl⟩ := finish_eq_ok_iff.mp h
  exact ⟨herrors, happ⟩

/-- What is known of the files, and the application. -/
def made (c : Compilation) : Files × Option Application := (c.files, c.application)

/-- The documents are merged unless there are errors, and the application gets its default pages. -/
def madeAfter (d : Disk) (b : BuiltinPhase) (x : Files × Option Application) :
    Files × Option Application :=
  (x.1.after d b,
    match b with
    | .merge => if x.1.errors.isEmpty then some (Merge.ofDocuments x.1.documents).application else x.2
    | .synthesize => x.2.map fun a => (Synthesis.run a).1
    | .discover | .parse => x.2)

theorem made_runBuiltin {d : Disk} (b : BuiltinPhase) (c c' : Compilation)
    (h : c.runBuiltin d b = .ok c') : c'.made = madeAfter d b c.made := by
  refine Prod.ext (Files.files_runBuiltin b c c' h) ?_
  cases b with
  | discover => exact application_discover h
  | parse =>
    cases h
    exact application_parse d c
  | merge =>
    cases h
    simp only [merge, madeAfter, made, files]
    split <;> rename_i h <;> simp [h, report]
  | synthesize =>
    cases h
    simp only [synthesize, madeAfter, made]
    split <;> rename_i h <;> simp [h, report]

end Compilation

namespace Pipeline

variable {pl : Pipeline} {d e : Disk} {p : Project} {compiled : Compiled}

/-- A compilation has read all specification files, and its application is theirs, if plugins and added
phases change neither. -/
theorem reads_of_compile (hpl : pl.Keeps Compilation.made) (h : pl.compile d p = .ok compiled) :
    compiled.sources = (Discovery.run d p.flowsDir).sources ∧ ∃ docs,
      Reads d compiled.sources docs [] ∧
      compiled.application = (Synthesis.run (Merge.ofDocuments docs).application).1 := by
  rcases hstate : (pl.run d p).state with reason | c
  · rw [compile_of_stopped hstate] at h
    cases h
  · have hfinish : c.finish = .ok compiled := (compile_of_run hstate).symm.trans h
    obtain ⟨hsources, hreads⟩ := reads_run (hpl.comp Prod.fst) hstate
    obtain ⟨herrors, happ⟩ := Compilation.application_of_finish hfinish
    have hmade := view_run hpl Compilation.made_runBuiltin hstate
    let read := Files.after d .parse (Files.after d .discover (Compilation.ofProject p).files)
    have hfiles : c.files = read := congrArg Prod.fst hmade
    have happ' : c.application =
        (if read.errors.isEmpty then some (Merge.ofDocuments read.documents).application
          else none).map fun a => (Synthesis.run a).1 := congrArg Prod.snd hmade
    have herrors' : read.errors = [] := (congrArg Files.errors hfiles).symm.trans herrors
    have hdocuments : read.documents = c.documents := (congrArg Files.documents hfiles).symm
    rw [happ, herrors', hdocuments] at happ'
    rw [herrors, ← Compilation.sources_of_finish hfinish] at hreads
    exact ⟨(Compilation.sources_of_finish hfinish).trans hsources, _, hreads,
      Option.some.inj happ'⟩

/-- A phase between calls of plugins comes out the same if it does for all compilations with these
files. -/
theorem around_congr (hpl : pl.Keeps Compilation.files) {c : Compilation} {phase : Phase}
    (h : ∀ c₁ : Compilation, c₁.files = c.files → runPhase e c₁ phase = runPhase d c₁ phase) :
    pl.around e c phase = pl.around d c phase := by
  unfold around
  rcases hbefore : pl.plugins.foldlM
    (fun c q => (q.before phase.name).apply phase.name c) c with reason | c₁
  · rw [hbefore]
    rfl
  · have hfiles : c₁.files = c.files := view_foldlM Compilation.files _
      (fun q hq c c' => hpl.before q hq phase.name c c') hbefore
    rw [hbefore]
    simp only [bind, Except.bind, h c₁ hfiles]

theorem foldlM_around_congr (hpl : pl.Keeps Compilation.files) :
    ∀ (phases : List Phase) (c : Compilation),
      (∀ phase ∈ phases, ∀ c, runPhase e c phase = runPhase d c phase) →
      phases.foldlM (pl.around e) c = phases.foldlM (pl.around d) c
  | [], _, _ => by rw [List.foldlM_nil, List.foldlM_nil]
  | phase :: phases, c, h => by
    rw [List.foldlM_cons, List.foldlM_cons,
      around_congr hpl fun c₁ _ => h phase List.mem_cons_self c₁]
    rcases pl.around d c phase with reason | c₁
    · simp only [bind, Except.bind]
    · exact foldlM_around_congr hpl phases c₁ fun q hq => h q (List.mem_cons_of_mem phase hq)

/-- The first phase comes out the same on the grown disk. -/
theorem around_discover_of_grows (hpl : pl.Keeps Compilation.files) (h : Grows IsInventory d e)
    (hdir : d.isDirectory p.flowsDir = true) : pl.around e (.ofProject p) (.builtin .discover) =
      pl.around d (.ofProject p) (.builtin .discover) := by
  refine around_congr hpl fun c₁ hc₁ => ?_
  have hproject : c₁.project = p := congrArg Files.project hc₁
  have hrun : Discovery.run e c₁.project.flowsDir = Discovery.run d c₁.project.flowsDir := by
    rw [hproject]
    exact Discovery.run_of_grows h hdir
  exact Compilation.discover_congr hrun

theorem sources_of_around_discover (hpl : pl.Keeps Compilation.files) {c : Compilation}
    (h : pl.around d (.ofProject p) (.builtin .discover) = .ok c) :
    c.sources = (Discovery.run d p.flowsDir).sources := by
  obtain ⟨c₁, c₂, hc₁, hphase, hc₂⟩ := view_around hpl h
  rw [Files.files_runBuiltin .discover c₁ c₂ hphase, hc₁] at hc₂
  exact congrArg Files.sources hc₂

/-- Reading discovered files that can be read comes out the same on the grown disk. -/
theorem around_parse_of_grows (hpl : pl.Keeps Compilation.files) (h : Grows IsInventory d e)
    {c : Compilation} (hsources : c.sources = (Discovery.run d p.flowsDir).sources)
    (hread : ∀ s ∈ (Discovery.run d p.flowsDir).sources, ∃ text, d.readText s.path = .ok text) :
    pl.around e c (.builtin .parse) = pl.around d c (.builtin .parse) := by
  refine around_congr hpl fun c₁ hc₁ => ?_
  have hsources₁ : c₁.sources = c.sources := congrArg Files.sources hc₁
  refine congrArg Except.ok (Compilation.parse_congr fun s hs => ?_)
  rw [hsources₁, hsources] at hs
  obtain ⟨text, htext⟩ := hread s hs
  exact Source.read_of_grows h hs htext

/-- A compilation that succeeded comes out the same on the grown disk. -/
theorem compile_of_grows (hpl : pl.Keeps Compilation.files) (h : Grows IsInventory d e)
    (hdir : d.isDirectory p.flowsDir = true)
    (hread : ∀ s ∈ (Discovery.run d p.flowsDir).sources, ∃ text, d.readText s.path = .ok text) :
    pl.compile e p = pl.compile d p := by
  let rest : List Phase := [.builtin .merge, .builtin .synthesize] ++
    pl.added.map fun e => Phase.added e.1 e.2
  have hphases : pl.phases = [.builtin .discover, .builtin .parse] ++ rest := rfl
  -- the phases behind the first two do not look at the disk
  have hrest : ∀ phase ∈ rest, ∀ c, runPhase e c phase = runPhase d c phase := by
    intro phase hphase c
    rcases List.mem_append.mp hphase with hbuiltin | hadded
    · rcases List.mem_cons.mp hbuiltin with rfl | hlast
      · rfl
      · rw [List.mem_singleton.mp hlast]
        rfl
    · obtain ⟨x, -, rfl⟩ := List.mem_map.mp hadded
      rfl
  have hstate : (pl.run e p).state = (pl.run d p).state := by
    rw [run_state, run_state, hphases, List.foldlM_append, List.foldlM_append]
    simp only [List.foldlM_cons, List.foldlM_nil, around_discover_of_grows hpl h hdir]
    rcases hc : pl.around d (.ofProject p) (.builtin .discover) with reason | c
    · simp only [bind, Except.bind]
    · have hparse := around_parse_of_grows hpl h (sources_of_around_discover hpl hc) hread
      simp only [bind, Except.bind, hparse]
      rcases pl.around d c (.builtin .parse) with reason | c'
      · rfl
      · exact foldlM_around_congr hpl rest c' hrest
  rw [compile, compile, hstate]

end Pipeline

end AppSpec
