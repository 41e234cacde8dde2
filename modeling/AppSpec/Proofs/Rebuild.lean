import AppSpec.Proofs.InventoryText
import AppSpec.Proofs.Neighbours
import AppSpec.Proofs.OutputUnseen

/-!
# Building again

An inventory that a cycle reports as done holds the text of its contract's part of the application
(`Inventory.held_fulfilAll`), whatever was there before, and from then on there is nothing to write
(`Inventory.Done`). The application depends on the texts of the specification files, not on where they
are (`Built.application_eq`). So a second cycle finds all files as they should be and leaves the disk as
it is (`cycle_keeps_inventories`).
-/

namespace AppSpec

open Disk

/-! ## Where documents are -/

/-- The documents say the same, wherever they are. -/
structure Document.SameText (d e : Document) : Prop where
  dialect : d.dialect = e.dialect
  stem : d.stem = e.stem
  body : d.body = e.body

theorem Document.SameText.definitions_eq {d e : Document} (h : d.SameText e) :
    d.definitions = e.definitions := by
  simp only [definitions, h.dialect, h.stem, h.body]

namespace Merge

theorem application_apply {m n : Merge} (h : m.application = n.application) (file file' : String)
    (x : Definition) : (m.apply file x).application = (n.apply file' x).application := by
  cases x <;> simp only [apply, put, placeModel, h]

theorem application_add {m n : Merge} (h : m.application = n.application) {d e : Document}
    (hde : d.SameText e) : (m.add d).application = (n.add e).application := by
  have hrun : ∀ (xs : List Definition) {m n : Merge}, m.application = n.application →
      (xs.foldl (apply d.path) m).application = (xs.foldl (apply e.path) n).application := by
    intro xs
    induction xs with
    | nil => exact fun h => h
    | cons x xs ih => exact fun h => ih (application_apply h d.path e.path x)
  rw [add, add, hde.definitions_eq]
  exact hrun e.definitions h

theorem application_ofDocuments {ds es : List Document} (h : List.Forall₂ Document.SameText ds es) :
    (ofDocuments ds).application = (ofDocuments es).application := by
  have hrun : ∀ {m n : Merge}, m.application = n.application →
      (ds.foldl add m).application = (es.foldl add n).application := by
    induction h with
    | nil => exact fun h => h
    | cons hde _ ih => exact fun h => ih (application_add h hde)
  exact hrun rfl

end Merge

/-- The specification files are of one dialect, name and text, each on its disk. -/
structure Source.SameText (d e : Disk) (s t : Source) : Prop where
  dialect : s.dialect = t.dialect
  stem : FilePath.stem s.path = FilePath.stem t.path
  text : d.readText s.path = e.readText t.path

theorem Source.HoldsMapping.eq {text : String} {m n : Value.Mapping} (hm : HoldsMapping text m)
    (hn : HoldsMapping text n) : m = n := by
  cases hm with
  | mapping h =>
    cases hn with
    | mapping h' =>
      rw [h] at h'
      cases h'
      rfl
    | null h' =>
      rw [h] at h'
      cases h'
  | null h =>
    cases hn with
    | mapping h' =>
      rw [h] at h'
      cases h'
    | null => rfl

theorem Reads.sameText {d e : Disk} {ss ts : List Source} (h : List.Forall₂ (Source.SameText d e) ss ts)
    {docs docs' : List Document} (hd : Reads d ss docs []) (he : Reads e ts docs' []) :
    List.Forall₂ Document.SameText docs docs' := by
  induction h generalizing docs docs' with
  | nil =>
    cases hd
    cases he
    exact .nil
  | cons hst _ ih =>
    cases hd with
    | good hdoc hd =>
      cases he with
      | good hdoc' he =>
        refine .cons ?_ (ih hd he)
        cases hdoc with
        | document hread hbody =>
          cases hdoc' with
          | document hread' hbody' =>
            rw [hst.text, hread'] at hread
            cases hread
            exact ⟨hst.dialect, hst.stem, hbody.eq hbody'⟩

/-! ## Inventories -/

theorem Contract.usable_name (c : Contract) : Usable c.name := by
  cases c <;> exact ⟨⟨by decide, by decide, by decide⟩, by decide⟩

theorem Contract.name_inj {c c' : Contract} (h : c.name = c'.name) : c = c' := by
  revert h
  cases c <;> cases c' <;> decide

namespace Inventory

theorem usable_fileName : Usable fileName :=
  ⟨⟨by decide, by decide, by decide⟩, by decide⟩

/-- The places of a contract's inventory. -/
def IsOf (c : Contract) (q : Place) : Prop :=
  [c.name, fileName] <:+ q

theorem isOf_of_locate {d : Disk} {p : Project} {c : Contract} {q : Place}
    (h : d.locate (path p c) = .ok q) : IsOf c q :=
  suffix_of_locate c.usable_name usable_fileName h

theorem IsOf.isInventory {c : Contract} {q : Place} (h : IsOf c q) : IsInventory q := by
  obtain ⟨r, rfl⟩ := h
  simp [IsInventory]

theorem IsOf.eq {c c' : Contract} {q : Place} (h : IsOf c q) (h' : IsOf c' q) : c = c' := by
  obtain ⟨r, hr⟩ := h
  obtain ⟨s, rfl⟩ := h'
  have hlast := List.append_inj_right' hr rfl
  simp only [List.cons.injEq, and_true] at hlast
  exact Contract.name_inj hlast

section Writing

variable (d : Disk) (p : Project) (env : Environment) (a : Application) (c c' : Contract)

/-- There is nothing left to do to write the inventory of a contract. -/
def Done : Prop :=
  ∀ content, text p c env a = .ok content → Settled d (path p c) content

theorem grows_write : Grows (IsOf c) d (write d p c env a).2 := by
  unfold write
  split
  · exact .refl
  · rename_i content _
    have hgrows : Grows (IsOf c) d (d.update (path p c) content).2 :=
      grows_update (fun _ _ hq => isOf_of_locate hq) d content
    split <;> (rename_i h; rwa [h] at hgrows)

variable {d p env a c c'}

theorem disk_write {content : String} (h : text p c env a = .ok content) :
    (write d p c env a).2 = (d.update (path p c) content).2 := by
  simp only [write, h]
  split <;> (rename_i hupdate; rw [hupdate])

theorem write_of_error {cause : Json.Fault} (h : text p c env a = .error cause) :
    write d p c env a = (.error (.noText c cause), d) := by
  simp only [write, h]

/-- After writing there is nothing left to do. -/
theorem done_write : Done (write d p c env a).2 p env a c := by
  intro content hcontent
  rw [disk_write hcontent]
  exact settled_update d (path p c) content

theorem disk_write_of_done (h : Done d p env a c) : (write d p c env a).2 = d := by
  rcases hcontent : text p c env a with cause | content
  · rw [write_of_error hcontent]
  · rw [disk_write hcontent]
    exact update_of_settled (h content hcontent)

/-- Writing an inventory leaves those of the other contracts done. -/
theorem Done.write (h : Done d p env a c) : Done (write d p c' env a).2 p env a c := by
  by_cases hc : c = c'
  · subst hc
    exact done_write
  · rcases hother : text p c' env a with cause | content'
    · rw [write_of_error hother]
      exact h
    · intro content hcontent
      rw [disk_write hother]
      have hname : c.name ≠ c'.name := fun hname => hc (Contract.name_inj hname)
      exact (h content hcontent).beside c.usable_name c'.usable_name usable_fileName hname

/-- The file of a contract holds its inventory. -/
def Held (d : Disk) (p : Project) (env : Environment) (a : Application) (c : Contract) : Prop :=
  ∃ content, text p c env a = .ok content ∧ d.readText (path p c) = .ok content

theorem held_write {files : Generated} (h : (Inventory.write d p c env a).1 = .ok files) :
    Held (Inventory.write d p c env a).2 p env a c := by
  rcases hcontent : text p c env a with cause | content
  · rw [write_of_error hcontent] at h
    cases h
  · refine ⟨content, hcontent, ?_⟩
    rw [disk_write hcontent]
    rcases hupdate : d.update (path p c) content with ⟨cause | wrote, e⟩
    · simp only [Inventory.write, hcontent, hupdate] at h
      cases h
    · exact readText_update hupdate

theorem write_of_held (h : Held d p env a c) :
    Inventory.write d p c env a = (.ok ⟨[], [path p c]⟩, d) := by
  obtain ⟨content, hcontent, hread⟩ := h
  simp only [Inventory.write, hcontent, update_of_held hread]

theorem Held.write (h : Held d p env a c) : Held (Inventory.write d p c' env a).2 p env a c := by
  by_cases hc : c = c'
  · subst hc
    rw [write_of_held h]
    exact h
  · obtain ⟨content, hcontent, hread⟩ := h
    refine ⟨content, hcontent, (grows_write d p env a c').readText hread fun q hq hother => hc ?_⟩
    exact (isOf_of_locate hq).eq hother

end Writing

/-! ## All inventories of a target -/

theorem generator?_registry (c : Contract) : registry.generator? c = some (generator c) := by
  cases c <;> rfl

variable (d : Disk) (p : Project) (env : Environment) (a : Application)

theorem fulfil_registry (c : Contract) : registry.fulfil d p a env c =
    (⟨c, (write d p c env a).1.mapError fun f => .failed f.text⟩, (write d p c env a).2) := by
  simp only [Registry.fulfil, generator?_registry, generator]
  rcases write d p c env a with ⟨cause | files, e⟩
  · rfl
  · rfl

theorem fulfilAll_cons (c : Contract) (cs : List Contract) :
    registry.fulfilAll p a env d (c :: cs) =
      ((registry.fulfil d p a env c).1 ::
          (registry.fulfilAll p a env (write d p c env a).2 cs).1,
        (registry.fulfilAll p a env (write d p c env a).2 cs).2) := by
  simp only [Registry.fulfilAll, fulfil_registry]

theorem grows_fulfilAll : ∀ (cs : List Contract) (d : Disk),
    Grows IsInventory d (registry.fulfilAll p a env d cs).2
  | [], _ => .refl
  | c :: cs, d => by
    have hstep := (grows_write d p env a c).mono fun q (hq : IsOf c q) => hq.isInventory
    rw [fulfilAll_cons]
    exact hstep.trans (grows_fulfilAll cs _)

/-- What writing any inventory keeps, writing all of them keeps. -/
theorem fulfilAll_keeps {I : Disk → Prop} (hI : ∀ d c, I d → I (write d p c env a).2) :
    ∀ (cs : List Contract) {d : Disk}, I d → I (registry.fulfilAll p a env d cs).2
  | [], _, h => h
  | c :: cs, d, h => by
    rw [fulfilAll_cons]
    exact fulfilAll_keeps hI cs (hI d c h)

theorem contracts_fulfilAll : ∀ (cs : List Contract) (d : Disk),
    (registry.fulfilAll p a env d cs).1.map (·.contract) = cs
  | [], _ => rfl
  | c :: cs, d => by
    rw [fulfilAll_cons, List.map_cons, contracts_fulfilAll cs, fulfil_registry]

/-- In the end nothing is left to do for any of the contracts. -/
theorem done_fulfilAll : ∀ (cs : List Contract) (d : Disk), ∀ c ∈ cs,
    Done (registry.fulfilAll p a env d cs).2 p env a c
  | c' :: cs, d, c, hc => by
    rw [fulfilAll_cons]
    rcases List.mem_cons.mp hc with rfl | hc
    · exact fulfilAll_keeps (I := fun d => Done d p env a c) p env a (fun _ _ h => h.write) cs
        done_write
    · exact done_fulfilAll cs _ c hc

/-- A contract that is fulfilled has its inventory in the end. -/
theorem held_fulfilAll : ∀ (cs : List Contract) (d : Disk),
    ∀ o ∈ (registry.fulfilAll p a env d cs).1, o.isOk = true →
      Held (registry.fulfilAll p a env d cs).2 p env a o.contract
  | c :: cs, d, o, ho, hok => by
    rw [fulfilAll_cons] at ho ⊢
    rcases List.mem_cons.mp ho with rfl | ho
    · rw [fulfil_registry] at hok ⊢
      rcases hfiles : (write d p c env a).1 with cause | files
      · rw [hfiles] at hok
        cases hok
      · exact fulfilAll_keeps (I := fun d => Held d p env a c) p env a (fun _ _ h => h.write) cs
          (held_write hfiles)
    · exact held_fulfilAll cs _ o ho hok

/-- Where nothing is left to do, nothing is done. -/
theorem disk_fulfilAll_of_done {d : Disk} : ∀ {cs : List Contract}, (∀ c ∈ cs, Done d p env a c) →
    (registry.fulfilAll p a env d cs).2 = d
  | [], _ => rfl
  | c :: cs, h => by
    rw [fulfilAll_cons, disk_write_of_done (h c List.mem_cons_self)]
    exact disk_fulfilAll_of_done fun c' hc' => h c' (List.mem_cons_of_mem c hc')

/-- Where nothing is left to do, a held inventory is told to be unchanged. -/
theorem result_fulfilAll_of_held {d : Disk} {c : Contract} (hheld : Held d p env a c) :
    ∀ {cs : List Contract}, (∀ c' ∈ cs, Done d p env a c') →
      ∀ o ∈ (registry.fulfilAll p a env d cs).1, o.contract = c →
        o.result = .ok ⟨[], [path p c]⟩
  | c' :: cs, h, o, ho, hc => by
    rw [fulfilAll_cons, disk_write_of_done (h c' List.mem_cons_self)] at ho
    rcases List.mem_cons.mp ho with rfl | ho
    · rw [fulfil_registry] at hc ⊢
      cases hc
      rw [write_of_held hheld]
      rfl
    · exact result_fulfilAll_of_held hheld (fun c hc => h c (List.mem_cons_of_mem c' hc)) o ho hc

theorem text_congr {p p₁ : Project} (h : p₁.config = p.config) (c : Contract) (env : Environment)
    (a : Application) : text p₁ c env a = text p c env a := by
  simp only [text, toValue, header, Project.name, h]

end Inventory

/-! ## Two cycles -/

section Cycles

variable {pl : Pipeline} {d d' : Disk} {p : Project} {r : Request} {report : CycleReport}

/-- A cycle that ends with a report has compiled the project, and its outcomes and its disk are those of
its generators; without specification files there are none. -/
theorem Cycle.of_run {gs : Registry} (h : Cycle.run pl gs d p r = (.ok report, d')) :
    ∃ compiled, pl.compile d p = .ok compiled ∧ (report.outcomes, d') =
      if compiled.sources = [] then ([], d)
      else gs.fulfilAll p compiled.application r.environment d r.target.contracts := by
  unfold run at h
  rcases hcompile : pl.compile d p with fault | compiled
  · rw [hcompile] at h
    cases h
  · rw [hcompile] at h
    refine ⟨compiled, rfl, ?_⟩
    simp only [generate, Registry.build, List.isEmpty_iff] at h
    cases h
    rfl

theorem Cycle.run_eq_generate (gs : Registry) (r : Request) {compiled : Compiled}
    (h : pl.compile d p = .ok compiled) : Cycle.run pl gs d p r =
      (.ok (generate gs d p compiled r).1, (generate gs d p compiled r).2) := by
  rw [run, h]

/-- A cycle that found specification files: what it compiled, from which documents, and what its
generators made of it. -/
structure Built (pl : Pipeline) (d d' : Disk) (p : Project) (r : Request) (outcomes : List Outcome)
    (compiled : Compiled) (docs : List Document) : Prop where
  compile : pl.compile d p = .ok compiled
  sources : compiled.sources = (Discovery.run d p.flowsDir).sources
  found : compiled.sources ≠ []
  reads : Reads d (Discovery.run d p.flowsDir).sources docs []
  application : compiled.application = (Synthesis.run (Merge.ofDocuments docs).application).1
  outcomes : outcomes =
    (Inventory.registry.fulfilAll p compiled.application r.environment d r.target.contracts).1
  disk : d' =
    (Inventory.registry.fulfilAll p compiled.application r.environment d r.target.contracts).2

variable {o : Outcome} {compiled : Compiled} {docs : List Document}

/-- A cycle with an outcome has found specification files. -/
theorem built_of_run (hpl : pl.Keeps Compilation.made)
    (hrun : Cycle.run pl Inventory.registry d p r = (.ok report, d')) (ho : o ∈ report.outcomes) :
    ∃ compiled docs, Built pl d d' p r report.outcomes compiled docs := by
  obtain ⟨compiled, hcompile, hgenerate⟩ := Cycle.of_run hrun
  obtain ⟨hsources, docs, hreads, happ⟩ := Pipeline.reads_of_compile hpl hcompile
  have hfound : compiled.sources ≠ [] := by
    intro hnil
    rw [if_pos hnil, Prod.mk.injEq] at hgenerate
    rw [hgenerate.1] at ho
    cases ho
  rw [if_neg hfound] at hgenerate
  exact ⟨compiled, docs, hcompile, hsources, hfound, hsources ▸ hreads, happ,
    congrArg Prod.fst hgenerate, congrArg Prod.snd hgenerate⟩

namespace Built

variable {outcomes : List Outcome} (h : Built pl d d' p r outcomes compiled docs)

include h

/-- The file of a fulfilled contract holds its inventory. -/
theorem held (ho : o ∈ outcomes) (hok : o.isOk = true) :
    Inventory.Held d' p r.environment compiled.application o.contract := by
  rw [h.outcomes] at ho
  rw [h.disk]
  exact Inventory.held_fulfilAll p r.environment compiled.application r.target.contracts d o ho hok

/-- The application depends on the names and texts of the specification files alone. -/
theorem application_eq {pl₁ : Pipeline} {d₁ d₁' : Disk} {p₁ : Project} {r₁ : Request}
    {outcomes₁ : List Outcome} {compiled₁ : Compiled} {docs₁ : List Document}
    (h₁ : Built pl₁ d₁ d₁' p₁ r₁ outcomes₁ compiled₁ docs₁)
    (hsame : List.Forall₂ (Source.SameText d₁ d) (Discovery.run d₁ p₁.flowsDir).sources
      (Discovery.run d p.flowsDir).sources) :
    compiled₁.application = compiled.application := by
  rw [h.application, h₁.application, Merge.application_ofDocuments (h₁.reads.sameText hsame h.reads)]

/-- The inventories that were written are not compiled. -/
theorem compile_again (hpl : pl.Keeps Compilation.made) : pl.compile d' p = .ok compiled := by
  have hgrows : Grows IsInventory d d' := h.disk ▸
    Inventory.grows_fulfilAll p r.environment compiled.application r.target.contracts d
  have hdir : d.isDirectory p.flowsDir = true :=
    Discovery.isDirectory_of_sources (h.sources ▸ h.found)
  exact (Pipeline.compile_of_grows (hpl.comp Prod.fst) hgrows hdir h.reads.readText).trans h.compile

theorem done : ∀ c ∈ r.target.contracts, Inventory.Done d' p r.environment compiled.application c :=
  h.disk ▸ Inventory.done_fulfilAll p r.environment compiled.application r.target.contracts d

/-- The same cycle again leaves the disk as it is. -/
theorem run_again (hpl : pl.Keeps Compilation.made) : ∃ report',
    Cycle.run pl Inventory.registry d' p r = (.ok report', d') ∧ report'.outcomes =
      (Inventory.registry.fulfilAll p compiled.application r.environment d' r.target.contracts).1 := by
  have hcompile := h.compile_again hpl
  rcases hrun : Cycle.run pl Inventory.registry d' p r with ⟨fault | report', e⟩
  · rw [Cycle.run_eq_generate _ _ hcompile] at hrun
    cases hrun
  · obtain ⟨compiled', hcompile', hgenerate⟩ := Cycle.of_run hrun
    rw [hcompile, Except.ok.injEq] at hcompile'
    subst hcompile'
    rw [if_neg h.found] at hgenerate
    have hdisk : e = d' := (congrArg Prod.snd hgenerate).trans
      (Inventory.disk_fulfilAll_of_done p r.environment compiled.application h.done)
    exact ⟨report', by rw [hdisk], congrArg Prod.fst hgenerate⟩

end Built

end Cycles

end AppSpec
