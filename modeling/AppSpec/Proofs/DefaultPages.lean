import Mathlib.Data.List.Induction
import AppSpec.Application.DefaultPage
import AppSpec.Proofs.ComponentTree
import AppSpec.Proofs.Entries

/-!
# Default pages are only added

A page references a model if it names the model as its own or a component of its tree shows the
model (`DefaultPage.References`). The models that no page references are proposed pages, and placing
these adds the ones whose path is free at their turn behind the pages that were there, and tells what
became of each (`run_places_proposals`). A default page references its own model and no other
(`DefaultPage.references_toValue_iff`), so a model of which one page was placed is referenced from
then on. A second run therefore proposes pages of models that got none, finds all their paths taken
and changes nothing (`run_run`).
-/

namespace AppSpec

namespace DefaultPage

open Component

/-- The page names the model as its own, or a list, a form or a card in its tree shows the model. -/
def References (model : String) (page : Value) : Prop :=
  (∃ m, page.asMap? = some m ∧ textAt? m "model" = some model) ∨
    ∃ c, Within page c ∧ textAt? c "data_source" = some model ∧
      ∃ kind ∈ ["list", "form", "card"], textAt? c "component" = some kind

theorem showsModel_iff (model : String) (c : Value.Mapping) :
    showsModel model c = true ↔ textAt? c "data_source" = some model ∧
      ∃ kind ∈ ["list", "form", "card"], textAt? c "component" = some kind := by
  unfold showsModel
  rcases textAt? c "component" with _ | kind
  · simp
  · rw [Bool.and_eq_true, beq_iff_eq, List.contains_iff_mem]
    exact ⟨fun ⟨hkind, h⟩ => ⟨h, kind, hkind, rfl⟩, fun ⟨h, _, hmem, hkind⟩ => by
      cases hkind
      exact ⟨hmem, h⟩⟩

theorem pageShows_iff (model : String) (page : Value) :
    pageShows model page = true ↔ References model page := by
  unfold pageShows References
  rw [Bool.or_eq_true, beq_iff_eq, Option.bind_eq_some_iff, occurs_iff]
  simp only [mem_all_iff, showsModel_iff]

instance (model : String) (page : Value) : Decidable (References model page) :=
  decidable_of_iff _ (pageShows_iff model page)

/-- The components of a default page are the page itself and the one that shows the model. -/
theorem all_toValue (p : DefaultPage) :
    ∃ page shown : Value.Mapping, p.toValue = .map page ∧ all p.toValue = [page, shown] ∧
      textAt? page "model" = some p.model ∧ textAt? page "data_source" = none ∧
      textAt? shown "data_source" = some p.model := by
  obtain ⟨role, name, fields⟩ := p
  cases role <;> exact ⟨_, _, rfl, rfl, rfl, rfl, rfl⟩

/-- A default page references its own model and no other. -/
theorem references_toValue_iff (p : DefaultPage) (model : String) :
    References model p.toValue ↔ p.model = model := by
  obtain ⟨page, shown, hpage, hall, hmodel, hno, hshown⟩ := p.all_toValue
  unfold References
  simp only [← mem_all_iff, hall, List.mem_cons, List.not_mem_nil, or_false]
  refine ⟨?_, ?_⟩
  · rintro (⟨m, hm, htext⟩ | ⟨c, rfl | rfl, hsource, -⟩)
    · rw [hpage] at hm
      cases hm
      rw [hmodel] at htext
      exact Option.some.inj htext
    · rw [hno] at hsource
      cases hsource
    · rw [hshown] at hsource
      exact Option.some.inj hsource
  · rintro rfl
    exact .inl ⟨page, by rw [hpage]; rfl, hmodel⟩

end DefaultPage

namespace Application

theorem isShown_iff (a : Application) (model : String) :
    a.isShown model = true ↔
      ∃ page ∈ (a.entities .pages).toList, DefaultPage.References model page.2 := by
  simp only [isShown, List.any_eq_true, DefaultPage.pageShows_iff]

@[simp] theorem entities_setEntities (a : Application) (c d : Category) (e : Entries Value) :
    (a.setEntities c e).entities d = if d = c then e else a.entities d := rfl

@[simp] theorem setEntities_setEntities (a : Application) (c : Category) (e e' : Entries Value) :
    (a.setEntities c e).setEntities c e' = a.setEntities c e' := by
  simp only [setEntities, Application.mk.injEq, and_true]
  funext d
  split <;> rfl

@[simp] theorem setEntities_entities (a : Application) (c : Category) :
    a.setEntities c (a.entities c) = a := by
  have hsame : (fun d => if d = c then a.entities c else a.entities d) = a.entities := by
    funext d
    split
    · rename_i h
      rw [h]
    · rfl
  rw [setEntities, hsame]

end Application

namespace Synthesis

open Application

variable (a : Application)

/-- The application, and what became of the proposals, after some of them. -/
def after (ps : List DefaultPage) : Application × Synthesis :=
  ps.foldl place (a, {})

/-- The path of a proposal is taken at its turn. -/
def isTaken (ps : List DefaultPage) (x : DefaultPage × Nat) : Bool :=
  ((after a (ps.take x.2)).1.entities .pages).contains x.1.path

/-- The proposals whose path is taken at their turn, or those whose path is free. -/
def whereTaken (t : Bool) (ps : List DefaultPage) : List DefaultPage :=
  (ps.zipIdx.filter fun x => isTaken a ps x == t).map Prod.fst

def placed (ps : List DefaultPage) : List DefaultPage := whereTaken a false ps

def refused (ps : List DefaultPage) : List DefaultPage := whereTaken a true ps

theorem after_concat (ps : List DefaultPage) (p : DefaultPage) :
    after a (ps ++ [p]) = place (after a ps) p := by
  rw [after, List.foldl_append]
  rfl

/-- Whether a path is taken is settled by the proposals before. -/
theorem whereTaken_concat (t : Bool) (ps : List DefaultPage) (p : DefaultPage) :
    whereTaken a t (ps ++ [p]) = whereTaken a t ps ++
      if ((after a ps).1.entities .pages).contains p.path == t then [p] else [] := by
  have hbefore : ∀ x ∈ ps.zipIdx, isTaken a (ps ++ [p]) x = isTaken a ps x := by
    intro x hx
    have hlt := List.snd_lt_of_mem_zipIdx hx
    rw [isTaken, List.take_append_of_le_length (by omega)]
    rfl
  have hlast : isTaken a (ps ++ [p]) (p, ps.length) =
      ((after a ps).1.entities .pages).contains p.path := by
    rw [isTaken, List.take_left]
  rw [whereTaken, List.zipIdx_append, List.filter_append, List.map_append,
    List.filter_congr fun x hx => congrArg (· == t) (hbefore x hx)]
  simp only [List.zipIdx_singleton, Nat.zero_add, List.filter_cons, List.filter_nil, hlast]
  split <;> rfl

/-- What is known after some proposals. -/
structure Settled (ps : List DefaultPage) (r : Application × Synthesis) : Prop where
  pages : (r.1.entities .pages).toList =
    (a.entities .pages).toList ++ (placed a ps).map fun p => (p.path, p.toValue)
  others : r.1 = a.setEntities .pages (r.1.entities .pages)
  inserted : r.2.inserted = (placed a ps).map DefaultPage.path
  kept : r.2.kept = (refused a ps).map DefaultPage.path
  nodup : r.2.inserted.Nodup
  fresh : ∀ path ∈ r.2.inserted, path ∉ (a.entities .pages).keys
  taken : ∀ path, path ∈ (r.1.entities .pages).keys ↔
    path ∈ (a.entities .pages).keys ∨ path ∈ ps.map DefaultPage.path

variable {a}

theorem Settled.keys {ps : List DefaultPage} {r : Application × Synthesis} (h : Settled a ps r) :
    (r.1.entities .pages).keys = (a.entities .pages).keys ++ r.2.inserted := by
  rw [Entries.keys, h.pages, h.inserted, List.map_append, List.map_map]
  rfl

theorem settled_nil : Settled a [] (a, {}) where
  pages := (List.append_nil _).symm
  others := (setEntities_entities a .pages).symm
  inserted := rfl
  kept := rfl
  nodup := List.nodup_nil
  fresh := fun _ h => nomatch h
  taken := fun path => by simp

/-- A proposal whose path is taken changes no page. -/
theorem Settled.keep {ps : List DefaultPage} (h : Settled a ps (after a ps)) {p : DefaultPage}
    (hp : ((after a ps).1.entities .pages).contains p.path = true) :
    Settled a (ps ++ [p]) (place (after a ps) p) := by
  have hplaced : placed a (ps ++ [p]) = placed a ps := by
    rw [placed, whereTaken_concat, hp]
    exact List.append_nil _
  have hrefused : refused a (ps ++ [p]) = refused a ps ++ [p] := by
    rw [refused, whereTaken_concat, hp]
    rfl
  have hplace : place (after a ps) p = ((after a ps).1,
      { (after a ps).2 with kept := (after a ps).2.kept ++ [p.path] }) := if_pos hp
  rw [hplace]
  refine ⟨?_, h.others, ?_, ?_, h.nodup, h.fresh, ?_⟩
  · rw [hplaced]
    exact h.pages
  · rw [hplaced]
    exact h.inserted
  · rw [hrefused, List.map_append, ← h.kept]
    rfl
  · intro path
    rw [h.taken, List.map_append, List.mem_append, ← or_assoc]
    refine ⟨.inl, fun hpath => hpath.elim id fun hpath => ?_⟩
    rw [List.map_singleton, List.mem_singleton] at hpath
    rw [Entries.contains_iff, h.taken] at hp
    rwa [hpath]

/-- A proposal whose path is free becomes the last page. -/
theorem Settled.insert {ps : List DefaultPage} (h : Settled a ps (after a ps)) {p : DefaultPage}
    (hp : ((after a ps).1.entities .pages).contains p.path = false) :
    Settled a (ps ++ [p]) (place (after a ps) p) := by
  have hno : p.path ∉ ((after a ps).1.entities .pages).keys := by
    rw [← Entries.contains_iff, hp]
    exact Bool.false_ne_true
  have hplaced : placed a (ps ++ [p]) = placed a ps ++ [p] := by
    rw [placed, whereTaken_concat, hp]
    rfl
  have hrefused : refused a (ps ++ [p]) = refused a ps := by
    rw [refused, whereTaken_concat, hp]
    exact List.append_nil _
  have hplace : place (after a ps) p = ((after a ps).1.put .pages p.path p.toValue,
      { (after a ps).2 with inserted := (after a ps).2.inserted ++ [p.path] }) := by
    rw [place, hp]
    rfl
  rw [hplace]
  have hpages : ((after a ps).1.put .pages p.path p.toValue).entities .pages =
      ((after a ps).1.entities .pages).put p.path p.toValue := by
    simp [Application.put]
  have hold : p.path ∉ (a.entities .pages).keys ∧ p.path ∉ (after a ps).2.inserted := by
    rwa [h.keys, List.mem_append, not_or] at hno
  refine ⟨?_, ?_, ?_, ?_, ?_, ?_, ?_⟩
  · rw [hpages, Entries.put, Entries.putIn_of_not_mem _ hno, h.pages, hplaced]
    simp
  · rw [hpages, h.others]
    simp [Application.put]
  · rw [hplaced, List.map_append, ← h.inserted]
    rfl
  · rw [hrefused]
    exact h.kept
  · rw [List.nodup_append]
    refine ⟨h.nodup, by simp, fun path hpath q hq => ?_⟩
    rw [List.mem_singleton] at hq
    rintro rfl
    exact hold.2 (hq ▸ hpath)
  · intro path hpath
    rcases List.mem_append.mp hpath with hpath | hpath
    · exact h.fresh path hpath
    · rw [List.mem_singleton.mp hpath]
      exact hold.1
  · intro path
    rw [hpages, Entries.keys_put, if_neg hno, List.mem_append, h.taken, List.map_append,
      List.mem_append, or_assoc]
    rfl

variable (a)

theorem settled_after (ps : List DefaultPage) : Settled a ps (after a ps) := by
  induction ps using List.reverseRecOn with
  | nil => exact settled_nil
  | append_singleton ps p ih =>
    rw [after_concat]
    rcases hp : ((after a ps).1.entities .pages).contains p.path with _ | _
    · exact ih.insert hp
    · exact ih.keep hp

theorem whereTaken_sublist (t : Bool) (ps : List DefaultPage) :
    (whereTaken a t ps).Sublist ps := by
  have h := (List.filter_sublist (p := fun x => isTaken a ps x == t) (l := ps.zipIdx)).map Prod.fst
  rwa [List.zipIdx_map_fst] at h

theorem placed_append_refused_perm (ps : List DefaultPage) :
    (placed a ps ++ refused a ps).Perm ps := by
  have hnot : ∀ x, (!(isTaken a ps x == false)) = (isTaken a ps x == true) := by
    intro x
    cases isTaken a ps x <;> rfl
  have h := (List.filter_append_perm (fun x => isTaken a ps x == false) ps.zipIdx).map Prod.fst
  simp only [hnot, List.map_append, List.zipIdx_map_fst] at h
  exact h

theorem proposals_eq : a.proposals =
    ((a.entities .models).toList.filter fun e =>
      ∀ page ∈ (a.entities .pages).toList, ¬ DefaultPage.References e.1 page.2).flatMap fun e =>
        DefaultPage.ofModel e.1 e.2 := by
  refine congrArg (List.flatMap _) (List.filter_congr fun e _ => ?_)
  rw [Bool.eq_iff_iff, decide_eq_true_iff, Bool.not_eq_true', ← Bool.not_eq_true, isShown_iff]
  simp only [not_exists, not_and]

/-- The proposals of an application are the four pages of each model that no page of it references,
in the order of the models. After a run the pages that were there stand first as they were, and
behind them the proposals whose path was free at their turn, each under its own path. Every proposal
is one of these or one of those whose path was taken at its turn, by a page that was there or by an
earlier proposal; the two lists are what is told. Nothing else of the application changes. -/
theorem run_places_proposals (a : Application) :
    let pages := a.entities .pages
    let ps := a.proposals
    let result := Synthesis.run a
    ps = ((a.entities .models).toList.filter fun e =>
        ∀ page ∈ pages.toList, ¬ DefaultPage.References e.1 page.2).flatMap (fun e =>
          [.list, .create, .edit, .view].map fun role => ⟨role, e.1, DefaultPage.fieldNames e.2⟩) ∧
      (result.1.entities .pages).toList =
        pages.toList ++ (placed a ps).map (fun p => (p.path, p.toValue)) ∧
      result.2.inserted = (placed a ps).map DefaultPage.path ∧
      result.2.kept = (refused a ps).map DefaultPage.path ∧
      (placed a ps).Sublist ps ∧ (refused a ps).Sublist ps ∧
      (placed a ps ++ refused a ps).Perm ps ∧
      (∀ x ∈ ps.zipIdx, isTaken a ps x = true ↔
        x.1.path ∈ pages.keys ∨ x.1.path ∈ (ps.take x.2).map DefaultPage.path) ∧
      result.2.inserted.Nodup ∧ (∀ path ∈ result.2.inserted, path ∉ pages.keys) ∧
      result.1 = a.setEntities .pages (result.1.entities .pages) := by
  intro pages ps result
  have h : Settled a ps result := settled_after a ps
  refine ⟨proposals_eq a, h.pages, h.inserted, h.kept, whereTaken_sublist a _ ps,
    whereTaken_sublist a _ ps, placed_append_refused_perm a ps, ?_, h.nodup, h.fresh, h.others⟩
  intro x _
  rw [isTaken, Entries.contains_iff, (settled_after a _).taken]

/-! ## A second run -/

/-- After a run the models that a page references are those that one did and those of the pages that
were placed. -/
theorem isShown_run (model : String) : (run a).1.isShown model = true ↔
    a.isShown model = true ∨ ∃ p ∈ placed a a.proposals, p.model = model := by
  have h : Settled a a.proposals (run a) := settled_after a a.proposals
  simp only [isShown_iff, h.pages, List.mem_append, List.mem_map, or_and_right, exists_or]
  refine or_congr Iff.rfl ⟨?_, ?_⟩
  · rintro ⟨page, ⟨p, hp, rfl⟩, href⟩
    exact ⟨p, hp, (p.references_toValue_iff model).mp href⟩
  · rintro ⟨p, hp, hmodel⟩
    exact ⟨_, ⟨p, hp, rfl⟩, (p.references_toValue_iff model).mpr hmodel⟩

theorem foldl_place_of_taken :
    ∀ (ps : List DefaultPage) (s : Synthesis),
      (∀ p ∈ ps, (a.entities .pages).contains p.path = true) →
      ps.foldl place (a, s) = (a, { s with kept := s.kept ++ ps.map DefaultPage.path })
  | [], s, _ => by simp
  | p :: ps, s, h => by
    have hp : place (a, s) p = (a, { s with kept := s.kept ++ [p.path] }) :=
      if_pos (h p List.mem_cons_self)
    rw [List.foldl_cons, hp,
      foldl_place_of_taken ps _ fun q hq => h q (List.mem_cons_of_mem p hq)]
    simp

/-- A second run changes nothing. It proposes the pages of the models that no page referenced and for
which the first run placed none, and finds the paths of all of them taken. -/
theorem run_run (a : Application) :
    let first := Synthesis.run a
    let second := Synthesis.run first.1
    second.1 = first.1 ∧ second.2.inserted = [] ∧
      second.2.kept = (((a.entities .models).toList.filter fun e =>
        (∀ page ∈ (a.entities .pages).toList, ¬ DefaultPage.References e.1 page.2) ∧
          ∀ p ∈ placed a a.proposals, p.model ≠ e.1).flatMap fun e =>
            (DefaultPage.ofModel e.1 e.2).map DefaultPage.path) ∧
      (first.1.entities .pages).toList = (a.entities .pages).toList ++
        (placed a a.proposals).map fun p => (p.path, p.toValue) := by
  intro first second
  have h : Settled a a.proposals first := settled_after a a.proposals
  have hmodels : first.1.entities .models = a.entities .models := by
    rw [h.others]
    rfl
  have hagain : first.1.proposals = ((a.entities .models).toList.filter fun e =>
      (∀ page ∈ (a.entities .pages).toList, ¬ DefaultPage.References e.1 page.2) ∧
        ∀ p ∈ placed a a.proposals, p.model ≠ e.1).flatMap fun e =>
          DefaultPage.ofModel e.1 e.2 := by
    rw [Application.proposals, hmodels]
    refine congrArg (List.flatMap _) (List.filter_congr fun e _ => ?_)
    rw [Bool.eq_iff_iff, decide_eq_true_iff, Bool.not_eq_true', ← Bool.not_eq_true, isShown_run,
      isShown_iff]
    simp only [not_or, not_exists, not_and, ne_eq]
  have hsub : ∀ p ∈ first.1.proposals, p ∈ a.proposals := by
    intro p hp
    rw [hagain, List.mem_flatMap] at hp
    obtain ⟨e, he, hpe⟩ := hp
    rw [List.mem_filter, decide_eq_true_iff] at he
    rw [proposals_eq, List.mem_flatMap]
    exact ⟨e, List.mem_filter.mpr ⟨he.1, decide_eq_true he.2.1⟩, hpe⟩
  have htaken : ∀ p ∈ first.1.proposals, (first.1.entities .pages).contains p.path = true := by
    intro p hp
    rw [Entries.contains_iff, h.taken]
    exact .inr (List.mem_map_of_mem (hsub p hp))
  have hsecond : second = (first.1, ⟨[], first.1.proposals.map DefaultPage.path⟩) :=
    foldl_place_of_taken first.1 _ {} htaken
  refine ⟨by rw [hsecond], by rw [hsecond], ?_, h.pages⟩
  rw [hsecond, hagain, List.map_flatMap]

/-- Names that differ in case alone share their paths: the second model never gets a page, and each
later run tells so again. -/
example :
    let a : Application := { entities := fun c =>
      if c = .models then ⟨[("Todo", .map []), ("TODO", .map [])]⟩ else Entries.empty }
    let paths := ["/todos", "/todos/create", "/todos/\x7bid\x7d/edit", "/todos/\x7bid\x7d"]
    (run a).2 = ⟨paths, paths⟩ ∧ (run (run a).1).2 = ⟨[], paths⟩ := by
  decide +kernel

end Synthesis

end AppSpec
