import AppSpec.Proofs.DefaultPages

/-!
# What holds back default pages

Two default pages have the same path if and only if they have the same role and their models the
same name but for case (`DefaultPage.path_eq_iff`). So the path of a proposal is taken at its turn
by a page that was there, or by the page of a model before it whose name differs in case alone, and
by nothing else (`Synthesis.mem_refused_iff`). A path that is told as kept need not be the path of a
page that anyone wrote (`Synthesis.kept_of_run`).
-/

namespace AppSpec

namespace DefaultPage

/-- What follows the name of the model in the path of a page. -/
def pathEnd : PageRole → String
  | .list => "s"
  | .create => "s/create"
  | .edit => "s/\x7bid\x7d/edit"
  | .view => "s/\x7bid\x7d"

theorem toList_path (p : DefaultPage) :
    p.path.toList = '/' :: (Text.lowercase p.model).toList ++ (pathEnd p.role).toList := by
  obtain ⟨role, model, fields⟩ := p
  cases role <;> simp [path, basePath, pathEnd]

/-- The last character of a path tells the role of its page. -/
theorem role_of_path_eq {p q : DefaultPage} (h : p.path = q.path) : p.role = q.role := by
  have hlast : ∀ r : DefaultPage, r.path.toList.getLast? = (pathEnd r.role).toList.getLast? := by
    intro r
    rw [toList_path, List.getLast?_append]
    cases r.role <;> rfl
  have hends : (pathEnd p.role).toList.getLast? = (pathEnd q.role).toList.getLast? := by
    rw [← hlast, ← hlast, h]
  revert hends
  cases p.role <;> cases q.role <;> decide

theorem path_eq_iff (p q : DefaultPage) :
    p.path = q.path ↔ p.role = q.role ∧ Text.lowercase p.model = Text.lowercase q.model := by
  constructor
  · intro h
    have hrole := role_of_path_eq h
    have hchars := congrArg String.toList h
    rw [toList_path, toList_path, hrole] at hchars
    exact ⟨hrole, String.toList_inj.mp (List.cons.inj (List.append_cancel_right hchars)).2⟩
  · rintro ⟨hrole, hmodel⟩
    rw [← String.toList_inj, toList_path, toList_path, hrole, hmodel]

/-- The paths at which the pages of a model are proposed. -/
def pathsOf (model : String) : List String :=
  let base := "/" ++ Text.lowercase model ++ "s"
  [base, base ++ "/create", base ++ "/\x7bid\x7d/edit", base ++ "/\x7bid\x7d"]

theorem map_path_ofModel (name : String) (model : Value) :
    (ofModel name model).map path = pathsOf name :=
  rfl

theorem nodup_ofModel (name : String) (model : Value) :
    ((ofModel name model).map path).Nodup := by
  have hroles : PageRole.all.Nodup := by decide
  rw [ofModel, List.map_map, List.Nodup, List.pairwise_map]
  exact hroles.imp fun hne hpath => hne (role_of_path_eq hpath)

end DefaultPage

/-- The models that no page references, in order. -/
def Application.unreferenced (a : Application) : List (String × Value) :=
  (a.entities .models).toList.filter fun e =>
    ∀ page ∈ (a.entities .pages).toList, ¬ DefaultPage.References e.1 page.2

/-- What a list made element by element holds comes with one of the elements and those before it. -/
theorem mem_iff_of_concat {α β : Type} {f : List α → List β} {g : List α → α → List β}
    (hnil : f [] = []) (hconcat : ∀ l x, f (l ++ [x]) = f l ++ g l x) (y : β) (l : List α) :
    y ∈ f l ↔ ∃ before x rest, l = before ++ x :: rest ∧ y ∈ g before x := by
  induction l using List.reverseRecOn with
  | nil => simp [hnil]
  | append_singleton l x ih =>
    rw [hconcat, List.mem_append, ih]
    constructor
    · rintro (⟨before, z, rest, rfl, hy⟩ | hy)
      · exact ⟨before, z, rest ++ [x], by simp, hy⟩
      · exact ⟨l, x, [], rfl, hy⟩
    · rintro ⟨before, z, rest, hl, hy⟩
      rcases List.eq_nil_or_concat rest with rfl | ⟨rest, w, rfl⟩
      · obtain ⟨rfl, hz⟩ := List.append_inj' hl rfl
        cases hz
        exact .inr hy
      · rw [List.concat_eq_append, ← List.cons_append, ← List.append_assoc] at hl
        exact .inl ⟨before, z, rest, (List.append_inj' hl rfl).1, hy⟩

theorem pairwise_iff_of_split {α : Type} {R : α → α → Prop} {l : List α} :
    l.Pairwise R ↔ ∀ before x rest, l = before ++ x :: rest → ∀ y ∈ before, R y x := by
  constructor
  · rintro h before x rest rfl y hy
    exact (List.pairwise_append.mp h).2.2 y hy x List.mem_cons_self
  · intro h
    rw [List.pairwise_iff_getElem]
    intro i j hi hj hij
    have hsplit : l = l.take j ++ l[j] :: l.drop (j + 1) := by
      rw [List.getElem_cons_drop, List.take_append_drop]
    exact h _ _ _ hsplit _ (List.mem_take_iff_getElem.mpr ⟨i, by omega, rfl⟩)

namespace Synthesis

open Application DefaultPage

variable (a : Application)

/-- The path belongs to a page that was there or to one of the proposals. -/
def Occupied (ps : List DefaultPage) (path : String) : Prop :=
  path ∈ (a.entities .pages).keys ∨ path ∈ ps.map DefaultPage.path

instance (ps : List DefaultPage) (path : String) : Decidable (Occupied a ps path) :=
  inferInstanceAs (Decidable (_ ∨ _))

/-- Proposals of different paths do not stand in each other's way. -/
theorem refused_append (ps qs : List DefaultPage) (h : (qs.map path).Nodup) :
    refused a (ps ++ qs) = refused a ps ++ qs.filter fun q => Occupied a ps q.path := by
  induction qs using List.reverseRecOn with
  | nil => simp
  | append_singleton qs q ih =>
    rw [List.map_append, List.nodup_append] at h
    obtain ⟨hqs, -, hnew⟩ := h
    have hq : q.path ∉ qs.map path := fun hmem => hnew q.path hmem q.path (by simp) rfl
    have htaken : ((after a (ps ++ qs)).1.entities .pages).contains q.path =
        decide (Occupied a ps q.path) := by
      rw [Bool.eq_iff_iff, decide_eq_true_iff, Entries.contains_iff, (settled_after a _).taken,
        List.map_append, List.mem_append, or_iff_left hq]
      rfl
    have hlast : refused a (ps ++ qs ++ [q]) = refused a (ps ++ qs) ++
        if Occupied a ps q.path then [q] else [] := by
      rw [refused, whereTaken_concat, htaken]
      simp only [beq_true, decide_eq_true_eq]
      rfl
    rw [← List.append_assoc, hlast, ih hqs, List.append_assoc, List.filter_append]
    congr 2
    simp [List.filter_cons]

theorem model_of_mem_ofModel {name : String} {model : Value} {p : DefaultPage}
    (h : p ∈ ofModel name model) : p.model = name := by
  obtain ⟨role, -, rfl⟩ := List.mem_map.mp h
  rfl

/-- The path of a model's page is that of a page of other models if and only if the name of one of
them differs from its own in case alone. -/
theorem path_mem_iff (us : List (String × Value)) (p : DefaultPage) :
    p.path ∈ (us.flatMap fun e => ofModel e.1 e.2).map path ↔
      ∃ e ∈ us, Text.lowercase e.1 = Text.lowercase p.model := by
  simp only [List.mem_map, List.mem_flatMap]
  constructor
  · rintro ⟨q, ⟨e, he, hq⟩, hpath⟩
    refine ⟨e, he, ?_⟩
    rw [← model_of_mem_ofModel hq]
    exact ((path_eq_iff q p).mp hpath).2
  · rintro ⟨e, he, hlower⟩
    refine ⟨⟨p.role, e.1, fieldNames e.2⟩, ⟨e, he, ?_⟩, (path_eq_iff _ p).mpr ⟨rfl, hlower⟩⟩
    refine List.mem_map_of_mem ?_
    cases p.role <;> decide

/-- A proposal is refused if its path is that of a page that was there or if the name of a model
before its own differs from it in case alone. -/
theorem mem_refused_iff (us : List (String × Value)) (p : DefaultPage) :
    p ∈ refused a (us.flatMap fun e => ofModel e.1 e.2) ↔
      ∃ before e rest, us = before ++ e :: rest ∧ p ∈ ofModel e.1 e.2 ∧
        (p.path ∈ (a.entities .pages).keys ∨
          ∃ e' ∈ before, Text.lowercase e'.1 = Text.lowercase e.1) := by
  let pages (us : List (String × Value)) := us.flatMap fun e => ofModel e.1 e.2
  have hconcat : ∀ us e, refused a (pages (us ++ [e])) =
      refused a (pages us) ++ (ofModel e.1 e.2).filter fun q => Occupied a (pages us) q.path := by
    intro us e
    have hpages : pages (us ++ [e]) = pages us ++ ofModel e.1 e.2 := by simp [pages]
    rw [hpages, refused_append a _ _ (nodup_ofModel e.1 e.2)]
  refine (mem_iff_of_concat (f := fun us => refused a (pages us)) rfl hconcat p us).trans ?_
  refine exists_congr fun before => exists_congr fun e => exists_congr fun rest =>
    and_congr_right fun _ => ?_
  rw [List.mem_filter, decide_eq_true_iff, Occupied, path_mem_iff]
  exact and_congr_right fun hp => by rw [model_of_mem_ofModel hp]

/-- A path is kept if it is one of a model that no page references and belongs to a page that was
there or to a model before this one whose name differs in case alone. -/
theorem mem_kept_iff (path : String) : path ∈ (run a).2.kept ↔
    ∃ before e rest, a.unreferenced = before ++ e :: rest ∧ path ∈ pathsOf e.1 ∧
      (path ∈ (a.entities .pages).keys ∨
        ∃ e' ∈ before, Text.lowercase e'.1 = Text.lowercase e.1) := by
  have h : Settled a a.proposals (run a) := settled_after a a.proposals
  rw [h.kept, proposals_eq, List.mem_map]
  constructor
  · rintro ⟨p, hp, rfl⟩
    obtain ⟨before, e, rest, hsplit, hmem, hheld⟩ := (mem_refused_iff a _ p).mp hp
    exact ⟨before, e, rest, hsplit, map_path_ofModel e.1 e.2 ▸ List.mem_map_of_mem hmem, hheld⟩
  · rintro ⟨before, e, rest, hsplit, hmem, hheld⟩
    obtain ⟨p, hp, rfl⟩ := List.mem_map.mp (map_path_ofModel e.1 e.2 ▸ hmem)
    exact ⟨p, (mem_refused_iff a _ p).mpr ⟨before, e, rest, hsplit, hp, hheld⟩, rfl⟩

/-- After a run every model has a page that references it, or all its paths were kept. -/
theorem shown_or_kept {e : String × Value} (he : e ∈ (a.entities .models).toList) :
    (run a).1.isShown e.1 = true ∨ ∀ path ∈ pathsOf e.1, path ∈ (run a).2.kept := by
  have h : Settled a a.proposals (run a) := settled_after a a.proposals
  by_cases hshown : (run a).1.isShown e.1 = true
  · exact .inl hshown
  · right
    rw [isShown_run, not_or] at hshown
    obtain ⟨hno, hplaced⟩ := hshown
    intro path hpath
    rw [← map_path_ofModel e.1 e.2] at hpath
    obtain ⟨p, hp, rfl⟩ := List.mem_map.mp hpath
    have hproposed : p ∈ a.proposals :=
      List.mem_flatMap.mpr ⟨e, List.mem_filter.mpr ⟨he, by simpa using hno⟩, hp⟩
    rw [h.kept]
    refine List.mem_map_of_mem ?_
    have hturn := (placed_append_refused_perm a a.proposals).mem_iff.mpr hproposed
    rcases List.mem_append.mp hturn with hp' | hp'
    · exact absurd ⟨p, hp', model_of_mem_ofModel hp⟩ hplaced
    · exact hp'

/-- The paths that are kept are those of models that no page references, each held by a page that
was there or by a model before it whose name differs in case alone. So all of them were paths of
pages if and only if a model whose name differs from an earlier one in case alone had pages at all
its paths. Every model is referenced by a page in the end, or all its paths are kept and have pages.
-/
theorem kept_of_run (a : Application) :
    let pages := (a.entities .pages).keys
    let result := run a
    (∀ path, path ∈ result.2.kept ↔
        ∃ before e rest, a.unreferenced = before ++ e :: rest ∧ path ∈ pathsOf e.1 ∧
          (path ∈ pages ∨ ∃ e' ∈ before, Text.lowercase e'.1 = Text.lowercase e.1)) ∧
      ((∀ path ∈ result.2.kept, path ∈ pages) ↔
        a.unreferenced.Pairwise fun e' e =>
          Text.lowercase e'.1 = Text.lowercase e.1 → ∀ path ∈ pathsOf e.1, path ∈ pages) ∧
      ∀ e ∈ (a.entities .models).toList,
        (∃ page ∈ (result.1.entities .pages).toList, References e.1 page.2) ∨
          ∀ path ∈ pathsOf e.1, path ∈ result.2.kept ∧ path ∈ (result.1.entities .pages).keys := by
  intro pages result
  have h : Settled a a.proposals result := settled_after a a.proposals
  refine ⟨mem_kept_iff a, ?_, fun e he => ?_⟩
  · rw [pairwise_iff_of_split]
    constructor
    · intro hkept before e rest hsplit e' he' hlower path hpath
      exact hkept path
        ((mem_kept_iff a path).mpr ⟨before, e, rest, hsplit, hpath, .inr ⟨e', he', hlower⟩⟩)
    · intro hpairs path hpath
      obtain ⟨before, e, rest, hsplit, hmem, hpage | ⟨e', he', hlower⟩⟩ :=
        (mem_kept_iff a path).mp hpath
      · exact hpage
      · exact hpairs before e rest hsplit e' he' hlower path hmem
  · refine (shown_or_kept a he).imp (isShown_iff _ _).mp fun hkept path hpath =>
      ⟨hkept path hpath, ?_⟩
    have hrefused := hkept path hpath
    rw [h.kept] at hrefused
    exact (h.taken path).mpr (.inr (((whereTaken_sublist a _ _).map _).mem hrefused))

/-- Of two models whose names differ in case alone the second gets no page, since the first one has
got them all. -/
theorem kept_of_two_cases :
    let a : Application := { entities := fun c =>
      if c = .models then ⟨[("Todo", .map []), ("TODO", .map [])]⟩ else Entries.empty }
    let result := Synthesis.run a
    (∃ path ∈ result.2.kept, path ∉ (a.entities .pages).keys) ∧
      "TODO" ∈ (a.entities .models).keys ∧
      (∀ page ∈ (result.1.entities .pages).toList, ¬ References "TODO" page.2) ∧
      ∃ path ∈ pathsOf "TODO", path ∉ (a.entities .pages).keys := by
  decide +kernel

end Synthesis

end AppSpec
