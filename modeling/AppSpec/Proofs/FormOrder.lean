import AppSpec.Proofs.ComponentOrder
import AppSpec.Proofs.DialectParts

/-!
# The order of the forms

The forms of an application are those of its test documents, document by document: first the ones that
a document lists, then those in its page, then those in its pages (`Document.forms`). Every form of a
document stands at a place (`Document.FormAt`), and the forms are one for each place, in the order of
the places (`Document.ordered_forms`). Of the definitions that are applied only forms add to those of
the application, and only test documents define any (`smartForms_ofDocuments`).
-/

namespace AppSpec

open Value

/-- The component says that it is a smart form. -/
def IsSmartForm (c : Mapping) : Prop :=
  (c.get? "component").bind asString? = some "smart_form"

instance (c : Mapping) : Decidable (IsSmartForm c) :=
  inferInstanceAs (Decidable (_ = _))

namespace Document

/-- The smart forms of a tree. -/
def formsIn (tree : Value) : List Mapping :=
  (Component.all tree).filter IsSmartForm

/-- The smart forms in the body of a page. -/
def bodyForms (page : Mapping) : List Mapping :=
  ((page.get? "body").map formsIn).getD []

/-- The forms that a test document lists, or the only one that it has instead of a list. -/
def listedForms (d : Document) : List Mapping :=
  match d.body.get? "smart_forms" with
  | some (.list items) => items.filterMap asMap?
  | some (.map m) => [m]
  | _ => []

/-- The forms in what a test document calls its page. -/
def pageForms (d : Document) : List Mapping :=
  match d.body.get? "page" with
  | some (.map page) => bodyForms page
  | some (.list items) => formsIn (.list items)
  | _ => []

/-- The forms in one of the pages. -/
def entryForms : Value → List Mapping
  | .map page => bodyForms page
  | tree => formsIn tree

/-- The forms in what a test document calls its pages. -/
def pagesForms (d : Document) : List Mapping :=
  match d.body.get? "pages" with
  | some (.map pages) => pages.flatMap fun e => entryForms e.2
  | _ => []

/-- All forms of a test document. -/
def forms (d : Document) : List Mapping :=
  d.listedForms ++ d.pageForms ++ d.pagesForms

/-- The form stands at the place in the document: in the list of forms, in the page or in the pages. A
value under a tag is no page, and looked through as a tree. -/
inductive FormAt (d : Document) : List Nat → Mapping → Prop
  | alone {m : Mapping} (hform : d.body.get? "smart_forms" = some (.map m)) : FormAt d [0] m
  | listed {items : List Value} {i : Nat} {v : Value} {m : Mapping}
    (hforms : d.body.get? "smart_forms" = some (.list items)) (hv : items[i]? = some v)
    (hm : v.asMap? = some m) : FormAt d [0, i] m
  | page {page m : Mapping} {tree : Value} {place : List Nat}
    (hpage : d.body.get? "page" = some (.map page)) (hbody : page.get? "body" = some tree)
    (h : Component.At tree place m) (hm : IsSmartForm m) : FormAt d (1 :: place) m
  | pageList {items : List Value} {place : List Nat} {m : Mapping}
    (hpage : d.body.get? "page" = some (.list items)) (h : Component.At (.list items) place m)
    (hm : IsSmartForm m) : FormAt d (1 :: place) m
  | pages {pages page m : Mapping} {i : Nat} {key tree : Value} {place : List Nat}
    (hpages : d.body.get? "pages" = some (.map pages)) (hentry : pages[i]? = some (key, .map page))
    (hbody : page.get? "body" = some tree) (h : Component.At tree place m) (hm : IsSmartForm m) :
    FormAt d (2 :: i :: place) m
  | pagesTree {pages m : Mapping} {i : Nat} {key tree : Value} {place : List Nat}
    (hpages : d.body.get? "pages" = some (.map pages)) (hentry : pages[i]? = some (key, tree))
    (htree : ∀ page, tree ≠ .map page) (h : Component.At tree place m) (hm : IsSmartForm m) :
    FormAt d (2 :: i :: place) m

/-! ## One document -/

theorem ordered_formsIn (tree : Value) :
    Ordered (fun place m => Component.At tree place m ∧ IsSmartForm m) (formsIn tree) :=
  ((Component.ordered_all tree).filter (IsSmartForm ·)).congr fun place m => by
    rw [decide_eq_true_eq]

theorem ordered_bodyForms (page : Mapping) :
    Ordered (fun place m => ∃ tree, page.get? "body" = some tree ∧
      Component.At tree place m ∧ IsSmartForm m) (bodyForms page) :=
  .ofOption fun tree _ => ordered_formsIn tree

theorem ordered_listedForms (d : Document) :
    Ordered (fun place m => d.FormAt (0 :: place) m) d.listedForms := by
  unfold listedForms
  split
  · rename_i items hforms
    rw [List.filterMap_eq_flatMap_toList]
    have hitem : ∀ v ∈ items, Ordered (fun place m => place = [] ∧ v.asMap? = some m)
        v.asMap?.toList := by
      intro v _
      rcases v.asMap? with _ | m
      · exact .nil fun _ _ h => nomatch h.2
      · exact (Ordered.singleton m).congr fun place m' => by simp [eq_comm]
    refine (Ordered.flatMap hitem).congr fun place m => ⟨?_, ?_⟩
    · rintro ⟨i, v, rest, rfl, hv, rfl, hm⟩
      exact .listed hforms hv hm
    · rintro (hform | ⟨hforms', hv, hm⟩)
      · rw [hforms] at hform
        cases hform
      · rw [hforms] at hforms'
        cases hforms'
        exact ⟨_, _, [], rfl, hv, rfl, hm⟩
  · rename_i m hform
    refine (Ordered.singleton m).congr fun place m' => ⟨?_, ?_⟩
    · rintro ⟨rfl, rfl⟩
      exact .alone hform
    · rintro (hform' | ⟨hforms, -, -⟩)
      · rw [hform] at hform'
        cases hform'
        exact ⟨rfl, rfl⟩
      · rw [hform] at hforms
        cases hforms
  · rename_i hlist hmap
    refine .nil fun place m h => ?_
    rcases h with hform | ⟨hforms, -, -⟩
    · exact hmap _ hform
    · exact hlist _ hforms

theorem ordered_pageForms (d : Document) :
    Ordered (fun place m => d.FormAt (1 :: place) m) d.pageForms := by
  unfold pageForms
  split
  · rename_i page hpage
    refine (ordered_bodyForms page).congr fun place m => ⟨?_, ?_⟩
    · rintro ⟨tree, hbody, h, hm⟩
      exact .page hpage hbody h hm
    · intro h
      cases h with
      | page hpage' hbody h hm =>
        rw [hpage] at hpage'
        cases hpage'
        exact ⟨_, hbody, h, hm⟩
      | pageList hpage' =>
        rw [hpage] at hpage'
        cases hpage'
  · rename_i items hpage
    refine (ordered_formsIn (.list items)).congr fun place m => ⟨?_, ?_⟩
    · rintro ⟨h, hm⟩
      exact .pageList hpage h hm
    · intro h
      cases h with
      | page hpage' =>
        rw [hpage] at hpage'
        cases hpage'
      | pageList hpage' h hm =>
        rw [hpage] at hpage'
        cases hpage'
        exact ⟨h, hm⟩
  · rename_i hmap hlist
    refine .nil fun place m h => ?_
    cases h with
    | page hpage => exact hmap _ hpage
    | pageList hpage => exact hlist _ hpage

theorem ordered_entryForms (tree : Value) :
    Ordered (fun place m => (∃ page body, tree = .map page ∧ Mapping.get? page "body" = some body ∧
      Component.At body place m ∧ IsSmartForm m) ∨
      (∀ page, tree ≠ .map page) ∧ Component.At tree place m ∧ IsSmartForm m) (entryForms tree) := by
  unfold entryForms
  split
  · rename_i page
    refine (ordered_bodyForms page).congr fun place m => ⟨?_, ?_⟩
    · rintro ⟨body, hbody, h⟩
      exact .inl ⟨page, body, rfl, hbody, h⟩
    · rintro (⟨page', body, hpage, hbody, h⟩ | ⟨htree, -⟩)
      · cases hpage
        exact ⟨body, hbody, h⟩
      · exact absurd rfl (htree page)
  · rename_i htree
    refine (ordered_formsIn tree).congr fun place m => ⟨fun h => .inr ⟨htree, h⟩, ?_⟩
    rintro (⟨page, body, hpage, -⟩ | ⟨-, h⟩)
    · exact absurd hpage (htree page)
    · exact h

theorem ordered_pagesForms (d : Document) :
    Ordered (fun place m => d.FormAt (2 :: place) m) d.pagesForms := by
  unfold pagesForms
  split
  · rename_i pages hpages
    refine (Ordered.flatMap fun e _ => ordered_entryForms e.2).congr fun place m => ⟨?_, ?_⟩
    · rintro ⟨i, ⟨key, tree⟩, rest, rfl, hentry, ⟨page, body, rfl, hbody, h, hm⟩ | ⟨htree, h, hm⟩⟩
      · exact .pages hpages hentry hbody h hm
      · exact .pagesTree hpages hentry htree h hm
    · intro h
      cases h with
      | pages hpages' hentry hbody h hm =>
        rw [hpages] at hpages'
        cases hpages'
        exact ⟨_, _, _, rfl, hentry, .inl ⟨_, _, rfl, hbody, h, hm⟩⟩
      | pagesTree hpages' hentry htree h hm =>
        rw [hpages] at hpages'
        cases hpages'
        exact ⟨_, _, _, rfl, hentry, .inr ⟨htree, h, hm⟩⟩
  · rename_i hmap
    refine .nil fun place m h => ?_
    cases h with
    | pages hpages => exact hmap _ hpages
    | pagesTree hpages => exact hmap _ hpages

/-- The forms of a document are one for each place, in the order of the places. -/
theorem ordered_forms (d : Document) : Ordered d.FormAt d.forms := by
  have hfirst := d.ordered_listedForms.under 0
  have hpage := d.ordered_pageForms.under 1
  have hpages := d.ordered_pagesForms.under 2
  refine ((hfirst.append hpage ?_).append hpages ?_).congr fun place m => ⟨?_, fun h => ?_⟩
  · rintro _ _ a b ⟨rest, rfl, -⟩ ⟨rest', rfl, -⟩
    exact List.cons_lt_cons_iff.mpr (.inl Nat.zero_lt_one)
  · rintro _ _ a b (⟨rest, rfl, -⟩ | ⟨rest, rfl, -⟩) ⟨rest', rfl, -⟩
    · exact List.cons_lt_cons_iff.mpr (.inl Nat.zero_lt_two)
    · exact List.cons_lt_cons_iff.mpr (.inl Nat.one_lt_two)
  · rintro ((⟨rest, rfl, h⟩ | ⟨rest, rfl, h⟩) | ⟨rest, rfl, h⟩) <;> exact h
  · cases h with
    | alone hform => exact .inl (.inl ⟨_, rfl, .alone hform⟩)
    | listed hforms hv hm => exact .inl (.inl ⟨_, rfl, .listed hforms hv hm⟩)
    | page hpage hbody h hm => exact .inl (.inr ⟨_, rfl, .page hpage hbody h hm⟩)
    | pageList hpage h hm => exact .inl (.inr ⟨_, rfl, .pageList hpage h hm⟩)
    | pages hpages hentry hbody h hm => exact .inr ⟨_, rfl, .pages hpages hentry hbody h hm⟩
    | pagesTree hpages hentry htree h hm =>
      exact .inr ⟨_, rfl, .pagesTree hpages hentry htree h hm⟩

/-- A document that is no test document has no forms. -/
theorem ordered_ownForms (d : Document) :
    Ordered (fun place m => d.dialect = .testflow ∧ d.FormAt place m)
      (if d.dialect = .testflow then d.forms else []) := by
  split
  · rename_i h
    exact d.ordered_forms.congr fun _ _ => (and_iff_right h).symm
  · rename_i h
    exact .nil fun _ _ hm => h hm.1

theorem flatMap_filter {α : Type} (f : Document → List α) (ds : List Document) :
    (ds.filter (·.dialect = .testflow)).flatMap f =
      ds.flatMap fun d => if d.dialect = .testflow then f d else [] := by
  induction ds with
  | nil => rfl
  | cons d ds ih =>
    rw [List.filter_cons, List.flatMap_cons, ← ih]
    by_cases h : d.dialect = .testflow <;> simp [h]

end Document

namespace Definition

/-- The form that a definition adds. -/
def form? : Definition → Option Mapping
  | .form config => some config
  | _ => none

theorem form?_eq_none_of_belongsTo {δ : Dialect} (hδ : δ ≠ .testflow) {x : Definition}
    (hx : x.BelongsTo δ) : x.form? = none := by
  cases x with
  | form config => exact absurd hx hδ
  | _ => rfl

theorem filterMap_form?_underKey (body : Mapping) (key : String) (c : Category) :
    (underKey body key c).filterMap form? = [] := by
  rw [List.filterMap_eq_nil_iff]
  intro x hx
  unfold underKey at hx
  split at hx
  · rcases mem_ofMapping hx with ⟨m, hm⟩ | rfl
    · obtain ⟨e, -, rfl⟩ := List.mem_map.mp hm
      split <;> rfl
    · rfl
  · cases hx

theorem filterMap_form?_forms (d : Document) :
    (forms (d.body.get? "smart_forms")).filterMap form? = d.listedForms := by
  unfold Document.listedForms
  rcases d.body.get? "smart_forms" with _ | v
  · rfl
  · cases v with
    | list items =>
      rw [forms, List.filterMap_map]
      refine List.filterMap_congr fun v _ => ?_
      simp only [Function.comp_apply, ofFormItem]
      rcases v.asMap? with _ | m <;> rfl
    | _ => rfl

/-- The components of trees that say that they are forms. -/
theorem found_isSmartForm : Component.found isSmartForm = Document.formsIn := by
  funext tree
  rw [Component.found_eq]
  refine List.filter_congr fun c _ => ?_
  rw [Bool.eq_iff_iff, decide_eq_true_iff, isSmartForm, beq_iff_eq]
  rfl

theorem flatMap_body (page : Mapping) :
    (page.get? "body").toList.flatMap Document.formsIn = Document.bodyForms page := by
  unfold Document.bodyForms
  rcases page.get? "body" with _ | tree <;> simp

theorem flatMap_pageTree (v : Value) :
    (pageTree v).flatMap Document.formsIn = Document.entryForms v := by
  cases v with
  | map page => exact flatMap_body page
  | _ => exact List.append_nil _

/-- The forms of the trees that are looked through are those of the page and of the pages. -/
theorem flatMap_formTrees (d : Document) :
    (formTrees d.body).flatMap Document.formsIn = d.pageForms ++ d.pagesForms := by
  unfold formTrees Document.pageForms Document.pagesForms
  rw [List.flatMap_append]
  congr 1
  · rcases d.body.get? "page" with _ | v
    · rfl
    · cases v with
      | map page => exact flatMap_body page
      | list items => exact List.append_nil _
      | _ => rfl
  · rcases d.body.get? "pages" with _ | v
    · rfl
    · cases v with
      | map pages =>
        simp only [List.flatMap_assoc, flatMap_pageTree]
      | _ => rfl

theorem filterMap_form?_ofTestflow (d : Document) :
    (ofTestflow d.body).filterMap form? = d.forms := by
  have htrees : ∀ l : List Mapping, (l.map Definition.form).filterMap form? = l := by
    intro l
    rw [List.filterMap_map]
    exact List.filterMap_some
  unfold ofTestflow
  simp only [List.filterMap_append, filterMap_form?_underKey, filterMap_form?_forms, htrees,
    found_isSmartForm, flatMap_formTrees, List.nil_append, Document.forms, List.append_assoc]

end Definition

/-- Test documents define their forms, and no others define any. -/
theorem Document.filterMap_form? (d : Document) :
    d.definitions.filterMap Definition.form? = if d.dialect = .testflow then d.forms else [] := by
  split
  · rename_i h
    simp only [definitions, h, Definition.filterMap_form?_ofTestflow]
  · rename_i h
    exact List.filterMap_eq_nil_iff.mpr fun x hx =>
      Definition.form?_eq_none_of_belongsTo h (d.belongsTo_definitions x hx)

namespace Merge

/-- A form is read and comes last; no other definition changes the forms. -/
theorem smartForms_apply (m : Merge) (file : String) (x : Definition) :
    (m.apply file x).application.smartForms =
      m.application.smartForms ++ x.form?.toList.map SmartForm.read := by
  cases x with
  | form config => rfl
  | integration kind body =>
    simp only [apply, setIntegration]
    split <;> exact (List.append_nil _).symm
  | _ => exact (List.append_nil _).symm

theorem smartForms_add (m : Merge) (d : Document) :
    (m.add d).application.smartForms = m.application.smartForms ++
      (if d.dialect = .testflow then d.forms else []).map SmartForm.read := by
  rw [← d.filterMap_form?, List.filterMap_eq_flatMap_toList, List.map_flatMap]
  exact foldl_extends (I := fun met (m : Merge) => m.application.smartForms = met)
    (f := apply d.path) d.definitions (fun x _ met m h => by rw [smartForms_apply, h]) rfl

theorem smartForms_foldl_add (ds : List Document) (m : Merge) :
    (ds.foldl add m).application.smartForms = m.application.smartForms ++
      ds.flatMap fun d => (if d.dialect = .testflow then d.forms else []).map SmartForm.read :=
  foldl_extends (I := fun met (m : Merge) => m.application.smartForms = met) (f := add) ds
    (fun d _ met m h => by rw [smartForms_add, h]) rfl

end Merge

/-- The smart forms of an application are what is read from the forms of its test documents, document
by document, and other documents have no part in them. There is one for each place at which a test
document has a form, in the order of the documents and of the places in them, and a form inside another
one stands behind it. -/
theorem smartForms_ofDocuments (ds : List Document) :
    let a := (Merge.ofDocuments ds).application
    a.smartForms = (ds.filter (·.dialect = .testflow)).flatMap (fun d =>
        (d.listedForms ++ d.pageForms ++ d.pagesForms).map SmartForm.read) ∧
      Ordered (fun place form => ∃ i d rest, place = i :: rest ∧ ds[i]? = some d ∧
        d.dialect = .testflow ∧ ∃ m, d.FormAt rest m ∧ SmartForm.read m = form) a.smartForms ∧
      ∀ tree place place' c c', Component.At tree place c → Component.At (.map c) place' c' →
        Component.At tree (place ++ place') c' ∧ (place' ≠ [] → place < place ++ place') := by
  intro a
  have hforms : a.smartForms =
      ds.flatMap fun d => (if d.dialect = .testflow then d.forms else []).map SmartForm.read :=
    Merge.smartForms_foldl_add ds Merge.empty
  refine ⟨?_, ?_, fun tree place place' c c' h h' => ⟨h.trans h', Component.lt_append_of_ne_nil⟩⟩
  · rw [hforms, Document.flatMap_filter]
    refine List.flatMap_congr fun d _ => ?_
    split <;> rfl
  · rw [hforms]
    refine (Ordered.flatMap fun d _ => d.ordered_ownForms.map SmartForm.read).congr
      fun place form => ⟨?_, ?_⟩
    · rintro ⟨i, d, rest, rfl, hd, m, ⟨htest, hm⟩, rfl⟩
      exact ⟨i, d, rest, rfl, hd, htest, m, hm, rfl⟩
    · rintro ⟨i, d, rest, rfl, hd, htest, m, hm, rfl⟩
      exact ⟨i, d, rest, rfl, hd, m, ⟨htest, hm⟩, rfl⟩

end AppSpec
