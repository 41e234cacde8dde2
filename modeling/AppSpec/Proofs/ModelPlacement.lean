import AppSpec.Proofs.Entries
import AppSpec.Proofs.MergeStep

/-!
# Where models are

A model is defined under `model`, as a mapping with a name or as the name of a model that the rest
of the document describes, or under a key that names it (`Document.models`). However often a name is
defined and whichever way, one category holds it, the one that its last definition says, and holds
the body of that definition with the name filled in (`models_ofDocuments`). One definition keeps
this (`Places.placeModel`, `Places.of_spares`), so documents do (`places_documents`).
-/

namespace AppSpec

open Value

/-- The name and the body of a model that an entry of a flow document defines. -/
def modelUnder? (body : Mapping) (key : String) (v : Value) : Option (String × Mapping) :=
  if key = "model" then
    match v with
    | .map m => ((Mapping.get? m "name").bind scalarText?).map (·, m)
    | v => v.scalarText?.map (·, body.swapRemove "model")
  else
    ((Definition.modelKey? key).filter (· ≠ "")).bind fun name => v.asMap?.map (name, ·)

/-- The models that a document defines, in authored order. -/
def Document.models (d : Document) : List (String × Mapping) :=
  match d.dialect with
  | .flow => d.body.filterMap fun e => e.1.asString?.bind (modelUnder? d.body · e.2)
  | .liveflow | .jobflow | .testflow => []

namespace Definition

/-- Definitions say what models there are, and otherwise leave models alone. -/
def SayModels (xs : List Definition) (M : List (String × Mapping)) : Prop :=
  xs.filterMap model? = M ∧ ∀ x ∈ xs, x.model? = none → x.SparesModels

theorem SayModels.of_spares {xs : List Definition} (h : ∀ x ∈ xs, x.SparesModels) :
    SayModels xs [] :=
  ⟨List.filterMap_eq_nil_iff.mpr fun x hx => (h x hx).model?_eq_none, fun x hx _ => h x hx⟩

theorem SayModels.append {xs ys : List Definition} {M N : List (String × Mapping)}
    (hx : SayModels xs M) (hy : SayModels ys N) : SayModels (xs ++ ys) (M ++ N) := by
  refine ⟨by rw [List.filterMap_append, hx.1, hy.1], ?_⟩
  intro x hmem
  rcases List.mem_append.mp hmem with h | h
  · exact hx.2 x h
  · exact hy.2 x h

theorem sayModels_skipped (why : Skipped) : SayModels [.skipped why] [] :=
  SayModels.of_spares fun x hx => by rw [List.mem_singleton.mp hx]; trivial

theorem sayModels_model (name : String) (body : Mapping) :
    SayModels [.model name body] [(name, body)] := by
  refine ⟨rfl, fun x hx hnone => ?_⟩
  rw [List.mem_singleton.mp hx] at hnone
  cases hnone

theorem sayModels_ofModel (body : Mapping) (v : Value) :
    SayModels [ofModel body v] (modelUnder? body "model" v).toList := by
  have hnamed : ∀ {x : Definition} (name? : Option String) (m : Mapping) (why : Skipped),
      (∀ name, name? = some name → x = .model name m) → (name? = none → x = .skipped why) →
      SayModels [x] (name?.map (·, m)).toList := by
    intro x name? m why hsome hnone
    rcases name? with _ | name
    · rw [hnone rfl]
      exact sayModels_skipped why
    · rw [hsome name rfl]
      exact sayModels_model name m
  have hscalar := hnamed (x := ofModel body v) v.scalarText? (body.swapRemove "model") .notAModel
  cases v with
  | map m =>
    refine hnamed ((Mapping.get? m "name").bind scalarText?) m .unnamedModel ?_ ?_
    · intro name h
      simp only [ofModel, h]
    · intro h
      simp only [ofModel, h]
  | _ => exact hscalar (fun name h => by simp only [ofModel, h]) (fun h => by simp only [ofModel, h])

theorem sayModels_ofModelKey (body : Mapping) {key name : String} (hkey : key ≠ "model")
    (hname : modelKey? key = some name) (v : Value) :
    SayModels [ofModelKey key name v] (modelUnder? body key v).toList := by
  unfold ofModelKey modelUnder?
  rw [if_neg hkey, hname]
  by_cases hempty : name = ""
  · subst hempty
    rcases v.asMap? with _ | m
    · exact sayModels_skipped _
    · exact sayModels_skipped _
  · have hsome : (some name).filter (· ≠ "") = some name := by simp [hempty]
    rw [hsome]
    rcases v.asMap? with _ | m
    · exact sayModels_skipped _
    · simpa [hempty] using sayModels_model name m

/-- An entry of a flow document says what model it defines. -/
theorem sayModels_ofFlowEntry (body : Mapping) (key : String) (v : Value) :
    SayModels (ofFlowEntry body key v) (modelUnder? body key v).toList := by
  by_cases hkey : key = "model"
  · subst hkey
    exact sayModels_ofModel body v
  · rcases hname : modelKey? key with _ | name
    · have hunder : modelUnder? body key v = none := by simp [modelUnder?, hkey, hname]
      rw [hunder]
      exact SayModels.of_spares (sparesModels_ofFlowEntry hkey hname body v)
    · rw [ofFlowEntry_of_modelKey? hname]
      exact sayModels_ofModelKey body hkey hname v

theorem sayModels_ofFlow (body : Mapping) : SayModels (ofFlow body)
    (body.filterMap fun e => e.1.asString?.bind (modelUnder? body · e.2)) := by
  refine ofFlow_induction (motive := fun l D => SayModels D
    (l.filterMap fun e => e.1.asString?.bind (modelUnder? body · e.2))) body ?_ ?_ ?_
  · exact SayModels.of_spares fun x hx => by cases hx
  · intro e l D hk ih
    rwa [List.filterMap_cons_none (by rw [hk]; rfl)]
  · intro e key l D hk ih
    have happ := (sayModels_ofFlowEntry body key e.2).append ih
    rcases hm : modelUnder? body key e.2 with _ | p
    · rw [List.filterMap_cons_none (by rw [hk]; exact hm)]
      simpa [hm] using happ
    · rw [List.filterMap_cons_some (by rw [hk]; exact hm)]
      simpa [hm] using happ

end Definition

/-- A document says what models it defines, and nothing else about models. -/
theorem Document.sayModels_definitions (d : Document) :
    Definition.SayModels d.definitions d.models := by
  unfold definitions models
  rcases d.dialect with _ | _ | _ | _
  · exact Definition.sayModels_ofFlow d.body
  · exact .of_spares (Definition.sparesModels_of_liveflow d.stem d.body)
  · exact .of_spares (Definition.sparesModels_of_jobflow d.body)
  · exact .of_spares (Definition.sparesModels_of_testflow d.body)

/-- The body of the last definition of a name. -/
def lastBody (met : List (String × Mapping)) (name : String) : Option Mapping :=
  (met.filter (·.1 == name)).getLast?.map Prod.snd

theorem lastBody_concat (met : List (String × Mapping)) (name name' : String) (body : Mapping) :
    lastBody (met ++ [(name', body)]) name =
      if name = name' then some body else lastBody met name := by
  unfold lastBody
  rw [getLast?_filter_concat Prod.fst]
  split <;> rfl

theorem isSome_lastBody_iff (met : List (String × Mapping)) (name : String) :
    (lastBody met name).isSome ↔ name ∈ met.map Prod.fst := by
  unfold lastBody
  rw [Option.isSome_map, List.getLast?_isSome, Ne, List.filter_eq_nil_iff, List.mem_map]
  simp

namespace Merge

/-- Each of the two categories holds the names whose last definition belongs there. -/
structure Places (met : List (String × Mapping)) (m : Merge) : Prop where
  nodup : ∀ c ∈ modelCategories, (m.application.entities c).keys.Nodup
  get? : ∀ c ∈ modelCategories, ∀ name, (m.application.entities c).get? name =
    (((lastBody met name).map (namedBody name)).filter (modelCategory · = c)).map Value.map

theorem places_empty : Places [] empty where
  nodup := fun _ _ => List.nodup_nil
  get? := fun _ _ _ => rfl

/-- A model goes where its definition says, and leaves where it was. -/
theorem Places.placeModel {met : List (String × Mapping)} {m : Merge} (h : Places met m)
    (file name : String) (body : Mapping) :
    Places (met ++ [(name, body)]) (m.placeModel file name body) := by
  have hentities := entities_placeModel m file name body
  have hmem := modelCategory_mem (namedBody name body)
  have hheld : ∀ k, lastBody (met ++ [(name, body)]) k =
      if k = name then some body else lastBody met k := fun k => lastBody_concat met k name body
  generalize hcat : modelCategory (namedBody name body) = c at hentities hmem
  have hne := otherModelCategory_ne c hmem
  refine ⟨?_, ?_⟩
  · intro d hd
    rcases eq_or_eq_otherModelCategory c hmem d hd with rfl | rfl
    · simp only [hentities, if_true]
      exact Entries.nodup_put (h.nodup d hmem) _ _
    · simp only [hentities, hne, if_true, if_false]
      exact Entries.nodup_erase (h.nodup _ hd) _
  · intro d hd k
    rcases eq_or_eq_otherModelCategory c hmem d hd with rfl | rfl
    · simp only [hentities, if_true]
      rw [Entries.get?_put, h.get? d hmem, hheld]
      by_cases hk : k = name
      · subst hk
        simp [hcat, Option.filter_some]
      · simp [hk]
    · simp only [hentities, hne, if_true, if_false]
      rw [Entries.get?_erase, h.get? _ hd, hheld]
      by_cases hk : k = name
      · subst hk
        simp [hcat, Ne.symm hne, Option.filter_some]
      · simp [hk]

/-- What leaves models alone keeps them where they are. -/
theorem Places.of_spares {met : List (String × Mapping)} {m : Merge} (h : Places met m)
    (file : String) {x : Definition} (hx : x.SparesModels) : Places met (m.apply file x) := by
  refine ⟨fun c hc => ?_, fun c hc name => ?_⟩
  · rw [entities_apply_of_spares m file hx hc]
    exact h.nodup c hc
  · rw [entities_apply_of_spares m file hx hc]
    exact h.get? c hc name

/-- What models extend and what leaves models alone keeps, definitions extend by the models that
they say. -/
theorem foldl_of_sayModels {I : List (String × Mapping) → Merge → Prop} {file : String}
    (hplace : ∀ met m name body, I met m →
      I (met ++ [(name, body)]) (m.placeModel file name body))
    (hspare : ∀ met m (x : Definition), x.SparesModels → I met m → I met (m.apply file x))
    {xs : List Definition} {M : List (String × Mapping)} (hsay : Definition.SayModels xs M)
    {met : List (String × Mapping)} {m : Merge} (h : I met m) :
    I (met ++ M) (xs.foldl (apply file) m) := by
  rw [← hsay.1, List.filterMap_eq_flatMap_toList]
  refine foldl_extends xs (fun x hx met m h => ?_) h
  rcases hmodel : x.model? with _ | p
  · rw [Option.toList_none, List.append_nil]
    exact hspare met m x (hsay.2 x hx hmodel) h
  · cases x with
    | model name body =>
      cases hmodel
      exact hplace met m name body h
    | _ => cases hmodel

/-- The documents, one after another. -/
theorem places_documents (ds : List Document) {met : List (String × Mapping)} {m : Merge}
    (h : Places met m) : Places (met ++ ds.flatMap Document.models) (ds.foldl add m) := by
  refine foldl_extends ds (fun d _ met m h => ?_) h
  exact foldl_of_sayModels (fun _ _ name body h => h.placeModel d.path name body)
    (fun _ _ _ hx h => h.of_spares d.path hx) d.sayModels_definitions h

/-- What a category holds under a name is the named body of its last definition, which belongs
there. -/
theorem Places.get?_eq_some_iff {met : List (String × Mapping)} {m : Merge} (h : Places met m)
    {c : Category} (hc : c ∈ modelCategories) (name : String) (v : Value) :
    (m.application.entities c).get? name = some v ↔
      ∃ body, lastBody met name = some body ∧ v = .map (namedBody name body) ∧
        modelCategory (namedBody name body) = c := by
  rw [h.get? c hc]
  rcases lastBody met name with _ | body
  · simp
  · by_cases hcat : modelCategory (namedBody name body) = c
    · simp only [Option.map_some, Option.filter_some, hcat, decide_true, if_true, Option.some.injEq]
      exact ⟨fun h => ⟨body, rfl, h.symm, hcat⟩, fun ⟨b, hb, hv, _⟩ => by rw [hv, hb]⟩
    · simp [hcat]

theorem Places.mem_keys_iff {met : List (String × Mapping)} {m : Merge} (h : Places met m)
    {c : Category} (hc : c ∈ modelCategories) (name : String) :
    name ∈ (m.application.entities c).keys ↔
      ∃ body, lastBody met name = some body ∧ modelCategory (namedBody name body) = c := by
  rw [← Entries.isSome_get?_iff, Option.isSome_iff_exists]
  refine ⟨?_, ?_⟩
  · rintro ⟨v, hv⟩
    obtain ⟨body, hbody, -, hcat⟩ := (h.get?_eq_some_iff hc name v).mp hv
    exact ⟨body, hbody, hcat⟩
  · rintro ⟨body, hbody, hcat⟩
    exact ⟨_, (h.get?_eq_some_iff hc name _).mpr ⟨body, hbody, rfl, hcat⟩⟩

end Merge

/-- After any documents no name is both a model and a vector database. Each entity carries its name
and is a vector database if its connection says so, the names are the ones that were defined, and
what a name holds is its last definition. -/
theorem models_ofDocuments (ds : List Document) :
    let a := (Merge.ofDocuments ds).application
    let defined := ds.flatMap Document.models
    (∀ name, ¬ (name ∈ (a.entities .models).keys ∧ name ∈ (a.entities .vectorDatabases).keys)) ∧
      (∀ c ∈ Merge.modelCategories, (a.entities c).keys.Nodup ∧
        ∀ name v, (name, v) ∈ (a.entities c).toList →
          ∃ body : Mapping, v = .map body ∧ body.get? "name" = some (.string name) ∧
            (c = .vectorDatabases ↔
              (body.get? "connection").bind asString? = some "local_vector_db")) ∧
      (∀ name, name ∈ (a.entities .models).keys ∨ name ∈ (a.entities .vectorDatabases).keys ↔
        name ∈ defined.map Prod.fst) ∧
      (∀ name v, (a.entities .models).get? name = some v ∨
          (a.entities .vectorDatabases).get? name = some v ↔
        ∃ body, lastBody defined name = some body ∧ v = .map (body.put "name" (.string name))) := by
  intro a defined
  have h : Merge.Places defined (Merge.ofDocuments ds) := by
    have hrun := Merge.places_documents ds Merge.places_empty
    rwa [List.nil_append] at hrun
  have hm : Category.models ∈ Merge.modelCategories := by decide
  have hv : Category.vectorDatabases ∈ Merge.modelCategories := by decide
  refine ⟨?_, ?_, ?_, ?_⟩
  · rintro name ⟨hmodel, hvector⟩
    obtain ⟨body, hbody, hcat⟩ := (h.mem_keys_iff hm name).mp hmodel
    obtain ⟨body', hbody', hcat'⟩ := (h.mem_keys_iff hv name).mp hvector
    rw [hbody] at hbody'
    cases hbody'
    rw [hcat] at hcat'
    cases hcat'
  · intro c hc
    refine ⟨h.nodup c hc, fun name v hmem => ?_⟩
    rw [Entries.mem_toList_iff (h.nodup c hc)] at hmem
    obtain ⟨body, -, rfl, hcat⟩ := (h.get?_eq_some_iff hc name v).mp hmem
    refine ⟨_, rfl, Mapping.get?_put_self _ _ _, ?_⟩
    rw [← hcat, Merge.modelCategory]
    split <;> simp_all [Merge.localVectorDb]
  · intro name
    rw [← isSome_lastBody_iff, h.mem_keys_iff hm, h.mem_keys_iff hv, Option.isSome_iff_exists]
    refine ⟨?_, ?_⟩
    · rintro (⟨body, hbody, -⟩ | ⟨body, hbody, -⟩)
      · exact ⟨body, hbody⟩
      · exact ⟨body, hbody⟩
    · rintro ⟨body, hbody⟩
      have hcats := Merge.modelCategory_mem (Merge.namedBody name body)
      rcases Merge.eq_or_eq_otherModelCategory _ hm _ hcats with hcat | hcat
      · exact .inl ⟨body, hbody, hcat⟩
      · exact .inr ⟨body, hbody, hcat⟩
  · intro name v
    rw [h.get?_eq_some_iff hm, h.get?_eq_some_iff hv]
    refine ⟨?_, ?_⟩
    · rintro (⟨body, hbody, hval, -⟩ | ⟨body, hbody, hval, -⟩)
      · exact ⟨body, hbody, hval⟩
      · exact ⟨body, hbody, hval⟩
    · rintro ⟨body, hbody, hval⟩
      have hcats := Merge.modelCategory_mem (Merge.namedBody name body)
      rcases Merge.eq_or_eq_otherModelCategory _ hm _ hcats with hcat | hcat
      · exact .inl ⟨body, hbody, hval, hcat⟩
      · exact .inr ⟨body, hbody, hval, hcat⟩

/-- A model that moves: its last definition has no connection. -/
example :
    let stored : Value := .map [(.string "connection", .string "local_vector_db")]
    let moved := [(.string "model", .string "Orders"), (.string "at", .int 1)]
    let a := (Merge.ofDocuments [⟨.flow, "a", "a.flow", [(.string "model Orders", stored)]⟩,
      ⟨.flow, "b", "b.flow", moved⟩]).application
    (a.entities .vectorDatabases).keys = [] ∧ (a.entities .models).toList =
      [("Orders", .map [(.string "at", .int 1), (.string "name", .string "Orders")])] := by
  decide

end AppSpec
