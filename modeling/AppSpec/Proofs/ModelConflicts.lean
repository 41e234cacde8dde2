import Mathlib.Data.List.Nodup
import AppSpec.Proofs.ModelPlacement

/-!
# Models that are defined again

A model whose name the category of its definition holds already is a conflict, and a model that comes
from the other category is none: it moves without a trace in the record. So the definitions are
counted by the entries of the two categories, their conflicts and the moves
(`conflicts_of_models`). One definition keeps this count (`Tallies.placeModel`).
-/

namespace AppSpec

open Value

/-- A definition of a model and the file that holds it. -/
structure ModelDefinition where
  name : String
  body : Mapping
  file : String
deriving DecidableEq, Repr

namespace ModelDefinition

def entry (x : ModelDefinition) : String × Mapping := (x.name, x.body)

def ofEntry (file : String) (p : String × Mapping) : ModelDefinition := ⟨p.1, p.2, file⟩

/-- The category that the definition says. -/
def category (x : ModelDefinition) : Category :=
  Merge.modelCategory (Merge.namedBody x.name x.body)

def conflict (x : ModelDefinition) : Conflict := ⟨x.category, x.name, x.file⟩

/-- The category that holds a name after definitions, if they define it. -/
def holder (met : List ModelDefinition) (name : String) : Option Category :=
  (lastBody (met.map entry) name).map fun body => Merge.modelCategory (Merge.namedBody name body)

/-- The definitions that follow others, each with the category that holds its name before it. -/
def held (met : List ModelDefinition) : List ModelDefinition → List (Option Category × ModelDefinition)
  | [] => []
  | x :: xs => (holder met x.name, x) :: held (met ++ [x]) xs

/-- The definition is of a name that its own category holds. -/
def stays (p : Option Category × ModelDefinition) : Bool :=
  p.1 = some p.2.category

/-- The definition takes a name away from the other category. -/
def moves (p : Option Category × ModelDefinition) : Bool :=
  p.1 = some (Merge.otherModelCategory p.2.category)

theorem held_concat (x : ModelDefinition) :
    ∀ (met xs : List ModelDefinition), held met (xs ++ [x]) =
      held met xs ++ [(holder (met ++ xs) x.name, x)]
  | met, [] => by simp [held]
  | met, y :: xs => by
    simp only [List.cons_append, held, held_concat x (met ++ [y]) xs, List.append_assoc,
      List.nil_append]

end ModelDefinition

/-- The models that a document defines, each with the document's file. -/
def Document.modelDefinitions (d : Document) : List ModelDefinition :=
  d.models.map (.ofEntry d.path)

namespace Entries

variable {α : Type}

theorem length_keys (e : Entries α) : e.keys.length = e.size :=
  List.length_map _

theorem size_put (e : Entries α) (key : String) (v : α) :
    (e.put key v).size = e.size + if key ∈ e.keys then 0 else 1 := by
  rw [← length_keys, keys_put, ← length_keys]
  split
  · rfl
  · exact List.length_append

theorem size_erase {e : Entries α} (h : e.keys.Nodup) (key : String) :
    (e.erase key).size + (if key ∈ e.keys then 1 else 0) = e.size := by
  rw [← length_keys, keys_erase, ← h.erase_eq_filter, ← length_keys]
  split
  · rename_i hmem
    have hpos := List.length_pos_of_mem hmem
    rw [List.length_erase_of_mem hmem]
    omega
  · rename_i hmem
    rw [List.erase_of_not_mem hmem]
    rfl

end Entries

namespace Merge

open ModelDefinition

/-- How many entries the two categories of models have. -/
def modelCount (m : Merge) : Nat :=
  (m.application.entities .models).size + (m.application.entities .vectorDatabases).size

/-- The conflicts in the two categories of models. -/
def modelConflicts (m : Merge) : List Conflict :=
  m.conflicts.filter (·.category ∈ modelCategories)

/-- The definitions so far are where they say, and the conflicts and the entries count them. -/
structure Tallies (met : List ModelDefinition) (m : Merge) : Prop where
  places : Places (met.map entry) m
  conflicts : m.modelConflicts = ((held [] met).filter stays).map fun p => p.2.conflict
  count : met.length = m.modelCount + (held [] met).countP stays + (held [] met).countP moves

theorem tallies_empty : Tallies [] empty where
  places := places_empty
  conflicts := rfl
  count := rfl

theorem Places.mem_keys_iff_holder {met : List ModelDefinition} {m : Merge}
    (h : Places (met.map entry) m) {c : Category} (hc : c ∈ modelCategories) (name : String) :
    name ∈ (m.application.entities c).keys ↔ holder met name = some c := by
  rw [h.mem_keys_iff hc, holder, Option.map_eq_some_iff]

theorem modelCount_eq (m : Merge) : ∀ c ∈ modelCategories, m.modelCount =
    (m.application.entities c).size + (m.application.entities (otherModelCategory c)).size := by
  intro c hc
  simp only [modelCategories, List.mem_cons, List.not_mem_nil, or_false] at hc
  rcases hc with rfl | rfl
  · rfl
  · exact Nat.add_comm _ _

/-- A definition is a conflict just when the category that it says holds the name. -/
theorem modelConflicts_placeModel (m : Merge) (x : ModelDefinition) :
    (m.placeModel x.file x.name x.body).modelConflicts = m.modelConflicts ++
      if x.name ∈ (m.application.entities x.category).keys then [x.conflict] else [] := by
  have hmem : x.category ∈ modelCategories := modelCategory_mem _
  have hne := otherModelCategory_ne x.category hmem
  have hkept : ((m.application.erase (otherModelCategory x.category) x.name).entities
      x.category).contains x.name = true ↔ x.name ∈ (m.application.entities x.category).keys := by
    rw [entities_erase, if_neg (Ne.symm hne), Entries.contains_iff]
  have hconflicts : (m.placeModel x.file x.name x.body).conflicts = m.conflicts ++
      if x.name ∈ (m.application.entities x.category).keys then [x.conflict] else [] := by
    by_cases h : x.name ∈ (m.application.entities x.category).keys
    · rw [if_pos h]
      exact if_pos (hkept.mpr h)
    · rw [if_neg h, List.append_nil]
      exact if_neg (mt hkept.mp h)
  unfold modelConflicts
  rw [hconflicts, List.filter_append]
  split
  · rw [List.filter_singleton]
    simp [conflict, hmem]
  · rfl

/-- A definition puts one entry into its category, and takes one out of the other. -/
theorem modelCount_placeModel {m : Merge} (hnodup : ∀ c ∈ modelCategories,
    (m.application.entities c).keys.Nodup) (x : ModelDefinition) :
    (m.placeModel x.file x.name x.body).modelCount +
        (if x.name ∈ (m.application.entities (otherModelCategory x.category)).keys then 1 else 0) =
      m.modelCount + if x.name ∈ (m.application.entities x.category).keys then 0 else 1 := by
  have hmem : x.category ∈ modelCategories := modelCategory_mem _
  have hother := otherModelCategory_mem x.category hmem
  have hput : (m.placeModel x.file x.name x.body).application.entities x.category =
      (m.application.entities x.category).put x.name (.map (namedBody x.name x.body)) := by
    rw [entities_placeModel]
    exact if_pos rfl
  have herase : (m.placeModel x.file x.name x.body).application.entities
        (otherModelCategory x.category) =
      (m.application.entities (otherModelCategory x.category)).erase x.name := by
    rw [entities_placeModel]
    exact (if_neg (otherModelCategory_ne x.category hmem)).trans (if_pos rfl)
  have hsize := Entries.size_erase (hnodup _ hother) x.name
  rw [modelCount_eq _ x.category hmem, modelCount_eq m x.category hmem, hput, herase,
    Entries.size_put]
  omega

/-- A definition is one more entry, one more conflict or one more move. -/
theorem Tallies.placeModel {met : List ModelDefinition} {m : Merge} (h : Tallies met m)
    (x : ModelDefinition) : Tallies (met ++ [x]) (m.placeModel x.file x.name x.body) := by
  have hmem : x.category ∈ modelCategories := modelCategory_mem _
  have hstays := h.places.mem_keys_iff_holder hmem x.name
  have hmoves := h.places.mem_keys_iff_holder (otherModelCategory_mem _ hmem) x.name
  have hheld := held_concat x [] met
  rw [List.nil_append] at hheld
  refine ⟨?_, ?_, ?_⟩
  · rw [List.map_append]
    exact h.places.placeModel x.file x.name x.body
  · rw [modelConflicts_placeModel, h.conflicts, hheld, List.filter_append, List.map_append]
    congr 1
    by_cases hc : holder met x.name = some x.category
    · rw [if_pos (hstays.mpr hc)]
      simp [stays, hc]
    · rw [if_neg (mt hstays.mp hc)]
      simp [stays, hc]
  · have hcount := modelCount_placeModel h.places.nodup x
    have hold := h.count
    have hne := otherModelCategory_ne x.category hmem
    simp only [hstays, hmoves] at hcount
    simp only [hheld, List.countP_append, List.countP_singleton, List.length_append,
      List.length_singleton, stays, moves, decide_eq_true_eq]
    by_cases hc : holder met x.name = some x.category
    · have ho : holder met x.name ≠ some (otherModelCategory x.category) := by
        rw [hc]
        simpa using Ne.symm hne
      rw [if_pos hc, if_neg ho] at hcount ⊢
      omega
    · by_cases ho : holder met x.name = some (otherModelCategory x.category)
      · rw [if_neg hc, if_pos ho] at hcount ⊢
        omega
      · rw [if_neg hc, if_neg ho] at hcount ⊢
        omega

/-- What leaves models alone is in no category of models, so it is no conflict there. -/
theorem modelConflicts_apply_of_spares (m : Merge) (file : String) {x : Definition}
    (hx : x.SparesModels) : (m.apply file x).modelConflicts = m.modelConflicts := by
  have hput : ∀ c key v, c ∉ modelCategories → (m.put file c key v).modelConflicts =
      m.modelConflicts := by
    intro c key v hc
    unfold modelConflicts put
    split
    · simp [hc]
    · rfl
  cases x with
  | entity c key v => exact hput c key v (keyed_not_mem c hx).1
  | model name body => exact hx.elim
  | stream id config => exact hput _ _ _ (by decide)
  | _ => rfl

theorem Tallies.of_spares {met : List ModelDefinition} {m : Merge} (h : Tallies met m)
    (file : String) {x : Definition} (hx : x.SparesModels) : Tallies met (m.apply file x) where
  places := h.places.of_spares file hx
  conflicts := (modelConflicts_apply_of_spares m file hx).trans h.conflicts
  count := by
    rw [h.count]
    simp only [modelCount, entities_apply_of_spares m file hx (by decide : Category.models ∈ _),
      entities_apply_of_spares m file hx (by decide : Category.vectorDatabases ∈ _)]

/-- The documents, one after another. -/
theorem tallies_documents (ds : List Document) {met : List ModelDefinition} {m : Merge}
    (h : Tallies met m) : Tallies (met ++ ds.flatMap Document.modelDefinitions) (ds.foldl add m) := by
  refine foldl_extends ds (fun d _ met m h => ?_) h
  have hplace : ∀ l m name body, Tallies (met ++ l.map (ofEntry d.path)) m →
      Tallies (met ++ (l ++ [(name, body)]).map (ofEntry d.path))
        (m.placeModel d.path name body) := by
    intro l m name body h
    rw [List.map_append, ← List.append_assoc]
    exact h.placeModel ⟨name, body, d.path⟩
  have hstart : Tallies (met ++ ([] : List (String × Mapping)).map (ofEntry d.path)) m := by
    rwa [List.map_nil, List.append_nil]
  exact foldl_of_sayModels (I := fun l m => Tallies (met ++ l.map (ofEntry d.path)) m)
    hplace (fun _ _ _ hx h => h.of_spares d.path hx) d.sayModels_definitions hstart

end Merge

/-- The definitions of models in documents, each with the category that holds its name before it. -/
def Document.heldDefinitions (ds : List Document) : List (Option Category × ModelDefinition) :=
  ModelDefinition.held [] (ds.flatMap modelDefinitions)

open ModelDefinition in
/-- After any documents the conflicts in the categories of models are the definitions of names that
their own category held, each once, in order. A definition that takes a name away from the other
category is no conflict. So the definitions are as many as the entries of the two categories, their
conflicts and these moves together, and entries and conflicts alone count them only if no model
moves. -/
theorem conflicts_of_models (ds : List Document) :
    let m := Merge.ofDocuments ds
    let D := ds.flatMap Document.modelDefinitions
    let told := m.conflicts.filter (·.category ∈ [.models, .vectorDatabases])
    let entries := (m.application.entities .models).size +
      (m.application.entities .vectorDatabases).size
    (∀ c ∈ [Category.models, .vectorDatabases], ∀ name,
        name ∈ (m.application.entities c).keys ↔ holder D name = some c) ∧
      told = ((Document.heldDefinitions ds).filter stays).map (fun p => p.2.conflict) ∧
      D.length = entries + told.length + (Document.heldDefinitions ds).countP moves ∧
      (D.length = entries + told.length ↔ ∀ p ∈ Document.heldDefinitions ds, moves p = false) := by
  intro m D told entries
  have h : Merge.Tallies D m := by
    have hrun := Merge.tallies_documents ds Merge.tallies_empty
    rwa [List.nil_append] at hrun
  have htold : told = ((Document.heldDefinitions ds).filter stays).map (fun p => p.2.conflict) :=
    h.conflicts
  have hcount : D.length = entries + told.length + (Document.heldDefinitions ds).countP moves := by
    rw [htold, List.length_map, ← List.countP_eq_length_filter]
    exact h.count
  refine ⟨fun c hc name => h.places.mem_keys_iff_holder hc name, htold, hcount, ?_⟩
  have hzero : (Document.heldDefinitions ds).countP moves = 0 ↔
      ∀ p ∈ Document.heldDefinitions ds, moves p = false := by
    rw [List.countP_eq_zero]
    simp
  rw [← hzero]
  omega

/-- A model that moves to the local vector database is defined twice, and nothing tells of it. -/
theorem conflicts_of_moved_model :
    let note : Value := .map [(.string "name", .string "Note")]
    let stored : Value := .map
      [(.string "name", .string "Note"), (.string "connection", .string "local_vector_db")]
    let first : Document := ⟨.flow, "a", "a.flow", [(.string "model", note)]⟩
    let second : Document := ⟨.flow, "b", "b.flow", [(.string "model", stored)]⟩
    let m := Merge.ofDocuments [first, second]
    "Note" ∈ ((Merge.ofDocuments [first]).application.entities .models).keys ∧
      second.models.map Prod.fst = ["Note"] ∧ m.conflicts = [] ∧
      ([first, second].flatMap Document.modelDefinitions).length ≠
        (m.application.entities .models).size + (m.application.entities .vectorDatabases).size +
          (m.conflicts.filter (·.category ∈ [.models, .vectorDatabases])).length := by
  decide

end AppSpec
