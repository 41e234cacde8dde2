import AppSpec.Proofs.FlowEntry

/-!
# What one definition does to the entities of a category

An entity goes to its own category (`entities_put`). A model goes to one of the two categories of
models and leaves the other (`entities_placeModel`). A definition that leaves models alone changes
no entity of these two (`entities_apply_of_spares`).
-/

namespace AppSpec

/-- What each step of a fold extends by what its element adds, the fold extends by what all add. -/
theorem foldl_extends {α β γ : Type} {I : List β → γ → Prop} {f : γ → α → γ} {g : α → List β} :
    ∀ (xs : List α), (∀ x ∈ xs, ∀ met s, I met s → I (met ++ g x) (f s x)) →
      ∀ {met : List β} {s : γ}, I met s → I (met ++ xs.flatMap g) (xs.foldl f s)
  | [], _, met, s, h => by simpa using h
  | x :: xs, hstep, met, s, h => by
    have hx := hstep x List.mem_cons_self met s h
    have ih := foldl_extends xs (fun y hy => hstep y (List.mem_cons_of_mem x hy)) hx
    rwa [List.append_assoc] at ih

namespace Merge

theorem entities_put (m : Merge) (file : String) (c d : Category) (key : String) (v : Value) :
    (m.put file c key v).application.entities d =
      if d = c then (m.application.entities c).put key v else m.application.entities d := by
  simp only [put, Application.put, Application.setEntities]

theorem entities_erase (a : Application) (c d : Category) (key : String) :
    (a.erase c key).entities d = if d = c then (a.entities c).erase key else a.entities d := by
  simp only [Application.erase, Application.setEntities]

/-- The categories that hold models. -/
def modelCategories : List Category :=
  [.models, .vectorDatabases]

theorem modelCategory_mem (body : Value.Mapping) : modelCategory body ∈ modelCategories := by
  unfold modelCategory
  split <;> decide

theorem eq_or_eq_otherModelCategory :
    ∀ c ∈ modelCategories, ∀ d ∈ modelCategories, d = c ∨ d = otherModelCategory c := by decide

theorem otherModelCategory_ne : ∀ c ∈ modelCategories, otherModelCategory c ≠ c := by decide

theorem otherModelCategory_mem :
    ∀ c ∈ modelCategories, otherModelCategory c ∈ modelCategories := by decide

theorem keyed_not_mem :
    ∀ c ∈ Category.keyed, c ∉ modelCategories ∧ c ≠ .webrtcStreams := by decide

theorem entities_placeModel (m : Merge) (file name : String) (body : Value.Mapping) (d : Category) :
    (m.placeModel file name body).application.entities d =
      let c := modelCategory (namedBody name body)
      if d = c then (m.application.entities c).put name (.map (namedBody name body))
      else if d = otherModelCategory c then (m.application.entities d).erase name
      else m.application.entities d := by
  have hne := otherModelCategory_ne _ (modelCategory_mem (namedBody name body))
  simp only [placeModel, entities_put, entities_erase, Ne.symm hne, if_false]
  split
  · rfl
  · split
    · rename_i h
      rw [h]
    · rfl

theorem entities_apply_of_spares (m : Merge) (file : String) {x : Definition}
    (hx : x.SparesModels) {c : Category} (hc : c ∈ modelCategories) :
    (m.apply file x).application.entities c = m.application.entities c := by
  cases x with
  | entity c' key v =>
    have hne : c ≠ c' := fun h => (keyed_not_mem c' hx).1 (h ▸ hc)
    simp only [apply, entities_put, hne, if_false]
  | model name body => exact hx.elim
  | stream id config =>
    have hne : c ≠ .webrtcStreams := fun h => absurd hc (h ▸ by decide)
    simp only [apply, entities_put, hne, if_false]
  | integration kind body =>
    simp only [apply, setIntegration]
    split <;> rfl
  | _ => rfl

end Merge

end AppSpec
