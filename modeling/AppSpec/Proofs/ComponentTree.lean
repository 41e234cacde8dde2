import Mathlib.Data.List.Basic
import AppSpec.Component

/-!
# The components of a tree

Which mappings are components of a tree is said by how they are reached (`Within`): through lists,
under tags, and from a component through its `children`, or through its `body` where it has no
`children`. The list of all components holds these and no others (`mem_all_iff`), and a walk handles
those of the list that match, in its order (`visit_eq_foldl`).
-/

namespace AppSpec.Component

open Value

/-- The mapping is reached from the tree as one of its components. -/
inductive Within : Value → Mapping → Prop
  | here (m : Mapping) : Within (.map m) m
  | item {items : List Value} {v : Value} {c : Mapping} (hv : v ∈ items) (h : Within v c) :
    Within (.list items) c
  | children {m c : Mapping} {v : Value} (hv : m.get? "children" = some v) (h : Within v c) :
    Within (.map m) c
  | body {m c : Mapping} {v : Value} (hno : m.get? "children" = none)
    (hv : m.get? "body" = some v) (h : Within v c) : Within (.map m) c
  | tagged {tag : String} {v : Value} {c : Mapping} (h : Within v c) : Within (.tagged tag v) c

/-- What the components inside a component are looked for in. -/
def nested? (m : Mapping) : Option Value :=
  (m.get? "children").or (m.get? "body")

theorem all_map (m : Mapping) :
    all (.map m) = m :: (((m.get? "children").or (m.get? "body")).map all).getD [] := by
  rw [all, allUnder_eq, allUnder_eq]
  rcases m.get? "children" with _ | v <;> rfl

theorem sizeOf_lt_of_get? {m : Mapping} {key : String} {v : Value} (h : m.get? key = some v) :
    sizeOf v < sizeOf m := by
  obtain ⟨⟨k, w⟩, he, rfl⟩ := Option.map_eq_some_iff.mp h
  have hmem := List.sizeOf_lt_of_mem (List.mem_of_find?_eq_some he)
  simp only [Prod.mk.sizeOf_spec] at hmem
  simp only
  omega

theorem sizeOf_nested?_lt {m : Mapping} {v : Value} (h : nested? m = some v) :
    sizeOf v < sizeOf m := by
  rcases Option.or_eq_some_iff.mp h with h | ⟨-, h⟩
  · exact sizeOf_lt_of_get? h
  · exact sizeOf_lt_of_get? h

/-- Every listed component is reached. -/
theorem within_of_mem : ∀ (v : Value) {c : Mapping}, c ∈ all v → Within v c
  | .list items, c, h => by
    rw [all, allOfItems_eq, List.mem_flatMap] at h
    obtain ⟨w, hw, hc⟩ := h
    have hsize := List.sizeOf_lt_of_mem hw
    exact .item hw (within_of_mem w hc)
  | .map m, c, h => by
    rw [all_map, List.mem_cons] at h
    rcases h with rfl | h
    · exact .here c
    · rcases hchildren : Mapping.get? m "children" with _ | w
      · rcases hbody : Mapping.get? m "body" with _ | w
        · simp [hchildren, hbody] at h
        · have hsize := sizeOf_lt_of_get? hbody
          rw [hchildren, hbody] at h
          exact .body hchildren hbody (within_of_mem w h)
      · have hsize := sizeOf_lt_of_get? hchildren
        rw [hchildren] at h
        exact .children hchildren (within_of_mem w h)
  | .tagged _ v, c, h => .tagged (within_of_mem v (by rwa [all] at h))
  | .null, _, h | .bool _, _, h | .int _, _, h | .float _, _, h | .string _, _, h => by
    simp [all] at h

/-- Every component that is reached is listed. -/
theorem mem_all_of_within {v : Value} {c : Mapping} (h : Within v c) : c ∈ all v := by
  induction h with
  | here m =>
    rw [all_map]
    exact List.mem_cons_self
  | item hv _ ih =>
    rw [all, allOfItems_eq, List.mem_flatMap]
    exact ⟨_, hv, ih⟩
  | children hv _ ih =>
    rw [all_map, hv]
    exact List.mem_cons_of_mem _ ih
  | body hno hv _ ih =>
    rw [all_map, hno, hv]
    exact List.mem_cons_of_mem _ ih
  | tagged _ ih =>
    rw [all]
    exact ih

theorem mem_all_iff (v : Value) (c : Mapping) : c ∈ all v ↔ Within v c :=
  ⟨within_of_mem v, mem_all_of_within⟩

/-! ## Walks -/

section Walk

variable {σ : Type} (isMatch : Mapping → Bool) (handle : σ → Mapping → σ)

/-- A component is handled if it matches, and what is inside it is walked in either case. -/
theorem visit_map (s : σ) (m : Mapping) : visit isMatch handle s (.map m) =
    let s := if isMatch m then handle s m else s
    (((m.get? "children").or (m.get? "body")).map (visit isMatch handle s)).getD s := by
  rw [visit, visitUnder_eq, visitUnder_eq]
  rcases m.get? "children" with _ | v <;> rfl

/-- A walk handles those of all components that match, in order. -/
theorem visit_eq_foldl : ∀ (v : Value) (s : σ),
    visit isMatch handle s v = ((all v).filter isMatch).foldl handle s
  | .list items, s => by
    rw [visit, visitItems_eq, all, allOfItems_eq, List.filter_flatMap, List.foldl_flatMap]
    refine List.foldl_ext _ _ s fun s v hv => ?_
    have hsize := List.sizeOf_lt_of_mem hv
    exact visit_eq_foldl v s
  | .map m, s => by
    have hinner : ∀ s : σ, ((nested? m).map (visit isMatch handle s)).getD s =
        ((((nested? m).map all).getD []).filter isMatch).foldl handle s := by
      intro s
      rcases hv : nested? m with _ | v
      · rfl
      · have hsize := sizeOf_nested?_lt hv
        exact visit_eq_foldl v s
    rw [visit_map, all_map, List.filter_cons]
    refine (hinner _).trans ?_
    split <;> rfl
  | .tagged tag v, s => by
    rw [visit, all]
    exact visit_eq_foldl v s
  | .null, s | .bool _, s | .int _, s | .float _, s | .string _, s => by
    simp [visit, all]

theorem found_eq (v : Value) : found isMatch v = (all v).filter isMatch := by
  rw [found, visit_eq_foldl, List.foldl_append_eq_append, ← List.flatMap_def,
    List.flatMap_singleton', List.nil_append]

theorem occurs_iff (v : Value) : occurs isMatch v = true ↔ ∃ c ∈ all v, isMatch c = true := by
  have hmatches : occurs isMatch v = !((all v).filter isMatch).isEmpty := by
    rw [occurs, visit_eq_foldl]
    rcases (all v).filter isMatch with _ | ⟨c, l⟩
    · rfl
    · exact List.foldl_fixed' (fun _ => rfl) l
  rw [hmatches, Bool.not_eq_true', List.isEmpty_eq_false_iff_exists_mem]
  simp only [List.mem_filter]

end Walk

end AppSpec.Component
