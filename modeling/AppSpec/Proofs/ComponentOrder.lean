import Mathlib.Data.List.Basic
import AppSpec.Proofs.ComponentTree

/-!
# The order of the components

Every component of a tree stands at a place of its own: the way to it, a number for each step
(`Component.At`). Places are compared number by number, so that a component comes before those inside
it and an item of a list before the items behind it. The list of all components holds one for each
place at which there is one, in the order of the places (`Component.ordered_all`). A walk hands its
handler those of them that match, in this order (`Component.visit_in_order`).

Such a list is `Ordered`. Lists that are put together from ordered ones are ordered.
-/

namespace AppSpec

/-- The list holds a thing for each place at which there is one, in the order of the places. -/
def Ordered {α : Type} (P : List Nat → α → Prop) (as : List α) : Prop :=
  ∃ l : List (List Nat × α), l.map Prod.snd = as ∧ l.Pairwise (fun x y => x.1 < y.1) ∧
    ∀ place a, (place, a) ∈ l ↔ P place a

namespace Ordered

variable {α β : Type} {P Q : List Nat → α → Prop} {as bs : List α}

theorem congr (h : Ordered P as) (hP : ∀ place a, P place a ↔ Q place a) : Ordered Q as := by
  obtain ⟨l, hl, hsorted, hmem⟩ := h
  exact ⟨l, hl, hsorted, fun place a => (hmem place a).trans (hP place a)⟩

theorem nil (h : ∀ place a, ¬ P place a) : Ordered P [] :=
  ⟨[], rfl, .nil, fun place a => ⟨(nomatch ·), fun hP => absurd hP (h place a)⟩⟩

theorem singleton (a : α) : Ordered (fun place b => place = [] ∧ b = a) [a] :=
  ⟨[([], a)], rfl, List.pairwise_singleton .., fun place b => by simp⟩

/-- What is made of something that may be missing. -/
theorem ofOption {o : Option β} {f : β → List α} {R : β → List Nat → α → Prop}
    (h : ∀ x, o = some x → Ordered (R x) (f x)) :
    Ordered (fun place a => ∃ x, o = some x ∧ R x place a) ((o.map f).getD []) := by
  rcases o with _ | x
  · exact nil fun place a ⟨x, hx, _⟩ => nomatch hx
  · refine (h x rfl).congr fun place a => ⟨fun hR => ⟨x, rfl, hR⟩, ?_⟩
    rintro ⟨y, hy, hR⟩
    cases hy
    exact hR

/-- What stands at later places comes behind. -/
theorem append (h : Ordered P as) (h' : Ordered Q bs)
    (hlt : ∀ place place' a b, P place a → Q place' b → place < place') :
    Ordered (fun place a => P place a ∨ Q place a) (as ++ bs) := by
  obtain ⟨l, rfl, hsorted, hmem⟩ := h
  obtain ⟨l', rfl, hsorted', hmem'⟩ := h'
  refine ⟨l ++ l', List.map_append, List.pairwise_append.mpr ⟨hsorted, hsorted', ?_⟩, ?_⟩
  · intro x hx y hy
    exact hlt x.1 y.1 x.2 y.2 ((hmem x.1 x.2).mp hx) ((hmem' y.1 y.2).mp hy)
  · intro place a
    rw [List.mem_append, hmem, hmem']

/-- One more step on the way to all of them. -/
theorem under (h : Ordered P as) (n : Nat) :
    Ordered (fun place a => ∃ rest, place = n :: rest ∧ P rest a) as := by
  obtain ⟨l, rfl, hsorted, hmem⟩ := h
  refine ⟨l.map fun x => (n :: x.1, x.2), ?_, ?_, ?_⟩
  · rw [List.map_map]
    rfl
  · rw [List.pairwise_map]
    exact hsorted.imp fun h => List.cons_lt_cons_iff.mpr (.inr ⟨rfl, h⟩)
  · intro place a
    simp only [List.mem_map, Prod.mk.injEq, ← hmem]
    constructor
    · rintro ⟨⟨rest, b⟩, hx, rfl, rfl⟩
      exact ⟨rest, rfl, hx⟩
    · rintro ⟨rest, rfl, hx⟩
      exact ⟨(rest, a), hx, rfl, rfl⟩

theorem filter (h : Ordered P as) (q : α → Bool) :
    Ordered (fun place a => P place a ∧ q a = true) (as.filter q) := by
  obtain ⟨l, rfl, hsorted, hmem⟩ := h
  refine ⟨l.filter fun x => q x.2, ?_, hsorted.filter _, ?_⟩
  · rw [List.filter_map]
    rfl
  · intro place a
    rw [List.mem_filter, hmem]

theorem map (h : Ordered P as) (f : α → β) :
    Ordered (fun place b => ∃ a, P place a ∧ f a = b) (as.map f) := by
  obtain ⟨l, rfl, hsorted, hmem⟩ := h
  refine ⟨l.map fun x => (x.1, f x.2), ?_, ?_, ?_⟩
  · rw [List.map_map, List.map_map]
    rfl
  · rw [List.pairwise_map]
    exact hsorted
  · intro place b
    simp only [List.mem_map, Prod.mk.injEq, ← hmem]
    constructor
    · rintro ⟨⟨place', a⟩, hx, rfl, rfl⟩
      exact ⟨a, hx, rfl⟩
    · rintro ⟨a, hx, rfl⟩
      exact ⟨(place, a), hx, rfl, rfl⟩

/-- Lists one after another, each under its number. -/
theorem flatMap_from {f : β → List α} {R : β → List Nat → α → Prop} :
    ∀ (n : Nat) (xs : List β), (∀ x ∈ xs, Ordered (R x) (f x)) →
      Ordered (fun place a => ∃ i x rest, place = (n + i) :: rest ∧ xs[i]? = some x ∧ R x rest a)
        (xs.flatMap f)
  | n, [], _ => nil fun place a ⟨i, x, rest, _, hx, _⟩ => by simp at hx
  | n, x :: xs, h => by
    have hfirst := (h x List.mem_cons_self).under n
    have hrest := flatMap_from (n + 1) xs fun y hy => h y (List.mem_cons_of_mem x hy)
    rw [List.flatMap_cons]
    refine (hfirst.append hrest ?_).congr fun place a => ?_
    · rintro _ _ a b ⟨rest, rfl, -⟩ ⟨i, y, rest', rfl, -⟩
      exact List.cons_lt_cons_iff.mpr (.inl (by omega))
    · constructor
      · rintro (⟨rest, rfl, hR⟩ | ⟨i, y, rest, rfl, hy, hR⟩)
        · exact ⟨0, x, rest, rfl, rfl, hR⟩
        · exact ⟨i + 1, y, rest, by rw [Nat.add_assoc, Nat.add_comm 1 i], hy, hR⟩
      · rintro ⟨i, y, rest, rfl, hy, hR⟩
        rcases i with _ | i
        · cases hy
          exact .inl ⟨rest, rfl, hR⟩
        · exact .inr ⟨i, y, rest, by rw [Nat.add_assoc, Nat.add_comm 1 i], hy, hR⟩

theorem flatMap {f : β → List α} {R : β → List Nat → α → Prop} {xs : List β}
    (h : ∀ x ∈ xs, Ordered (R x) (f x)) :
    Ordered (fun place a => ∃ i x rest, place = i :: rest ∧ xs[i]? = some x ∧ R x rest a)
      (xs.flatMap f) := by
  simpa only [Nat.zero_add] using flatMap_from 0 xs h

end Ordered

namespace Component

open Value

/-- The component stands at the place in the tree. -/
inductive At : Value → List Nat → Mapping → Prop
  | here (m : Mapping) : At (.map m) [] m
  | item {items : List Value} {i : Nat} {v : Value} {place : List Nat} {c : Mapping}
    (hv : items[i]? = some v) (h : At v place c) : At (.list items) (i :: place) c
  | children {m c : Mapping} {v : Value} {place : List Nat} (hv : m.get? "children" = some v)
    (h : At v place c) : At (.map m) (0 :: place) c
  | body {m c : Mapping} {v : Value} {place : List Nat} (hno : m.get? "children" = none)
    (hv : m.get? "body" = some v) (h : At v place c) : At (.map m) (0 :: place) c
  | tagged {tag : String} {v : Value} {place : List Nat} {c : Mapping} (h : At v place c) :
    At (.tagged tag v) (0 :: place) c

/-- A component of a component stands behind it. -/
theorem At.trans {v : Value} {place place' : List Nat} {c c' : Mapping} (h : At v place c)
    (h' : At (.map c) place' c') : At v (place ++ place') c' := by
  induction h with
  | here m => exact h'
  | item hv _ ih => exact .item hv (ih h')
  | children hv _ ih => exact .children hv (ih h')
  | body hno hv _ ih => exact .body hno hv (ih h')
  | tagged _ ih => exact .tagged (ih h')

theorem lt_append_of_ne_nil {place place' : List Nat} (h : place' ≠ []) : place < place ++ place' := by
  induction place with
  | nil =>
    obtain ⟨n, rest, rfl⟩ := List.exists_cons_of_ne_nil h
    exact List.nil_lt_cons n rest
  | cons n place ih => exact List.cons_lt_cons_iff.mpr (.inr ⟨rfl, ih⟩)

theorem at_list_iff (items : List Value) (place : List Nat) (c : Mapping) :
    At (.list items) place c ↔
      ∃ i v rest, place = i :: rest ∧ items[i]? = some v ∧ At v rest c := by
  constructor
  · rintro ⟨⟩
    rename_i i v rest hv h
    exact ⟨i, v, rest, rfl, hv, h⟩
  · rintro ⟨i, v, rest, rfl, hv, h⟩
    exact .item hv h

theorem at_map_iff (m : Mapping) (place : List Nat) (c : Mapping) :
    At (.map m) place c ↔ place = [] ∧ c = m ∨
      ∃ rest, place = 0 :: rest ∧ ∃ v, nested? m = some v ∧ At v rest c := by
  unfold nested?
  constructor
  · rintro ⟨⟩
    · exact .inl ⟨rfl, rfl⟩
    · rename_i v rest hv h
      exact .inr ⟨rest, rfl, v, by rw [hv, Option.some_or], h⟩
    · rename_i v rest hno hv h
      exact .inr ⟨rest, rfl, v, by rw [hno, Option.none_or, hv], h⟩
  · rintro (⟨rfl, rfl⟩ | ⟨rest, rfl, v, hv, h⟩)
    · exact .here c
    · rcases Option.or_eq_some_iff.mp hv with hv | ⟨hno, hv⟩
      · exact .children hv h
      · exact .body hno hv h

/-- All components are listed, each for its place, in the order of the places. -/
theorem ordered_all : ∀ v : Value, Ordered (At v) (all v)
  | .list items => by
    rw [all, allOfItems_eq]
    refine (Ordered.flatMap fun w hw => ?_).congr fun place c => (at_list_iff items place c).symm
    have hsize := List.sizeOf_lt_of_mem hw
    exact ordered_all w
  | .map m => by
    have hinner : Ordered (fun place c => ∃ v, nested? m = some v ∧ At v place c)
        (((nested? m).map all).getD []) := by
      refine .ofOption fun v hv => ?_
      have hsize := sizeOf_nested?_lt hv
      exact ordered_all v
    rw [all_map]
    refine ((Ordered.singleton m).append (hinner.under 0) ?_).congr fun place c =>
      (at_map_iff m place c).symm
    rintro _ _ a b ⟨rfl, -⟩ ⟨rest, rfl, -⟩
    exact List.nil_lt_cons 0 rest
  | .tagged tag v => by
    rw [all]
    refine ((ordered_all v).under 0).congr fun place c => ⟨?_, ?_⟩
    · rintro ⟨rest, rfl, h⟩
      exact .tagged h
    · rintro ⟨⟩
      exact ⟨_, rfl, ‹_›⟩
  | .null | .bool _ | .int _ | .float _ | .string _ => by
    rw [all]
    · exact .nil fun place c h => by cases h
    all_goals simp

/-- What a walk of a tree may handle is settled before it is known what matches: the components of the
tree, one for each place, in the order of the places, those of a list item by item. Whatever the
handler makes of its state, it is handed just those of them that match, each once for each place, in
this order. -/
theorem visit_in_order (tree : Value) :
    Ordered (At tree) (all tree) ∧ (∀ items, all (.list items) = items.flatMap all) ∧
      ∀ (σ : Type) (isMatch : Mapping → Bool) (handle : σ → Mapping → σ) (s : σ),
        visit isMatch handle s tree = ((all tree).filter isMatch).foldl handle s ∧
          Ordered (fun place c => At tree place c ∧ isMatch c = true) ((all tree).filter isMatch) ∧
          ∀ items, visit isMatch handle s (.list items) = items.foldl (visit isMatch handle) s := by
  refine ⟨ordered_all tree, fun items => ?_, fun σ isMatch handle s => ⟨?_, ?_, fun items => ?_⟩⟩
  · rw [all, allOfItems_eq]
  · exact visit_eq_foldl isMatch handle tree s
  · exact (ordered_all tree).filter isMatch
  · rw [visit, visitItems_eq]

/-- A match is walked through as well, and `body` is passed over where there are `children`. -/
example :
    let leaf (id : String) : Mapping := [(.string "form", .null), (.string "id", .string id)]
    let outer : Mapping := [(.string "form", .null), (.string "body", .map (leaf "passed over")),
      (.string "children", .list [.map (leaf "first"), .tagged "!x" (.map (leaf "second"))])]
    found (isNamed "form") (.list [.null, .map outer]) = [outer, leaf "first", leaf "second"] :=
  rfl

end Component

end AppSpec
