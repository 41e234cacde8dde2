import Mathlib.Data.List.Perm.Basic
import AppSpec.Value.Entries
import AppSpec.Value.Mapping

/-!
# Keyed entries under putting and erasing

Putting a value changes what its key holds and nothing else (`get?_put`); a key keeps its place, and
one that was not there comes last (`keys_put`). Erasing takes out one key (`get?_erase`). As long as
the keys are distinct, the entries are what their keys hold (`mem_toList_iff`). The keys of a mapping
are values, and what a text key finds does not depend on the order of the entries (`get?_perm`). A
mapping that gains or loses a text key keeps its other entries (`put_perm_cons`, `swapRemove_perm`).
-/

namespace AppSpec

/-- One more of a list is the last of its key and of no other. -/
theorem getLast?_filter_concat {α κ : Type} [DecidableEq κ] (key : α → κ) (l : List α) (x : α)
    (k : κ) : ((l ++ [x]).filter (key · == k)).getLast? =
    if k = key x then some x else (l.filter (key · == k)).getLast? := by
  rw [List.filter_append]
  by_cases h : k = key x
  · simp [h]
  · simp [h, Ne.symm h]

namespace Entries

variable {α : Type}

theorem contains_iff (e : Entries α) (key : String) : e.contains key = true ↔ key ∈ e.keys := by
  simp only [contains, keys, List.any_eq_true, beq_iff_eq, List.mem_map]

theorem isSome_get?_iff (e : Entries α) (key : String) : (e.get? key).isSome ↔ key ∈ e.keys := by
  simp only [get?, keys, List.lookup_isSome_iff, beq_iff_eq, List.mem_map]
  exact ⟨fun ⟨p, hp, h⟩ => ⟨p, hp, h.symm⟩, fun ⟨p, hp, h⟩ => ⟨p, hp, h.symm⟩⟩

theorem lookup_cons_if (k k' : String) (v : α) (l : List (String × α)) :
    ((k', v) :: l).lookup k = if k = k' then some v else l.lookup k := by
  by_cases h : k = k'
  · simp [h]
  · simp [List.lookup_cons, beq_eq_false_iff_ne.mpr h, h]

theorem lookup_putIn (key k : String) (v : α) :
    ∀ l : List (String × α), (putIn key v l).lookup k = if k = key then some v else l.lookup k
  | [] => by simp only [putIn, lookup_cons_if, List.lookup_nil]
  | (k', v') :: rest => by
    have ih := lookup_putIn key k v rest
    by_cases h : k' = key
    · subst h
      simp only [putIn, beq_self_eq_true, if_true, lookup_cons_if]
      split <;> rfl
    · simp only [putIn, beq_iff_eq, h, if_false, lookup_cons_if, ih]
      by_cases hk : k = k'
      · subst hk
        simp [h]
      · simp [hk]

theorem map_fst_putIn (key : String) (v : α) :
    ∀ l : List (String × α), (putIn key v l).map Prod.fst =
      if key ∈ l.map Prod.fst then l.map Prod.fst else l.map Prod.fst ++ [key]
  | [] => by simp [putIn]
  | (k, v') :: rest => by
    by_cases h : k = key
    · simp [putIn, h]
    · have ih := map_fst_putIn key v rest
      simp only [putIn, beq_iff_eq, h, if_false, List.map_cons, ih, List.mem_cons, Ne.symm h,
        false_or]
      split <;> simp

theorem get?_put (e : Entries α) (key k : String) (v : α) :
    (e.put key v).get? k = if k = key then some v else e.get? k :=
  lookup_putIn key k v e.toList

theorem keys_put (e : Entries α) (key : String) (v : α) :
    (e.put key v).keys = if key ∈ e.keys then e.keys else e.keys ++ [key] :=
  map_fst_putIn key v e.toList

theorem mem_keys_put (e : Entries α) (key k : String) (v : α) :
    k ∈ (e.put key v).keys ↔ k = key ∨ k ∈ e.keys := by
  rw [keys_put]
  split
  · rename_i h
    exact ⟨.inr, fun hk => hk.elim (fun hk => hk ▸ h) id⟩
  · rw [List.mem_append, List.mem_singleton, or_comm]

theorem lookup_filter_ne (key k : String) :
    ∀ l : List (String × α),
      (l.filter (·.1 != key)).lookup k = if k = key then none else l.lookup k
  | [] => by simp
  | (k', v) :: rest => by
    have ih := lookup_filter_ne key k rest
    by_cases h : k' = key
    · subst h
      rw [List.filter_cons_of_neg (by simp), ih, lookup_cons_if]
      split <;> rfl
    · rw [List.filter_cons_of_pos (by simpa using h), lookup_cons_if, lookup_cons_if, ih]
      by_cases hk : k = k'
      · subst hk
        simp [h]
      · simp [hk]

theorem get?_erase (e : Entries α) (key k : String) :
    (e.erase key).get? k = if k = key then none else e.get? k :=
  lookup_filter_ne key k e.toList

theorem keys_erase (e : Entries α) (key : String) :
    (e.erase key).keys = e.keys.filter (· != key) := by
  simp only [erase, keys, List.filter_map]
  rfl

theorem nodup_put {e : Entries α} (h : e.keys.Nodup) (key : String) (v : α) :
    (e.put key v).keys.Nodup := by
  rw [keys_put]
  split
  · exact h
  · rename_i hk
    rw [List.nodup_append]
    refine ⟨h, by simp, ?_⟩
    intro a ha b hb hab
    rw [List.mem_singleton] at hb
    exact hk (hb ▸ hab ▸ ha)

theorem nodup_erase {e : Entries α} (h : e.keys.Nodup) (key : String) :
    (e.erase key).keys.Nodup := by
  rw [keys_erase]
  exact h.sublist List.filter_sublist

theorem putIn_of_not_mem {key : String} (v : α) :
    ∀ {l : List (String × α)}, key ∉ l.map Prod.fst → putIn key v l = l ++ [(key, v)]
  | [], _ => rfl
  | (k, v') :: l, h => by
    rw [List.map_cons, List.mem_cons, not_or] at h
    have hk : (k == key) = false := beq_eq_false_iff_ne.mpr (Ne.symm h.1)
    simp only [putIn, hk, Bool.false_eq_true, if_false, putIn_of_not_mem v h.2, List.cons_append]

theorem toList_foldl_put : ∀ (l : List (String × α)) (e : Entries α),
    ((e.toList ++ l).map Prod.fst).Nodup →
      (l.foldl (fun e p => e.put p.1 p.2) e).toList = e.toList ++ l
  | [], e, _ => by simp
  | (k, v) :: l, e, h => by
    have hk : k ∉ e.toList.map Prod.fst := by
      rw [List.map_append, List.nodup_append] at h
      exact fun hmem => h.2.2 k hmem k (by simp) rfl
    have hput : (e.put k v).toList = e.toList ++ [(k, v)] := putIn_of_not_mem v hk
    rw [List.foldl_cons, toList_foldl_put l _ (by rwa [hput, List.append_assoc]), hput,
      List.append_assoc]
    rfl

/-- Entries made of a list with distinct keys are that list. -/
theorem toList_ofList {l : List (String × α)} (h : (l.map Prod.fst).Nodup) :
    (ofList l).toList = l :=
  toList_foldl_put l empty h

theorem mem_iff_lookup {κ : Type} [BEq κ] [LawfulBEq κ] (k : κ) (v : α) :
    ∀ l : List (κ × α), (l.map Prod.fst).Nodup → ((k, v) ∈ l ↔ l.lookup k = some v)
  | [], _ => by simp
  | (k', v') :: rest, h => by
    rw [List.map_cons, List.nodup_cons] at h
    have ih := mem_iff_lookup k v rest h.2
    by_cases hk : k = k'
    · subst hk
      have hno : (k, v) ∉ rest := fun hm => h.1 (List.mem_map.mpr ⟨(k, v), hm, rfl⟩)
      simp [hno, eq_comm]
    · simp [hk, List.lookup_cons, beq_eq_false_iff_ne.mpr hk, ih]

theorem mem_toList_iff {e : Entries α} (h : e.keys.Nodup) (k : String) (v : α) :
    (k, v) ∈ e.toList ↔ e.get? k = some v :=
  mem_iff_lookup k v e.toList h

end Entries

namespace Value.Mapping

theorem isKey_iff {key : String} {k : Value} : isKey key k = true ↔ k = .string key := by
  cases k <;> simp [isKey]

theorem isKey_string_iff {k key : String} : isKey k (.string key) = true ↔ k = key := by
  rw [isKey_iff, Value.string.injEq, eq_comm]

theorem isKey_eq_false_iff {key : String} {k : Value} : isKey key k = false ↔ k ≠ .string key := by
  rw [← Bool.not_eq_true, isKey_iff]

theorem get?_cons (e : Value × Value) (m : Mapping) (key : String) :
    get? (e :: m) key = if isKey key e.1 = true then some e.2 else get? m key := by
  by_cases h : isKey key e.1 = true
  · simp [get?, h]
  · simp [get?, h]

theorem get?_insert {key : String} {k : Value} (hk : k ≠ .string key) (l r : Mapping) (v : Value) :
    get? (l ++ (k, v) :: r) key = get? (l ++ r) key := by
  simp only [get?, List.find?_append, List.find?_cons, isKey_eq_false_iff.mpr hk]

theorem get?_insert_self {key : String} {l r : Mapping} (h : get? (l ++ r) key = none) (v : Value) :
    get? (l ++ (.string key, v) :: r) key = some v := by
  rw [get?, List.find?_append, Option.map_eq_none_iff, Option.or_eq_none_iff] at h
  rw [get?, List.find?_append, h.1, Option.none_or, List.find?_cons, isKey_iff.mpr rfl]
  rfl

theorem get?_put (key k : String) (v : Value) :
    ∀ m : Mapping, get? (m.put key v) k = if k = key then some v else get? m k
  | [] => by
    rw [put, get?_cons]
    exact if_congr isKey_string_iff rfl rfl
  | (k', w) :: rest => by
    have ih := get?_put key k v rest
    by_cases hk' : isKey key k' = true
    · obtain rfl := isKey_iff.mp hk'
      rw [put, if_pos hk', get?_cons, get?_cons, if_congr isKey_string_iff rfl rfl,
        if_congr isKey_string_iff rfl rfl]
      split <;> rfl
    · rw [put, if_neg hk', get?_cons, get?_cons, ih]
      by_cases hk : k = key
      · subst hk
        rw [if_pos rfl, if_pos rfl, if_neg hk']
      · rw [if_neg hk, if_neg hk]

/-- A mapping holds what was put last under a text key. -/
theorem get?_put_self (key : String) (v : Value) (m : Mapping) :
    get? (m.put key v) key = some v := by
  rw [get?_put, if_pos rfl]

/-- In a mapping with distinct keys, what a text key finds is the entry under it. -/
theorem get?_eq_some_iff {m : Mapping} (h : (m.map Prod.fst).Nodup) {key : String} {v : Value} :
    get? m key = some v ↔ (.string key, v) ∈ m := by
  induction m with
  | nil => simp [get?]
  | cons e m ih =>
    rw [List.map_cons, List.nodup_cons] at h
    rw [get?_cons, List.mem_cons]
    by_cases hkey : isKey key e.1 = true
    · have he : e.1 = .string key := isKey_iff.mp hkey
      have hno : (.string key, v) ∉ m := fun hmem => h.1 (List.mem_map.mpr ⟨_, hmem, he.symm⟩)
      rw [if_pos hkey, ← he, Option.some.injEq]
      simp [he, hno, Prod.ext_iff, eq_comm (a := v)]
    · have he : Value.string key ≠ e.1 := fun he => hkey (isKey_iff.mpr he.symm)
      rw [if_neg hkey, ih h.2]
      simp [he, Prod.ext_iff]

/-- Keys find the same in any order of the entries. -/
theorem get?_perm {m m' : Mapping} (h : m.Perm m') (hkeys : (m.map Prod.fst).Nodup) (key : String) :
    get? m key = get? m' key := by
  refine Option.ext fun v => ?_
  rw [get?_eq_some_iff hkeys, get?_eq_some_iff ((h.map Prod.fst).nodup_iff.mp hkeys), h.mem_iff]

/-- Putting a value under a text key leaves the entries under other keys. -/
theorem put_perm_cons {m : Mapping} (h : (m.map Prod.fst).Nodup) (key : String) (v : Value) :
    (m.put key v).Perm ((.string key, v) :: m.filter fun e => !isKey key e.1) := by
  induction m with
  | nil => exact .refl _
  | cons e m ih =>
    rw [List.map_cons, List.nodup_cons] at h
    by_cases hkey : isKey key e.1 = true
    · have hrest : (m.filter fun e => !isKey key e.1) = m := by
        refine List.filter_eq_self.mpr fun e' he' => ?_
        have hne : e'.1 ≠ .string key := fun he =>
          h.1 (List.mem_map.mpr ⟨e', he', he.trans (isKey_iff.mp hkey).symm⟩)
        simpa [isKey_eq_false_iff] using hne
      rw [put, if_pos hkey, List.filter_cons_of_neg (by simp [hkey]), hrest, isKey_iff.mp hkey]
    · rw [put, if_neg hkey, List.filter_cons_of_pos (by simp [hkey])]
      exact ((ih h.2).cons e).trans (.swap _ _ _)

theorem nodup_keys_put {m : Mapping} (h : (m.map Prod.fst).Nodup) (key : String) (v : Value) :
    ((m.put key v).map Prod.fst).Nodup := by
  rw [((put_perm_cons h key v).map Prod.fst).nodup_iff, List.map_cons, List.nodup_cons]
  refine ⟨fun hmem => ?_, h.sublist (List.filter_sublist.map _)⟩
  obtain ⟨e, he, hkey⟩ := List.mem_map.mp hmem
  have hother := (List.mem_filter.mp he).2
  rw [isKey_iff.mpr hkey] at hother
  cases hother

/-- Taking out an entry leaves the others. -/
theorem swapErase_perm (m : Mapping) {i : Nat} (h : i < m.length) :
    (m.swapErase i).Perm (m.eraseIdx i) := by
  rcases List.eq_nil_or_concat m with rfl | ⟨init, last, rfl⟩
  · cases h
  · rw [List.concat_eq_append] at h ⊢
    rw [List.length_append, List.length_singleton] at h
    simp only [swapErase, List.getLast?_concat, List.length_append, List.length_singleton]
    by_cases hlt : i < init.length
    · have hset : ((init ++ [last]).set i last).dropLast = init.set i last := by
        rw [List.set_append_left _ _ hlt, List.dropLast_concat]
      have herase : (init ++ [last]).eraseIdx i = init.eraseIdx i ++ [last] :=
        List.eraseIdx_append_of_lt_length hlt _
      rw [if_pos (by omega), hset, herase]
      exact (List.set_perm_cons_eraseIdx hlt last).trans (List.perm_append_singleton _ _).symm
    · have hi : i = init.length := by omega
      subst hi
      have herase : (init ++ [last]).eraseIdx init.length = init := by
        simp [List.eraseIdx_append_of_length_le]
      rw [if_neg (by omega), if_pos rfl, List.dropLast_concat, herase]

/-- Without a text key a mapping is the rest of its entries, in some order. -/
theorem swapRemove_perm (m : Mapping) (key : String) :
    (m.swapRemove key).Perm (m.eraseP fun e => isKey key e.1) := by
  rw [swapRemove, List.eraseP_eq_eraseIdx]
  split
  · rename_i i hi
    simp only [hi]
    exact swapErase_perm m (List.findIdx?_eq_some_iff_getElem.mp hi).1
  · rename_i hi
    simp only [hi, List.Perm.refl]

end Value.Mapping

end AppSpec
