import AppSpec.Proofs.Declared
import AppSpec.Proofs.Entries
import AppSpec.Proofs.MergeStep

/-!
# The last definition of a key stands

After any documents, a keyed category holds under each key the whole value of the key's last
definition. Its keys stand in the order in which they first came, every definition of a key that was
there is a conflict that names its file, and every item without a key is a notice
(`entities_ofDocuments`). One definition does all of this for what was said before it
(`Follows.apply`), and documents for all of them (`follows_documents`).
-/

namespace AppSpec

/-- A definition of an entity and the file that holds it. -/
structure Declared where
  key : String
  value : Value
  file : String
deriving DecidableEq, Repr

namespace Declared

/-- The last definition of a key. -/
def lastOf (D : List Declared) (key : String) : Option Declared :=
  (D.filter (·.key == key)).getLast?

/-- The definitions of keys that are defined before them, or that were `seen` before the list. -/
def repeated (seen : List String) : List Declared → List Declared
  | [] => []
  | x :: rest =>
    if x.key ∈ seen then x :: repeated seen rest else repeated (x.key :: seen) rest

/-- The entities among items, each item with its file. -/
def ofItems (l : List (String × Item)) : List Declared :=
  l.filterMap fun
    | (file, .ok (key, v)) => some ⟨key, v, file⟩
    | (_, .error _) => none

theorem lastOf_concat (D : List Declared) (x : Declared) (key : String) :
    lastOf (D ++ [x]) key = if key = x.key then some x else lastOf D key :=
  getLast?_filter_concat Declared.key D x key

theorem repeated_concat (x : Declared) :
    ∀ (D : List Declared) (seen : List String), repeated seen (D ++ [x]) =
      repeated seen D ++ if x.key ∈ seen ∨ x.key ∈ D.map key then [x] else []
  | [], seen => by
    by_cases h : x.key ∈ seen <;> simp [repeated, h]
  | y :: D, seen => by
    by_cases hy : y.key ∈ seen
    · have ih := repeated_concat x D seen
      have hiff : x.key ∈ seen ∨ x.key ∈ (y :: D).map key ↔
          x.key ∈ seen ∨ x.key ∈ D.map key := by
        rw [List.map_cons, List.mem_cons]
        exact ⟨fun h => h.elim .inl fun h => h.elim (fun h => .inl (h ▸ hy)) .inr,
          fun h => h.imp id .inr⟩
      simp only [List.cons_append, repeated, hy, if_true, ih, hiff]
    · have ih := repeated_concat x D (y.key :: seen)
      have hiff : x.key ∈ seen ∨ x.key ∈ (y :: D).map key ↔
          x.key ∈ y.key :: seen ∨ x.key ∈ D.map key := by
        rw [List.map_cons, List.mem_cons, List.mem_cons]
        tauto
      simp only [List.cons_append, repeated, hy, if_false, ih, hiff]

theorem eraseDups_concat (l : List String) (a : String) :
    (l ++ [a]).eraseDups = if a ∈ l then l.eraseDups else l.eraseDups ++ [a] := by
  rw [List.eraseDups_append]
  by_cases h : a ∈ l <;> simp [List.removeAll, List.eraseDups_cons, h]

theorem ofItems_concat_ok (l : List (String × Item)) (file key : String) (v : Value) :
    ofItems (l ++ [(file, .ok (key, v))]) = ofItems l ++ [⟨key, v, file⟩] := by
  simp [ofItems]

theorem ofItems_concat_error (l : List (String × Item)) (file : String) (why : Skipped) :
    ofItems (l ++ [(file, .error why)]) = ofItems l := by
  simp [ofItems]

end Declared

/-- The notices of the items that were skipped, each item with its file. -/
def Notice.ofItems (l : List (String × Item)) : List Notice :=
  l.filterMap fun
    | (file, .error why) => some ⟨file, why⟩
    | (_, .ok _) => none

namespace Document

/-- The items of a category in documents, each with its file. -/
def itemsOf (c : Category) (ds : List Document) : List (String × Item) :=
  ds.flatMap fun d => (d.items c).map (d.path, ·)

/-- The definitions of a category in documents. -/
def declared (c : Category) (ds : List Document) : List Declared :=
  Declared.ofItems (itemsOf c ds)

end Document

namespace Merge

/-- What a merge says about a category is what the items that were met so far say. -/
structure Follows (c : Category) (met : List (String × Item)) (m : Merge) : Prop where
  keys : (m.application.entities c).keys = ((Declared.ofItems met).map Declared.key).eraseDups
  get? : ∀ key, (m.application.entities c).get? key =
    (Declared.lastOf (Declared.ofItems met) key).map Declared.value
  conflicts : m.conflicts.filter (·.category = c) =
    (Declared.repeated [] (Declared.ofItems met)).map fun x => ⟨c, x.key, x.file⟩
  notices : m.notices.filter (·.why.concerns c) = Notice.ofItems met

theorem follows_empty (c : Category) : Follows c [] empty where
  keys := rfl
  get? := fun _ => rfl
  conflicts := rfl
  notices := rfl

/-- The parts of a merge that speak of a category. -/
def About (c : Category) (m m' : Merge) : Prop :=
  m'.application.entities c = m.application.entities c ∧
    m'.conflicts.filter (·.category = c) = m.conflicts.filter (·.category = c) ∧
    m'.notices.filter (·.why.concerns c) = m.notices.filter (·.why.concerns c)

theorem Follows.of_about {c : Category} {met : List (String × Item)} {m m' : Merge}
    (h : Follows c met m) (hm : About c m m') : Follows c met m' where
  keys := by rw [hm.1, h.keys]
  get? := by rw [hm.1]; exact h.get?
  conflicts := by rw [hm.2.1, h.conflicts]
  notices := by rw [hm.2.2, h.notices]

/-- An entity of another category changes nothing. -/
theorem about_put {c c' : Category} (h : c' ≠ c) (m : Merge) (file key : String) (v : Value) :
    About c m (m.put file c' key v) := by
  refine ⟨?_, ?_, rfl⟩
  · rw [entities_put, if_neg (Ne.symm h)]
  · simp only [put]
    split <;> simp [h]

theorem about_placeModel {c : Category} (hc : c ∉ modelCategories) (m : Merge)
    (file name : String) (body : Value.Mapping) : About c m (m.placeModel file name body) := by
  have hmem := modelCategory_mem (namedBody name body)
  have hplaced : c ≠ modelCategory (namedBody name body) := fun h => hc (h ▸ hmem)
  have hother : c ≠ otherModelCategory (modelCategory (namedBody name body)) := fun h =>
    hc (h ▸ otherModelCategory_mem _ hmem)
  refine ⟨?_, ?_, rfl⟩
  · simp only [entities_placeModel, hplaced, hother, if_false]
  · simp only [placeModel, put]
    split <;> simp [Ne.symm hplaced]

/-- A definition that says nothing about a keyed category leaves alone what is said about it. -/
theorem about_apply {c : Category} (hc : c ∈ Category.keyed) (file : String) (m : Merge)
    {x : Definition} (hx : x.item? c = none) : About c m (m.apply file x) := by
  cases x with
  | entity c' key v =>
    have hne : c' ≠ c := fun h => by simp [Definition.item?, h] at hx
    exact about_put hne m file key v
  | model name body => exact about_placeModel (keyed_not_mem c hc).1 m file name body
  | stream id config => exact about_put (Ne.symm (keyed_not_mem c hc).2) m file _ _
  | skipped why =>
    have hno : why.concerns c = false := by
      rw [Definition.item?] at hx
      split at hx
      · cases hx
      · rename_i h
        simpa only [Bool.not_eq_true] using h
    exact ⟨rfl, rfl, by simp [apply, hno]⟩
  | authentication body => exact ⟨rfl, rfl, rfl⟩
  | theme body => exact ⟨rfl, rfl, rfl⟩
  | integration kind body =>
    refine ⟨?_, rfl, rfl⟩
    simp only [apply, setIntegration]
    split <;> rfl
  | form config => exact ⟨rfl, rfl, rfl⟩

theorem Follows.put {c : Category} {met : List (String × Item)} {m : Merge} (h : Follows c met m)
    (file key : String) (v : Value) :
    Follows c (met ++ [(file, .ok (key, v))]) (m.put file c key v) := by
  have hentities : (m.put file c key v).application.entities c =
      (m.application.entities c).put key v := by
    rw [entities_put, if_pos rfl]
  have hmem : key ∈ (m.application.entities c).keys ↔
      key ∈ (Declared.ofItems met).map Declared.key := by
    rw [h.keys, List.mem_eraseDups]
  refine ⟨?_, ?_, ?_, ?_⟩
  · rw [hentities, Entries.keys_put, Declared.ofItems_concat_ok, List.map_append,
      List.map_singleton, Declared.eraseDups_concat, ← h.keys]
    exact if_congr hmem rfl rfl
  · intro k
    rw [hentities, Entries.get?_put, h.get?, Declared.ofItems_concat_ok, Declared.lastOf_concat]
    split <;> rfl
  · rw [Declared.ofItems_concat_ok, Declared.repeated_concat, List.map_append, ← h.conflicts]
    simp only [Merge.put, Entries.contains_iff, hmem, List.not_mem_nil, false_or]
    split <;> simp
  · simpa [Merge.put, Notice.ofItems] using h.notices

theorem Follows.skip {c : Category} {met : List (String × Item)} {m : Merge} (h : Follows c met m)
    (file : String) {why : Skipped} (hwhy : why.concerns c = true) :
    Follows c (met ++ [(file, .error why)]) { m with notices := m.notices ++ [⟨file, why⟩] } where
  keys := by rw [Declared.ofItems_concat_error]; exact h.keys
  get? := by rw [Declared.ofItems_concat_error]; exact h.get?
  conflicts := by rw [Declared.ofItems_concat_error]; exact h.conflicts
  notices := by
    rw [List.filter_append, h.notices]
    simp [Notice.ofItems, hwhy]

/-- One definition: an item of the category is met, or nothing is said about it. -/
theorem Follows.apply {c : Category} (hc : c ∈ Category.keyed) {met : List (String × Item)}
    {m : Merge} (h : Follows c met m) (file : String) (x : Definition) :
    Follows c (met ++ (x.item? c).toList.map (file, ·)) (m.apply file x) := by
  rcases hx : x.item? c with _ | i
  · simpa using h.of_about (about_apply hc file m hx)
  · cases x with
    | entity c' key v =>
      rw [Definition.item?] at hx
      split at hx
      · rename_i hcc
        subst hcc
        cases hx
        exact h.put file key v
      · cases hx
    | skipped why =>
      rw [Definition.item?] at hx
      split at hx
      · rename_i hwhy
        cases hx
        exact h.skip file hwhy
      · cases hx
    | _ => cases hx

/-- The documents, one after another. -/
theorem follows_documents {c : Category} (hc : c ∈ Category.keyed) (ds : List Document)
    {met : List (String × Item)} {m : Merge} (h : Follows c met m) :
    Follows c (met ++ Document.itemsOf c ds) (ds.foldl add m) := by
  refine foldl_extends ds (fun d _ met m h => ?_) h
  rw [← Document.filterMap_definitions hc, List.filterMap_eq_flatMap_toList, List.map_flatMap]
  exact foldl_extends d.definitions (fun x _ _ _ h => h.apply hc d.path x) h

end Merge

/-- After any documents a keyed category holds the last definition of each key, whole, the keys in
the order in which they were first defined. Its conflicts are the definitions of keys that were
defined before, and the notices on its account are the items without a key. -/
theorem entities_ofDocuments (ds : List Document) {c : Category} (hc : c ∈ Category.keyed) :
    let m := Merge.ofDocuments ds
    let D := Document.declared c ds
    (m.application.entities c).keys = (D.map Declared.key).eraseDups ∧
      (∀ key, (m.application.entities c).get? key = (Declared.lastOf D key).map Declared.value) ∧
      m.conflicts.filter (·.category = c) =
        (Declared.repeated [] D).map (fun x => ⟨c, x.key, x.file⟩) ∧
      m.notices.filter (·.why.concerns c) = Notice.ofItems (Document.itemsOf c ds) := by
  have h := Merge.follows_documents hc ds (Merge.follows_empty c)
  rw [List.nil_append] at h
  exact ⟨h.keys, h.get?, h.conflicts, h.notices⟩

/-- A page without a path is the page at `/`, so it takes the place of that page. -/
theorem pages_of_two_documents :
    Category.pages ∈ Category.keyed ∧
      let home : Value := .map [(.string "path", .string "/"), (.string "title", .string "Home")]
      let start : Value := .map [(.string "title", .string "Start")]
      let m := Merge.ofDocuments
        [⟨.flow, "a", "a.flow", [(.string "page", home), (.tagged "!x" (.string "page"), .null)]⟩,
          ⟨.flow, "b", "b.flow", [(.string "page", start)]⟩]
      (m.application.entities .pages).get? "/" = some start ∧
        (m.application.entities .pages).keys = ["/"] ∧
        m.conflicts.filter (·.category = .pages) = [⟨.pages, "/", "b.flow"⟩] ∧
        m.notices.filter (·.why.concerns .pages) = [⟨"a.flow", .notAMapping "page"⟩] := by
  refine ⟨by decide, ?_⟩
  intro home start m
  obtain ⟨hkeys, hget, hconflicts, hnotices⟩ := entities_ofDocuments
    [⟨.flow, "a", "a.flow", [(.string "page", home), (.tagged "!x" (.string "page"), .null)]⟩,
      ⟨.flow, "b", "b.flow", [(.string "page", start)]⟩] (c := .pages) (by decide)
  exact ⟨(hget "/").trans (by decide), hkeys.trans (by decide), hconflicts.trans (by decide),
    hnotices.trans (by decide)⟩

end AppSpec
