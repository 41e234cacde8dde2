import AppSpec.Proofs.DialectParts

/-!
# The spellings of a model

A model is spelled as a mapping with a name, under a key that names it, or as a name that the rest of
the document describes. Whichever way, the document defines one model
(`Definition.ofFlow_of_head`), its body with the name filled in has the same entries
(`Merge.namedBody_perm`), and where a body belongs does not depend on their order
(`Merge.Reordered.placeModel`). So the spellings make the same application, up to the order of the
entries in that body (`spellings_of_model`).
-/

namespace AppSpec

open Value

/-- The same value, save that the entries of a mapping may come in another order. -/
inductive Value.Reordered : Value → Value → Prop
  | same (v : Value) : Reordered v v
  | map {m m' : Mapping} (h : m.Perm m') : Reordered (.map m) (.map m')

/-- The same keys in the same order, and under each the same value up to the order of its entries. -/
def Entries.Reordered (e e' : Entries Value) : Prop :=
  List.Forall₂ (fun p q => p.1 = q.1 ∧ Value.Reordered p.2 q.2) e.toList e'.toList

/-- The same application, conflicts and notices, save that the entries of a stored mapping may come
in another order. -/
structure Merge.Reordered (m n : Merge) : Prop where
  entities : ∀ c, (m.application.entities c).Reordered (n.application.entities c)
  rest : n.application = { m.application with entities := n.application.entities }
  conflicts : m.conflicts = n.conflicts
  notices : m.notices = n.notices

namespace Entries

theorem Reordered.refl (e : Entries Value) : e.Reordered e :=
  List.forall₂_same.mpr fun p _ => ⟨rfl, .same p.2⟩

theorem forall₂_putIn {R : String × Value → String × Value → Prop} {key : String} {v w : Value}
    (hrefl : ∀ p, R p p) (h : R (key, v) (key, w)) :
    ∀ l, List.Forall₂ R (putIn key v l) (putIn key w l)
  | [] => .cons h .nil
  | (k, u) :: l => by
    by_cases hk : (k == key) = true
    · simp only [putIn, hk, if_true]
      exact .cons h (List.forall₂_same.mpr fun p _ => hrefl p)
    · simp only [putIn, hk, Bool.false_eq_true, if_false]
      exact .cons (hrefl _) (forall₂_putIn hrefl h l)

theorem Reordered.put {v w : Value} (h : v.Reordered w) (e : Entries Value) (key : String) :
    (e.put key v).Reordered (e.put key w) :=
  forall₂_putIn (fun p => ⟨rfl, .same p.2⟩) ⟨rfl, h⟩ e.toList

end Entries

namespace Merge

theorem Reordered.put {v w : Value} (h : v.Reordered w) (m : Merge) (file : String) (c : Category)
    (key : String) : (m.put file c key v).Reordered (m.put file c key w) where
  entities := fun d => by
    rw [entities_put, entities_put]
    split
    · exact Entries.Reordered.put h _ key
    · exact Entries.Reordered.refl _
  rest := rfl
  conflicts := rfl
  notices := rfl

/-- A model goes to the same place whatever the order of the entries of its body. -/
theorem Reordered.placeModel {name : String} {B B' : Mapping}
    (h : (namedBody name B).Perm (namedBody name B'))
    (hkeys : ((namedBody name B).map Prod.fst).Nodup) (m : Merge) (file : String) :
    (m.placeModel file name B).Reordered (m.placeModel file name B') := by
  have hcategory : modelCategory (namedBody name B) = modelCategory (namedBody name B') := by
    rw [modelCategory, modelCategory, Mapping.get?_perm h hkeys]
  rw [Merge.placeModel, Merge.placeModel, ← hcategory]
  exact Reordered.put (.map h) _ file _ name

/-- With its name filled in, a body has that name and its other entries. -/
theorem namedBody_perm {body B : Mapping} (hkeys : (body.map Prod.fst).Nodup)
    (h : (body.filter fun e => !Mapping.isKey "name" e.1).Perm B) (name : String) :
    (namedBody name body).Perm ((.string "name", .string name) :: B) :=
  (Mapping.put_perm_cons hkeys "name" (.string name)).trans (h.cons _)

end Merge

namespace Definition

/-- Of a flow document only the first entry says something, if it is asked for none of the others. -/
theorem ofFlow_of_head {rest : Mapping} (hrest : ∀ e ∈ rest, ¬ Dialect.flow.Asks e.1) (key : String)
    (v : Value) : ofFlow ((.string key, v) :: rest) =
      ofFlowEntry ((.string key, v) :: rest) key v := by
  rw [ofFlow, List.flatMap_cons]
  refine (congrArg₂ (· ++ ·) rfl ?_).trans (List.append_nil _)
  refine List.flatMap_eq_nil_iff.mpr fun e he => ?_
  rcases hk : e.1.asString? with _ | key'
  · rfl
  · exact ofFlowEntry_of_not_asked (fun h => hrest e he ⟨key', hk, .inl h⟩)
      (fun h => hrest e he ⟨key', hk, .inr h⟩) _ e.2

theorem modelKey?_append {name : String} (htrim : Text.trim name = name) :
    modelKey? ("model " ++ name) = some name := by
  have hchars : ("model " ++ name).toList = "model ".toList ++ name.toList := String.toList_append
  have hdrop : ("model ".toList ++ name.toList).drop 6 = name.toList := rfl
  rw [modelKey?, hchars, if_pos (List.isPrefixOf_iff_prefix.mpr (List.prefix_append _ _)), hdrop,
    String.ofList_toList, htrim]

theorem ofFlow_mapped {M : Mapping} {name : String} (hname : M.get? "name" = some (.string name)) :
    ofFlow [(.string "model", .map M)] = [.model name M] := by
  rw [ofFlow_of_head (List.forall_mem_nil _)]
  simp [ofFlowEntry, ofModel, hname, scalarText?]

theorem ofFlow_keyed {name : String} (hne : name ≠ "") (htrim : Text.trim name = name)
    (B : Mapping) : ofFlow [(.string ("model " ++ name), .map B)] = [.model name B] := by
  rw [ofFlow_of_head (List.forall_mem_nil _), ofFlowEntry_of_modelKey? (modelKey?_append htrim)]
  simp [ofModelKey, asMap?, untag, hne]

theorem ofFlow_spread {B : Mapping} (hasked : ∀ e ∈ B, ¬ Dialect.flow.Asks e.1) (name : String) :
    ofFlow ((.string "model", .string name) :: B) =
      [.model name (Mapping.swapRemove ((.string "model", .string name) :: B) "model")] := by
  rw [ofFlow_of_head hasked]
  simp [ofFlowEntry, ofModel, scalarText?]

end Definition

/-- A flow document that defines one model and nothing else. -/
theorem Merge.step_of_model {entries body : Mapping} {name : String}
    (h : Definition.ofFlow entries = [.model name body]) (a : Application) (stem path : String) :
    step a ⟨.flow, stem, path, entries⟩ =
      ({ application := a } : Merge).placeModel path name body :=
  congrArg (List.foldl (apply path) { application := a }) h

theorem Value.Mapping.nodup_keys_cons {B : Mapping} (hkeys : (B.map Prod.fst).Nodup) {key : Value}
    (h : ∀ e ∈ B, e.1 ≠ key) (v : Value) : (((key, v) :: B).map Prod.fst).Nodup := by
  rw [List.map_cons, List.nodup_cons]
  refine ⟨fun hmem => ?_, hkeys⟩
  obtain ⟨e, he, hkey⟩ := List.mem_map.mp hmem
  exact h e he hkey

/-- A model spelled as a mapping with its name anywhere among its entries, under a key that names it,
or as a name followed by its entries, makes the same application, the same conflicts and no notice,
whatever was there before. The name begins and ends with no blank, and a flow document is not asked
for any key of the body. -/
theorem spellings_of_model (a : Application) (stem path : String) {name : String} (hne : name ≠ "")
    (htrim : Text.trim name = name) {B M : Mapping} (hkeys : (B.map Prod.fst).Nodup)
    (hname : B.get? "name" = none) (hasked : ∀ e ∈ B, ¬ Dialect.flow.Asks e.1)
    (hM : M.Perm ((.string "name", .string name) :: B)) :
    let doc (body : Mapping) : Document := ⟨.flow, stem, path, body⟩
    let mapped := Merge.step a (doc [(.string "model", .map M)])
    let keyed := Merge.step a (doc [(.string ("model " ++ name), .map B)])
    let spread := Merge.step a (doc ((.string "model", .string name) :: B))
    keyed = ({ application := a } : Merge).placeModel path name B ∧
      mapped.Reordered keyed ∧ keyed.Reordered spread ∧
      mapped.notices = [] ∧ keyed.notices = [] ∧ spread.notices = [] := by
  intro doc mapped keyed spread
  have hfree : ∀ e ∈ B, e.1 ≠ .string "name" := by
    rw [Mapping.get?, Option.map_eq_none_iff, List.find?_eq_none] at hname
    exact fun e he h => hname e he (Mapping.isKey_iff.mpr h)
  have hfilter : (B.filter fun e => !Mapping.isKey "name" e.1) = B :=
    List.filter_eq_self.mpr fun e he => by simp [Mapping.isKey_eq_false_iff.mpr (hfree e he)]
  -- the bodies that the documents give to the model have the same entries but for the name
  have hMkeys : (M.map Prod.fst).Nodup :=
    (hM.map Prod.fst).nodup_iff.mpr (Mapping.nodup_keys_cons hkeys hfree _)
  have hMname : M.get? "name" = some (.string name) := by
    rw [Mapping.get?_eq_some_iff hMkeys, hM.mem_iff]
    exact List.mem_cons_self
  have hremoved :
      (Mapping.swapRemove ((.string "model", .string name) :: B) "model").Perm B := by
    refine (Mapping.swapRemove_perm _ "model").trans ?_
    rw [List.eraseP_cons_of_pos rfl]
  have hnamed : (Merge.namedBody name B).Perm ((.string "name", .string name) :: B) :=
    Merge.namedBody_perm hkeys (by rw [hfilter]) name
  have hnamedM : (Merge.namedBody name M).Perm ((.string "name", .string name) :: B) := by
    refine Merge.namedBody_perm hMkeys ((hM.filter _).trans ?_) name
    rw [List.filter_cons_of_neg (by simp [Mapping.isKey]), hfilter]
  have hnamedSpread := Merge.namedBody_perm ((hremoved.map Prod.fst).nodup_iff.mpr hkeys)
    ((hremoved.filter _).trans (by rw [hfilter])) name
  -- so it goes to the same place
  have hmapped : mapped = _ := Merge.step_of_model (Definition.ofFlow_mapped hMname) a stem path
  have hkeyed : keyed = _ := Merge.step_of_model (Definition.ofFlow_keyed hne htrim B) a stem path
  have hspread : spread = _ := Merge.step_of_model (Definition.ofFlow_spread hasked name) a stem path
  refine ⟨hkeyed, ?_, ?_, ?_, ?_, ?_⟩
  · rw [hmapped, hkeyed]
    exact .placeModel (hnamedM.trans hnamed.symm) (Mapping.nodup_keys_put hMkeys _ _) _ path
  · rw [hkeyed, hspread]
    exact .placeModel (hnamed.trans hnamedSpread.symm) (Mapping.nodup_keys_put hkeys _ _) _ path
  · rw [hmapped]
    rfl
  · rw [hkeyed]
    rfl
  · rw [hspread]
    rfl

/-- A model that was there moves to the vector databases, whichever way it is spelled. -/
theorem spellings_of_moved_model :
    let a := (Merge.ofDocuments [⟨.flow, "a", "a.flow", [(.string "model Note", .map [])]⟩]).application
    let connection : Value × Value := (.string "connection", .string "local_vector_db")
    let fields : Value × Value := (.string "fields", .list [.string "id"])
    let named : Value × Value := (.string "name", .string "Note")
    let doc (body : Mapping) : Document := ⟨.flow, "b", "b.flow", body⟩
    let mapped := Merge.step a (doc [(.string "model", .map [connection, named, fields])])
    let keyed := Merge.step a (doc [(.string "model Note", .map [connection, fields])])
    let spread := Merge.step a (doc [(.string "model", .string "Note"), connection, fields])
    (∀ e ∈ [connection, fields], ¬ Dialect.flow.Asks e.1) ∧
      mapped.Reordered keyed ∧ keyed.Reordered spread ∧
      (keyed.application.entities .models).toList = [] ∧
      (keyed.application.entities .vectorDatabases).toList =
        [("Note", .map [connection, fields, named])] ∧
      (spread.application.entities .vectorDatabases).toList =
        [("Note", .map [fields, connection, named])] ∧ spread.conflicts = [] := by
  intro a connection fields named doc mapped keyed spread
  have hasked : ∀ e ∈ [connection, fields], ¬ Dialect.flow.Asks e.1 := by
    rintro e he ⟨key, hkey, hasked⟩
    simp only [List.mem_cons, List.not_mem_nil, or_false] at he
    rcases he with rfl | rfl
    all_goals
      cases hkey
      revert hasked
      decide
  have hkeys : ([connection, fields].map Prod.fst).Nodup := by decide
  have hnamed : [connection, named, fields].Perm [named, connection, fields] := .swap _ _ _
  obtain ⟨-, hmapped, hspread, -⟩ :=
    spellings_of_model a "b" "b.flow" (by decide) (by decide) hkeys rfl hasked hnamed
  exact ⟨hasked, hmapped, hspread, by decide +kernel, by decide +kernel, by decide +kernel,
    by decide +kernel⟩

end AppSpec
