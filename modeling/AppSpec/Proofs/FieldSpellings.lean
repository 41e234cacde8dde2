import AppSpec.Proofs.Entries
import AppSpec.SmartForm.Basic

/-!
# The spellings of form fields

A field is read from five entries of its configuration and from nothing else
(`SmartField.ofConfig_congr`), its name not among them. So it makes no difference whether fields are
listed with their names or given under them, whether a configuration says only a type or is that
type's name, and whether a single rule is put into a list (`fields_of_spellings`).
-/

namespace AppSpec

open Value

namespace SmartField

/-- A field is what these five entries of its configuration say. -/
theorem ofConfig_congr {name : String} {config config' : Mapping}
    (htype : config.get? "type" = config'.get? "type")
    (hrequired : config.get? "required" = config'.get? "required")
    (hvalidate : config.get? "validate" = config'.get? "validate")
    (hux : Setting.readAll uxSettings (group config "ux") =
      Setting.readAll uxSettings (group config' "ux"))
    (hsecurity : Setting.readAll securitySettings (group config "security") =
      Setting.readAll securitySettings (group config' "security")) :
    ofConfig name config = ofConfig name config' := by
  simp only [ofConfig, Mapping.textOr, Mapping.boolOr, htype, hrequired, hvalidate, hux, hsecurity]

/-- A field does not look for its name in its configuration. -/
theorem ofConfig_insert_name (name : String) (front back : Mapping) (v : Value) :
    ofConfig name (front ++ (.string "name", v) :: back) = ofConfig name (front ++ back) := by
  have hget : ∀ key, "name" ≠ key → Mapping.get? (front ++ (.string "name", v) :: back) key =
      Mapping.get? (front ++ back) key := fun key hkey =>
    Mapping.get?_insert (fun h => hkey (Value.string.inj h)) front back v
  have hgroup : ∀ key, "name" ≠ key → group (front ++ (.string "name", v) :: back) key =
      group (front ++ back) key := fun key hkey => by rw [group, group, hget key hkey]
  exact ofConfig_congr (hget _ (by decide)) (hget _ (by decide)) (hget _ (by decide))
    (by rw [hgroup _ (by decide)]) (by rw [hgroup _ (by decide)])

/-- The entry of a mapping gives the configuration of a field under the field's name. -/
def IsGiven (field : String × Mapping) (entry : Value × Value) : Prop :=
  entry.1.scalarText? = some field.1 ∧ entry.2 = .map field.2

/-- The item of a list is the configuration of a field, with the field's name written into it. -/
def IsListed (field : String × Mapping) (item : Value) : Prop :=
  ∃ front v back, v.scalarText? = some field.1 ∧ field.2 = front ++ back ∧
    item = .map (front ++ (.string "name", v) :: back)

theorem ofEntry?_of_isGiven {field : String × Mapping} {entry : Value × Value}
    (h : IsGiven field entry) : ofEntry? entry = some (ofConfig field.1 field.2) := by
  simp only [ ofEntry?, h.1, h.2]
  rfl

theorem ofItem?_of_isListed {field : String × Mapping} {item : Value} (h : IsListed field item)
    (hname : field.2.get? "name" = none) : ofItem? item = some (ofConfig field.1 field.2) := by
  obtain ⟨front, v, back, hv, hfield, rfl⟩ := h
  have hfound : Mapping.get? (front ++ (.string "name", v) :: back) "name" = some v :=
    Mapping.get?_insert_self (hfield ▸ hname) v
  simp only [ofItem?, asMap?, untag, hfound, hv, Option.bind_eq_bind, Option.bind_some,
    ofConfig_insert_name, ← hfield]
  rfl

theorem filterMap_of_forall₂ {α β γ : Type} {R : α → β → Prop} {f : α → Option γ}
    {g : β → Option γ} {l : List α} {l' : List β} (h : List.Forall₂ R l l')
    (hf : ∀ a ∈ l, ∀ b, R a b → f a = g b) : l.filterMap f = l'.filterMap g := by
  induction h with
  | nil => rfl
  | @cons a b l l' hab _ ih =>
    rw [List.filterMap_cons, List.filterMap_cons, hf a List.mem_cons_self b hab,
      ih fun c hc => hf c (List.mem_cons_of_mem a hc)]

/-- Fields given under their names, and the same fields listed with their names in them. -/
theorem readAll_of_isGiven {fields : List (String × Mapping)} {entries : Mapping}
    (h : List.Forall₂ IsGiven fields entries) :
    readAll (some (.map entries)) = fields.map fun f => ofConfig f.1 f.2 := by
  rw [← List.filterMap_eq_map]
  exact (filterMap_of_forall₂ h fun _ _ _ hgiven => (ofEntry?_of_isGiven hgiven).symm).symm

theorem readAll_of_isListed {fields : List (String × Mapping)} {items : List Value}
    (h : List.Forall₂ IsListed fields items) (hname : ∀ f ∈ fields, f.2.get? "name" = none) :
    readAll (some (.list items)) = fields.map fun f => ofConfig f.1 f.2 := by
  rw [← List.filterMap_eq_map]
  exact (filterMap_of_forall₂ h fun f hf _ hlisted =>
    (ofItem?_of_isListed hlisted (hname f hf)).symm).symm

/-- A type on its own stands for the configuration that says this type and nothing else. -/
theorem ofEntry?_type (key : Value) (type : String) :
    ofEntry? (key, .string type) = ofEntry? (key, .map [(.string "type", .string type)]) := by
  rcases hname : key.scalarText? with _ | name
  · simp only [ ofEntry?, hname]
    rfl
  · simp only [ ofEntry?, hname]
    rfl

theorem ofConfig_put_validate (name : String) (config : Mapping) {v w : Value}
    (h : Rule.readAll (some v) = Rule.readAll (some w)) :
    ofConfig name (config.put "validate" v) = ofConfig name (config.put "validate" w) := by
  simp [ofConfig, Mapping.textOr, Mapping.boolOr, group, Mapping.get?_put, h]

end SmartField

/-- A form is the same with other fields that are read like its own. -/
theorem SmartForm.read_put_fields (config : Mapping) {v w : Value}
    (h : SmartField.readAll (some v) = SmartField.readAll (some w)) :
    read (config.put "fields" v) = read (config.put "fields" w) := by
  simp [read, Mapping.textOr, SmartField.group, Mapping.get?_put, h]

/-- One rule is read like the list that holds it and nothing else. -/
theorem Rule.readAll_singleton {v : Value} (h : ∀ items, v ≠ .list items) :
    readAll (some v) = readAll (some (.list [v])) := by
  have hsingle : readAll (some v) = (ofValue? v).toList := by
    cases v with
    | list items => exact absurd rfl (h items)
    | _ => rfl
  rw [hsingle, readAll]
  rcases hv : ofValue? v with _ | rule
  · rw [List.filterMap_cons_none hv]
    rfl
  · rw [List.filterMap_cons_some hv]
    rfl

/-- Whatever else a form says: its fields are the same, in the same order, whether they are given
under their names or listed with their names in them, and the form is the same if a configuration
that says only a type is written as that type. A field is the same, its rules among the rest, whether
a single rule is written alone or in a list. -/
theorem fields_of_spellings (config : Mapping) :
    (∀ (fields : List (String × Mapping)) (entries : Mapping) (items : List Value),
        List.Forall₂ SmartField.IsGiven fields entries →
        List.Forall₂ SmartField.IsListed fields items →
        (∀ f ∈ fields, f.2.get? "name" = none) →
        let given := SmartForm.read (config.put "fields" (.map entries))
        let listed := SmartForm.read (config.put "fields" (.list items))
        given.fields = (fields.map fun f => SmartField.ofConfig f.1 f.2) ∧ given = listed) ∧
      (∀ (before after : Mapping) (key : Value) (type : String),
        let spelled (v : Value) := SmartForm.read
          (config.put "fields" (.map (before ++ (key, v) :: after)))
        spelled (.string type) = spelled (.map [(.string "type", .string type)])) ∧
      (∀ (name rule : String) (field : Mapping),
        SmartField.ofConfig name (field.put "validate" (.string rule)) =
          SmartField.ofConfig name (field.put "validate" (.list [.string rule]))) ∧
      ∀ (name : String) (rule field : Mapping),
        SmartField.ofConfig name (field.put "validate" (.map rule)) =
          SmartField.ofConfig name (field.put "validate" (.list [.map rule])) := by
  refine ⟨fun fields entries items hentries hitems hname => ?_, fun before after key type => ?_,
    fun name rule field => ?_, fun name rule field => ?_⟩
  · have hgiven := SmartField.readAll_of_isGiven hentries
    have hlisted := SmartField.readAll_of_isListed hitems hname
    refine ⟨?_, SmartForm.read_put_fields config (hgiven.trans hlisted.symm)⟩
    rw [SmartForm.read, Mapping.get?_put_self]
    exact hgiven
  · refine SmartForm.read_put_fields config ?_
    simp only [SmartField.readAll, List.filterMap_append, List.filterMap_cons,
      SmartField.ofEntry?_type key type]
  · exact SmartField.ofConfig_put_validate name field
      (Rule.readAll_singleton fun _ => Value.noConfusion)
  · exact SmartField.ofConfig_put_validate name field
      (Rule.readAll_singleton fun _ => Value.noConfusion)

/-- Two fields, one of which is named by a number, with their names in front and at the end. -/
theorem fields_of_two_spellings :
    let email : Mapping :=
      [(.string "type", .string "email"), (.string "validate", .string "required")]
    let code : Mapping := [(.string "required", .bool true)]
    let config : Mapping := [(.string "method", .string "PUT")]
    let given := SmartForm.read (config.put "fields"
      (.map [(.string "email", .map email), (.int 7, .map code)]))
    let listed := SmartForm.read (config.put "fields"
      (.list [.map ((.string "name", .string "email") :: email),
        .map (code ++ [(.string "name", .string "7")])]))
    given = listed ∧ given.method = "PUT" ∧
      given.fields.map (fun f => (f.name, f.required)) = [("email", false), ("7", true)] := by
  intro email code config given listed
  have hgiven : List.Forall₂ SmartField.IsGiven [("email", email), ("7", code)]
      [(.string "email", .map email), (.int 7, .map code)] :=
    .cons ⟨rfl, rfl⟩ (.cons ⟨by decide, rfl⟩ .nil)
  have hlisted : List.Forall₂ SmartField.IsListed [("email", email), ("7", code)]
      [.map ((.string "name", .string "email") :: email),
        .map (code ++ [(.string "name", .string "7")])] :=
    .cons ⟨[], .string "email", email, rfl, rfl, rfl⟩
      (.cons ⟨code, .string "7", [], rfl, (List.append_nil code).symm, rfl⟩ .nil)
  have hname : ∀ f ∈ [("email", email), ("7", code)], f.2.get? "name" = none := by decide
  obtain ⟨hfields, hforms⟩ := (fields_of_spellings config).1 _ _ _ hgiven hlisted hname
  refine ⟨hforms, rfl, ?_⟩
  have hnames := congrArg (List.map fun f => (f.name, f.required)) hfields
  exact hnames.trans rfl

end AppSpec
