import Mathlib.Data.List.Nodup
import Mathlib.Data.List.Pairwise
import AppSpec.Proofs.FieldSpellings

/-!
# The spellings of features

A feature of a form or of a field is a setting with two spellings. What a setting finds does not
depend on the spelling as long as the mapping holds only one of the two, whatever else is spelled
otherwise (`Setting.find?_of_respelled`). From a group of settings this goes up to a field
(`SmartField.ofConfig_of_respelled`) and to a form (`SmartForm.read_of_respelled`). The second
spelling is the name in camel case but for one setting (`SmartForm.spellings_eq_keys`), which is not
found under that name (`forms_of_respelled`).
-/

namespace AppSpec

open Value

/-! ## Respelled configurations -/

/-- A value that holds a mapping, under any tags, and the same with a related mapping. -/
inductive Value.Under (R : Mapping → Mapping → Prop) : Value → Value → Prop
  | map {m m' : Mapping} (h : R m m') : Under R (.map m) (.map m')
  | tagged (tag : String) {v v' : Value} (h : Under R v v') : Under R (.tagged tag v) (.tagged tag v')

/-- An entry, and the same entry with another value, related to its own as said for its key. -/
inductive Value.Mapping.Revalued (R : Value → Value → Value → Prop) :
    Value × Value → Value × Value → Prop
  | same (e : Value × Value) : Revalued R e e
  | other {key v v' : Value} (h : R key v v') : Revalued R (key, v) (key, v')

/-- The key is one of the names. -/
def Value.Mapping.isOneOf (names : List String) (key : Value) : Bool :=
  names.any fun name => isKey name key

namespace Setting

def camelCaseChars : List Char → List Char
  | '_' :: c :: rest => c.toUpper :: camelCaseChars rest
  | c :: rest => c :: camelCaseChars rest
  | [] => []

/-- Words joined without underscores, each but the first with a capital. -/
def camelCase (s : String) : String :=
  String.ofList (camelCaseChars s.toList)

/-- The keys under which a setting is looked for. -/
def keys (s : Setting) : List String :=
  s.name :: s.spelling.toList

/-- The name of a setting, and that name in camel case. -/
def camelKeys (s : Setting) : List String :=
  [s.name, camelCase s.name]

/-- An entry of a mapping, and the same entry with a setting spelled otherwise that the mapping holds
once. -/
inductive Respelled (spellings : Setting → List String) (ss : List Setting) (m : Mapping) :
    Value × Value → Value × Value → Prop
  | same (e : Value × Value) : Respelled spellings ss m e e
  | other {s : Setting} (hs : s ∈ ss) {k k' : Value}
    (hk : Mapping.isOneOf (spellings s) k = true) (hk' : Mapping.isOneOf (spellings s) k' = true)
    (honce : m.countP (fun e => Mapping.isOneOf (spellings s) e.1) = 1) (v : Value) :
    Respelled spellings ss m (k, v) (k', v)

end Setting

/-- A value under the key of a group, and the same with settings of the group spelled otherwise. -/
def Setting.Regrouped (spellings : Setting → List String) (groups : List (String × List Setting))
    (key v v' : Value) : Prop :=
  ∃ g ∈ groups, key = .string g.1 ∧
    Value.Under (fun m => List.Forall₂ (Setting.Respelled spellings g.2 m) m) v v'

/-- The groups of settings of a field. -/
def SmartField.groups : List (String × List Setting) :=
  [("ux", uxSettings), ("security", securitySettings)]

/-- The configuration of a field, and the same with settings spelled otherwise. -/
def SmartField.Respelled (spellings : Setting → List String) : Mapping → Mapping → Prop :=
  List.Forall₂ (Mapping.Revalued (Setting.Regrouped spellings groups))

/-- The fields of a form, given under their names or listed, and the same with settings of fields
spelled otherwise. -/
inductive SmartField.AllRespelled (spellings : Setting → List String) : Value → Value → Prop
  | given {m m' : Mapping} (h : List.Forall₂
      (Mapping.Revalued fun _ => Value.Under (SmartField.Respelled spellings)) m m') :
    AllRespelled spellings (.map m) (.map m')
  | listed {l l' : List Value} (h : List.Forall₂
      (fun v v' => v = v' ∨ Value.Under (SmartField.Respelled spellings) v v') l l') :
    AllRespelled spellings (.list l) (.list l')

/-- The groups of settings of a form. -/
def SmartForm.groups : List (String × List Setting) :=
  [("smart_features", smartSettings), ("ux_features", uxSettings),
    ("security_features", securitySettings)]

/-- The configuration of a form, and the same with settings of the form and of its fields spelled
otherwise. -/
def SmartForm.Respelled (spellings : Setting → List String) : Mapping → Mapping → Prop :=
  List.Forall₂ (Mapping.Revalued fun key v v' => Setting.Regrouped spellings groups key v v' ∨
    key = .string "fields" ∧ SmartField.AllRespelled spellings v v')

/-- The spellings of the settings of forms and fields: their names, as they are and in camel case.
There is one setting that is spelled otherwise. -/
def SmartForm.spellings (s : Setting) : List String :=
  if s.name = "auto_fill" then ["auto_fill", "autofill"] else s.camelKeys

/-! ## Lookups -/

namespace Value

theorem Under.asMap? {R : Mapping → Mapping → Prop} {v v' : Value} (h : Under R v v') :
    ∃ m m', v.asMap? = some m ∧ v'.asMap? = some m' ∧ R m m' := by
  induction h with
  | map h => exact ⟨_, _, rfl, rfl, h⟩
  | tagged tag _ ih => exact ih

namespace Mapping

theorem isOneOf_iff {names : List String} {key : Value} :
    isOneOf names key = true ↔ ∃ name ∈ names, key = .string name := by
  simp only [isOneOf, List.any_eq_true, isKey_iff]

theorem isKey_eq_false_of_isOneOf {names : List String} {k : Value} (h : isOneOf names k = false)
    {key : String} (hkey : key ∈ names) : isKey key k = false := by
  rw [isKey_eq_false_iff]
  rintro rfl
  exact Bool.false_ne_true (h.symm.trans (isOneOf_iff.mpr ⟨key, hkey, rfl⟩))

/-- Entries that agree on a key and on what is under it find the same. -/
theorem get?_congr {m m' : Mapping} {key : String}
    (h : List.Forall₂ (fun e e' => e.2 = e'.2 ∧ isKey key e.1 = isKey key e'.1) m m') :
    get? m key = get? m' key := by
  induction h with
  | nil => rfl
  | cons he _ ih => rw [get?_cons, get?_cons, he.1, he.2, ih]

/-- A key finds what it found, or another value as said for it. -/
theorem get?_of_revalued {R : Value → Value → Value → Prop} {m m' : Mapping}
    (h : List.Forall₂ (Revalued R) m m') (key : String) :
    get? m key = get? m' key ∨
      ∃ v v', get? m key = some v ∧ get? m' key = some v' ∧ R (.string key) v v' := by
  induction h with
  | nil => exact .inl rfl
  | @cons e e' m m' he _ ih =>
    cases he with
    | same =>
      by_cases hk : isKey key e.1 = true
      · exact .inl (by rw [get?_cons, get?_cons, if_pos hk, if_pos hk])
      · rwa [get?_cons, get?_cons, if_neg hk, if_neg hk]
    | @other k v v' hv =>
      by_cases hk : isKey key k = true
      · rw [get?_cons, get?_cons, if_pos hk, if_pos hk]
        exact .inr ⟨v, v', rfl, rfl, isKey_iff.mp hk ▸ hv⟩
      · rwa [get?_cons, get?_cons, if_neg hk, if_neg hk]

theorem get?_eq_of_revalued {R : Value → Value → Value → Prop} {m m' : Mapping}
    (h : List.Forall₂ (Revalued R) m m') {key : String} (hkey : ∀ v v', ¬ R (.string key) v v') :
    get? m key = get? m' key :=
  (get?_of_revalued h key).resolve_right fun ⟨v, v', _, _, hv⟩ => hkey v v' hv

theorem get?_filter {p : Value × Value → Bool} {key : String}
    (h : ∀ e : Value × Value, isKey key e.1 = true → p e = true) (m : Mapping) :
    get? (m.filter p) key = get? m key := by
  have hboth : (fun e : Value × Value => decide (p e = true ∧ isKey key e.1 = true)) =
      fun e => isKey key e.1 := by
    funext e
    by_cases hk : isKey key e.1 = true
    · simp [hk, h e hk]
    · simp [hk]
  rw [get?, get?, List.find?_filter, hboth]

end Mapping

end Value

namespace Setting

/-- No key is looked for by two of the settings. -/
def Apart (ss : List Setting) : Prop :=
  ss.Pairwise fun s t => ∀ key ∈ s.keys, key ∉ t.keys

instance (ss : List Setting) : Decidable (Apart ss) :=
  inferInstanceAs (Decidable (ss.Pairwise fun s t => ∀ key ∈ s.keys, key ∉ t.keys))

theorem Apart.isOneOf_eq_false {ss : List Setting} (hss : Apart ss) {s t : Setting} (hs : s ∈ ss)
    (ht : t ∈ ss) (hne : s ≠ t) {k : Value} (hk : Mapping.isOneOf s.keys k = true) :
    Mapping.isOneOf t.keys k = false := by
  have hsymm : Std.Symm fun s t : Setting => ∀ key ∈ s.keys, key ∉ t.keys :=
    ⟨fun _ _ h key hkey hkey' => h key hkey' hkey⟩
  obtain ⟨key, hkey, rfl⟩ := Mapping.isOneOf_iff.mp hk
  rw [← Bool.not_eq_true, Mapping.isOneOf_iff]
  rintro ⟨key', hkey', heq⟩
  obtain rfl := Value.string.inj heq
  exact List.Pairwise.forall hss hs ht hne key hkey hkey'

theorem find?_congr {s : Setting} {m m' : Mapping}
    (h : ∀ key ∈ s.keys, m.get? key = m'.get? key) : s.find? m = s.find? m' := by
  have hname : m.get? s.name = m'.get? s.name := h _ List.mem_cons_self
  rcases hs : s.spelling with _ | other
  · simp only [find?, hs, hname]
  · have hother : m.get? other = m'.get? other := h _ (by simp [keys, hs])
    simp only [find?, hs, hname, hother]

/-- What a setting finds is among the entries that spell it. -/
theorem find?_filter (s : Setting) (m : Mapping) :
    s.find? (m.filter fun e => Mapping.isOneOf s.keys e.1) = s.find? m :=
  find?_congr fun key hkey => Mapping.get?_filter (fun _ he =>
    Mapping.isOneOf_iff.mpr ⟨key, hkey, Mapping.isKey_iff.mp he⟩) m

theorem find?_singleton {s : Setting} {e : Value × Value}
    (h : Mapping.isOneOf s.keys e.1 = true) : s.find? [e] = some e.2 := by
  have hnil : ∀ key, Mapping.get? [] key = none := fun _ => rfl
  rcases hs : s.spelling with _ | other
  · simp only [Mapping.isOneOf, keys, hs, Option.toList_none, List.any_cons, List.any_nil,
      Bool.or_false] at h
    simp only [find?, hs, Mapping.get?_cons, h, if_true]
  · simp only [Mapping.isOneOf, keys, hs, Option.toList_some, List.any_cons, List.any_nil,
      Bool.or_false, Bool.or_eq_true] at h
    simp only [find?, hs, Mapping.get?_cons, hnil]
    by_cases hother : Mapping.isKey other e.1 = true
    · rw [if_pos hother]
      rfl
    · rw [if_neg hother, if_pos (h.resolve_right hother)]
      rfl

/-- A setting that is there once finds what is under it, under whichever of its keys. -/
theorem find?_of_once {s : Setting} {m m' : Mapping}
    (honce : m.countP (fun e => Mapping.isOneOf s.keys e.1) = 1)
    (h : List.Forall₂ (fun e e' => e.2 = e'.2 ∧
      Mapping.isOneOf s.keys e.1 = Mapping.isOneOf s.keys e'.1) m m') : s.find? m = s.find? m' := by
  obtain ⟨e, he⟩ : ∃ e, (m.filter fun e => Mapping.isOneOf s.keys e.1) = [e] := by
    rwa [List.countP_eq_length_filter, List.length_eq_one_iff] at honce
  have hspelled : Mapping.isOneOf s.keys e.1 = true := by
    have hmem : e ∈ m.filter fun e => Mapping.isOneOf s.keys e.1 := he ▸ List.mem_singleton_self e
    exact (List.mem_filter.mp hmem).2
  have hspells : Relator.LiftFun
      (fun e e' : Value × Value => e.2 = e'.2 ∧
        Mapping.isOneOf s.keys e.1 = Mapping.isOneOf s.keys e'.1) (· ↔ ·)
      (fun e => Mapping.isOneOf s.keys e.1 = true) (fun e => Mapping.isOneOf s.keys e.1 = true) :=
    fun e e' hee => iff_of_eq (congrArg (· = true) hee.2)
  have hfilter := List.rel_filter hspells h
  rw [he] at hfilter
  obtain ⟨e', l, ⟨hvalue, hkey⟩, hnil, he'⟩ := List.forall₂_cons_left_iff.mp hfilter
  obtain rfl := List.forall₂_nil_left_iff.mp hnil
  calc
    s.find? m = s.find? [e] := by rw [← he, find?_filter]
    _ = some e'.2 := by rw [find?_singleton hspelled, hvalue]
    _ = s.find? [e'] := (find?_singleton (hkey ▸ hspelled)).symm
    _ = s.find? m' := by rw [← he', find?_filter]

/-- A setting finds the same however settings are spelled. If it is spelled otherwise itself, it is
there only once; if it is not, no other setting takes or leaves one of its keys. -/
theorem find?_of_respelled {spellings : Setting → List String} {ss : List Setting}
    (hspellings : ∀ s ∈ ss, spellings s = s.keys) (hss : Apart ss) {s : Setting} (hs : s ∈ ss)
    {m m' : Mapping} (h : List.Forall₂ (Respelled spellings ss m) m m') :
    s.find? m = s.find? m' := by
  by_cases honce : m.countP (fun e => Mapping.isOneOf s.keys e.1) = 1
  · refine find?_of_once honce (h.imp fun e e' he => ?_)
    cases he with
    | same => exact ⟨rfl, rfl⟩
    | @other t ht k k' hk hk' _ v =>
      rw [hspellings t ht] at hk hk'
      refine ⟨rfl, ?_⟩
      by_cases hts : t = s
      · subst hts
        rw [hk, hk']
      · rw [hss.isOneOf_eq_false ht hs hts hk, hss.isOneOf_eq_false ht hs hts hk']
  · refine find?_congr fun key hkey => Mapping.get?_congr (h.imp fun e e' he => ?_)
    cases he with
    | same => exact ⟨rfl, rfl⟩
    | @other t ht k k' hk hk' hone v =>
      rw [hspellings t ht] at hk hk' hone
      have hne : t ≠ s := fun heq => honce (heq ▸ hone)
      refine ⟨rfl, ?_⟩
      rw [Mapping.isKey_eq_false_of_isOneOf (hss.isOneOf_eq_false ht hs hne hk) hkey,
        Mapping.isKey_eq_false_of_isOneOf (hss.isOneOf_eq_false ht hs hne hk') hkey]

theorem read_congr {s : Setting} {m m' : Mapping} (h : s.find? m = s.find? m') :
    s.read m = s.read m' := by
  rcases hr : s.reading with default | default | default <;> simp only [read, hr, h]

theorem readAll_eq_iff {ss : List Setting} {m m' : Mapping} :
    readAll ss m = readAll ss m' ↔ ∀ s ∈ ss, s.read m = s.read m' := by
  simp [readAll, List.map_inj_left]

theorem readAll_of_respelled {spellings : Setting → List String} {ss : List Setting}
    (hspellings : ∀ s ∈ ss, spellings s = s.keys) (hss : Apart ss) {m m' : Mapping}
    (h : List.Forall₂ (Respelled spellings ss m) m m') : readAll ss m = readAll ss m' :=
  readAll_eq_iff.mpr fun _ hs => read_congr (find?_of_respelled hspellings hss hs h)

end Setting

/-! ## Fields and forms -/

namespace Setting

theorem not_regrouped {spellings : Setting → List String} {groups : List (String × List Setting)}
    {key : String} (hkey : key ∉ groups.map Prod.fst) (v v' : Value) :
    ¬ Regrouped spellings groups (.string key) v v' := by
  rintro ⟨g, hg, hname, -⟩
  exact hkey (List.mem_map.mpr ⟨g, hg, (Value.string.inj hname).symm⟩)

/-- A group is read alike however its settings are spelled. -/
theorem readAll_group_of_revalued {R : Value → Value → Value → Prop} {m m' : Mapping}
    (h : List.Forall₂ (Mapping.Revalued R) m m') {groups : List (String × List Setting)}
    (hnames : (groups.map Prod.fst).Nodup) {g : String × List Setting} (hg : g ∈ groups)
    {spellings : Setting → List String} (hspellings : ∀ s ∈ g.2, spellings s = s.keys)
    (hapart : Apart g.2)
    (hR : ∀ v v', R (.string g.1) v v' → Regrouped spellings groups (.string g.1) v v') :
    readAll g.2 (SmartField.group m g.1) = readAll g.2 (SmartField.group m' g.1) := by
  obtain hsame | ⟨v, v', hv, hv', hrel⟩ := Mapping.get?_of_revalued h g.1
  · rw [SmartField.group, SmartField.group, hsame]
  · obtain ⟨g', hg', hname, hunder⟩ := hR v v' hrel
    obtain rfl : g = g' := List.inj_on_of_nodup_map hnames hg hg' (Value.string.inj hname)
    obtain ⟨b, b', hb, hb', hrespelled⟩ := Under.asMap? hunder
    simp only [SmartField.group, hv, hv', Option.bind_some, hb, hb', Option.getD_some]
    exact readAll_of_respelled hspellings hapart hrespelled

end Setting

/-- Settings of forms and fields are looked for under their spellings. -/
theorem SmartForm.spellings_eq_keys {g : String × List Setting}
    (hg : g ∈ SmartForm.groups ++ SmartField.groups) :
    ∀ s ∈ g.2, SmartForm.spellings s = s.keys := by
  revert g
  decide

namespace SmartField

theorem ofConfig_of_respelled (name : String) {config config' : Mapping}
    (h : Respelled SmartForm.spellings config config') :
    ofConfig name config = ofConfig name config' := by
  have hnames : (groups.map Prod.fst).Nodup := by decide
  have hapart : ∀ g ∈ groups, Setting.Apart g.2 := by decide
  have hsame : ∀ key ∉ groups.map Prod.fst, config.get? key = config'.get? key :=
    fun _ hkey => Mapping.get?_eq_of_revalued h (Setting.not_regrouped hkey)
  have hgroup : ∀ g ∈ groups, Setting.readAll g.2 (group config g.1) =
      Setting.readAll g.2 (group config' g.1) := fun g hg =>
    Setting.readAll_group_of_revalued h hnames hg
      (SmartForm.spellings_eq_keys (List.mem_append_right _ hg)) (hapart g hg) fun _ _ hv => hv
  exact ofConfig_congr (hsame _ (by decide)) (hsame _ (by decide)) (hsame _ (by decide))
    (hgroup ("ux", uxSettings) (by simp [groups]))
    (hgroup ("security", securitySettings) (by simp [groups]))

theorem ofEntry?_of_respelled (key : Value) {v v' : Value}
    (h : Under (Respelled SmartForm.spellings) v v') : ofEntry? (key, v) = ofEntry? (key, v') := by
  rcases hname : key.scalarText? with _ | name
  · simp only [ ofEntry?, hname]
    rfl
  · cases h with
    | map h =>
      simp only [ ofEntry?, hname, Option.bind_eq_bind, Option.bind_some,
        ofConfig_of_respelled name h]
    | tagged tag h => simp only [ ofEntry?, hname]

theorem ofItem?_of_respelled {v v' : Value} (h : Under (Respelled SmartForm.spellings) v v') :
    ofItem? v = ofItem? v' := by
  obtain ⟨config, config', hv, hv', hconfig⟩ := Under.asMap? h
  have hname : config.get? "name" = config'.get? "name" :=
    Mapping.get?_eq_of_revalued hconfig (Setting.not_regrouped (by decide))
  simp only [ofItem?, hv, hv', hname, Option.bind_eq_bind, Option.bind_some,
    ofConfig_of_respelled _ hconfig]

theorem readAll_of_respelled {v v' : Value} (h : AllRespelled SmartForm.spellings v v') :
    readAll (some v) = readAll (some v') := by
  cases h with
  | given h =>
    refine filterMap_of_forall₂ h fun e _ e' he => ?_
    cases he with
    | same => rfl
    | other hunder => exact ofEntry?_of_respelled _ hunder
  | listed h =>
    refine filterMap_of_forall₂ h fun v _ v' hv => ?_
    rcases hv with rfl | hunder
    · rfl
    · exact ofItem?_of_respelled hunder

end SmartField

namespace SmartForm

theorem read_of_respelled {config config' : Mapping}
    (h : Respelled SmartForm.spellings config config') : read config = read config' := by
  have hnames : (groups.map Prod.fst).Nodup := by decide
  have hapart : ∀ g ∈ groups, Setting.Apart g.2 := by decide
  have hfields : "fields" ∉ groups.map Prod.fst := by decide
  have hsame : ∀ key ∉ groups.map Prod.fst, key ≠ "fields" →
      config.get? key = config'.get? key := fun key hkey hne =>
    Mapping.get?_eq_of_revalued h fun v v' hv => hv.elim (Setting.not_regrouped hkey v v')
      fun hf => hne (Value.string.inj hf.1)
  have hgroup : ∀ g ∈ groups, Setting.readAll g.2 (SmartField.group config g.1) =
      Setting.readAll g.2 (SmartField.group config' g.1) := fun g hg =>
    Setting.readAll_group_of_revalued h hnames hg
      (spellings_eq_keys (List.mem_append_left _ hg)) (hapart g hg) fun _ _ hv =>
        hv.resolve_right fun hf => hfields (Value.string.inj hf.1 ▸ List.mem_map_of_mem hg)
  have hread : SmartField.readAll (config.get? "fields") =
      SmartField.readAll (config'.get? "fields") := by
    obtain heq | ⟨v, v', hv, hv', hrel⟩ := Mapping.get?_of_revalued h "fields"
    · rw [heq]
    · rw [hv, hv']
      exact SmartField.readAll_of_respelled
        (hrel.resolve_left (Setting.not_regrouped hfields v v')).2
  simp only [read, Mapping.textOr, hsame "name" (by decide) (by decide),
    hsame "method" (by decide) (by decide), hsame "endpoint" (by decide) (by decide), hread,
    hgroup ("smart_features", smartSettings) (by simp [groups]),
    hgroup ("ux_features", uxSettings) (by simp [groups]),
    hgroup ("security_features", securitySettings) (by simp [groups])]

end SmartForm

/-! ## The setting without a spelling in camel case -/

namespace SmartField

/-- The setting whose second spelling is not its name in camel case. -/
def autoFill : Setting :=
  { name := "auto_fill", reading := .flag false, spelling := some "autofill" }

theorem ofConfig_put_ux (name : String) (config m m' : Mapping) :
    ofConfig name (config.put "ux" (.map m)) = ofConfig name (config.put "ux" (.map m')) ↔
      Setting.readAll uxSettings m = Setting.readAll uxSettings m' := by
  have hgroup : ∀ b : Mapping, group (config.put "ux" (.map b)) "ux" = b := fun b => by
    rw [group, Mapping.get?_put_self]
    rfl
  have hget : ∀ key, key ≠ "ux" → Mapping.get? (config.put "ux" (.map m)) key =
      Mapping.get? (config.put "ux" (.map m')) key := fun key hkey => by
    rw [Mapping.get?_put, Mapping.get?_put, if_neg hkey, if_neg hkey]
  refine ⟨fun h => ?_, fun h => ?_⟩
  · have hux := congrArg SmartField.ux h
    simpa only [ofConfig, hgroup] using hux
  · refine ofConfig_congr (hget _ (by decide)) (hget _ (by decide)) (hget _ (by decide)) ?_ ?_
    · rwa [hgroup, hgroup]
    · rw [group, group, hget _ (by decide)]

/-- The name in camel case leaves out what the name says, unless that is the default or the second
spelling is there as well. -/
theorem readAll_uxSettings_autoFill {before after : Mapping} {v : Value}
    (hother : Mapping.get? (before ++ after) "auto_fill" = none) :
    Setting.readAll uxSettings (before ++ (.string "auto_fill", v) :: after) =
        Setting.readAll uxSettings (before ++ (.string "autoFill", v) :: after) ↔
      v.asBool? ≠ some true ∨ Mapping.get? (before ++ after) "autofill" ≠ none := by
  have hapart : ∀ s ∈ uxSettings, s ≠ autoFill →
      ∀ key ∈ s.keys, "auto_fill" ≠ key ∧ "autoFill" ≠ key := by decide
  have hrest : ∀ k key, k ≠ key → Mapping.get? (before ++ (.string k, v) :: after) key =
      Mapping.get? (before ++ after) key := fun k key hne =>
    Mapping.get?_insert (fun h => hne (Value.string.inj h)) before after v
  have hothers : ∀ s ∈ uxSettings, s ≠ autoFill →
      s.read (before ++ (.string "auto_fill", v) :: after) =
        s.read (before ++ (.string "autoFill", v) :: after) := fun s hs hne =>
    Setting.read_congr (Setting.find?_congr fun key hkey => by
      rw [hrest _ _ (hapart s hs hne key hkey).1, hrest _ _ (hapart s hs hne key hkey).2])
  have hread : ∀ m : Mapping, autoFill.read m =
      .bool ((((m.get? "autofill").or (m.get? "auto_fill")).bind asBool?).getD false) :=
    fun _ => rfl
  have hname : autoFill.read (before ++ (.string "auto_fill", v) :: after) =
      .bool ((((Mapping.get? (before ++ after) "autofill").or (some v)).bind asBool?).getD false) := by
    rw [hread, hrest _ _ (by decide), Mapping.get?_insert_self hother v]
  have hcamel : autoFill.read (before ++ (.string "autoFill", v) :: after) =
      .bool (((Mapping.get? (before ++ after) "autofill").bind asBool?).getD false) := by
    rw [hread, hrest _ _ (by decide), hrest _ _ (by decide), hother, Option.or_none]
  rw [Setting.readAll_eq_iff]
  calc
    _ ↔ autoFill.read (before ++ (.string "auto_fill", v) :: after) =
        autoFill.read (before ++ (.string "autoFill", v) :: after) := by
      refine ⟨fun h => h autoFill (by decide), fun h s hs => ?_⟩
      by_cases hs' : s = autoFill
      · rwa [hs']
      · exact hothers s hs hs'
    _ ↔ _ := by
      rw [hname, hcamel]
      rcases Mapping.get? (before ++ after) "autofill" with _ | w
      · rw [Option.none_or, Option.bind_some, Option.bind_none]
        rcases v.asBool? with _ | _ | _ <;> simp
      · simp

end SmartField

/-- A form is the same however its settings and those of its fields are spelled, each of them being
there once in its mapping. What a field says of `auto_fill` under the name in camel case is left out,
which makes a difference to the field exactly if it sets the flag and the setting is not there under
its second spelling as well. -/
theorem forms_of_respelled (config config' : Mapping) :
    (SmartForm.Respelled SmartForm.spellings config config' →
        SmartForm.read config = SmartForm.read config') ∧
      ∀ (name : String) (field before after : Mapping) (v : Value),
        Mapping.get? (before ++ after) "auto_fill" = none →
        let spelled (key : String) := SmartField.ofConfig name
          (field.put "ux" (.map (before ++ (.string key, v) :: after)))
        spelled "auto_fill" = spelled "autoFill" ↔
          v.asBool? ≠ some true ∨ Mapping.get? (before ++ after) "autofill" ≠ none := by
  refine ⟨SmartForm.read_of_respelled, fun name field before after v hother => ?_⟩
  intro spelled
  rw [SmartField.ofConfig_put_ux, SmartField.readAll_uxSettings_autoFill hother]

/-- A form that holds no setting twice, one of its fields listed and tagged, and the same with the
settings spelled otherwise. -/
theorem forms_of_darkMode :
    let field (focus : String) : Value :=
      .tagged "!pin" (.map [(.string "name", .string "pin"),
        (.string "ux", .map [(.string focus, .bool true), (.string "hint", .string "four digits")])])
    let config (mode tokens focus : String) : Mapping :=
      [(.string "ux_features", .map [(.string mode, .string "dark")]),
        (.string "fields", .list [field focus]),
        (.string "security_features", .map [(.string tokens, .bool false)])]
    let form := SmartForm.read (config "dark_mode" "csrf_protection" "auto_focus")
    form = SmartForm.read (config "darkMode" "csrfProtection" "autoFocus") ∧
      form.uxFeatures.find? (fun e => e.1 == "dark_mode") = some ("dark_mode", .string "dark") ∧
      form.fields.map (fun f => f.name) = ["pin"] := by
  intro field config form
  have hmode : Setting.Regrouped SmartForm.spellings SmartForm.groups (.string "ux_features")
      (.map [(.string "dark_mode", .string "dark")]) (.map [(.string "darkMode", .string "dark")]) :=
    ⟨("ux_features", SmartForm.uxSettings), by decide, rfl, .map <| .cons (.other
      (s := Setting.feature "darkMode" "dark_mode" (.text "auto")) (by decide) (by decide) (by decide)
      (by decide) _) .nil⟩
  have htokens : Setting.Regrouped SmartForm.spellings SmartForm.groups (.string "security_features")
      (.map [(.string "csrf_protection", .bool false)])
      (.map [(.string "csrfProtection", .bool false)]) :=
    ⟨("security_features", SmartForm.securitySettings), by decide, rfl, .map <| .cons (.other
      (s := Setting.feature "csrfProtection" "csrf_protection" (.flag true)) (by decide) (by decide) (by decide)
      (by decide) _) .nil⟩
  have hfocus : Setting.Regrouped SmartForm.spellings SmartField.groups (.string "ux")
      (.map [(.string "auto_focus", .bool true), (.string "hint", .string "four digits")])
      (.map [(.string "autoFocus", .bool true), (.string "hint", .string "four digits")]) :=
    ⟨("ux", SmartField.uxSettings), by decide, rfl, .map <| .cons (.other
      (s := Setting.feature "autoFocus" "auto_focus" (.flag false)) (by decide) (by decide) (by decide)
      (by decide) _) (.cons (.same _) .nil)⟩
  have hfields : SmartField.AllRespelled SmartForm.spellings (.list [field "auto_focus"])
      (.list [field "autoFocus"]) :=
    .listed <| .cons (.inr <| .tagged _ <| .map <| .cons (.same _) <| .cons (.other hfocus) .nil) .nil
  have hform : SmartForm.Respelled SmartForm.spellings
      (config "dark_mode" "csrf_protection" "auto_focus")
      (config "darkMode" "csrfProtection" "autoFocus") :=
    .cons (.other (.inl hmode)) <| .cons (.other (.inr ⟨rfl, hfields⟩)) <|
      .cons (.other (.inl htokens)) .nil
  exact ⟨(forms_of_respelled _ _).1 hform, by decide, by decide⟩

/-- A flag that is set under its name in camel case is lost, though the mapping holds nothing else. -/
theorem forms_of_camelCase_autoFill :
    let config (key : String) : Mapping :=
      [(.string "fields", .map [(.string "card",
        .map [(.string "ux", .map [(.string key, .bool true)])])])]
    Setting.camelCase "auto_fill" = "autoFill" ∧
      SmartForm.Respelled Setting.camelKeys (config "auto_fill") (config "autoFill") ∧
      SmartForm.read (config "auto_fill") ≠ SmartForm.read (config "autoFill") := by
  intro config
  have hux : Setting.Regrouped Setting.camelKeys SmartField.groups (.string "ux")
      (.map [(.string "auto_fill", .bool true)]) (.map [(.string "autoFill", .bool true)]) :=
    ⟨("ux", SmartField.uxSettings), by decide, rfl, .map <| .cons (.other
      (s := SmartField.autoFill) (by decide) (by decide) (by decide) (by decide) _) .nil⟩
  have hfields : SmartField.AllRespelled Setting.camelKeys
      (.map [(.string "card", .map [(.string "ux", .map [(.string "auto_fill", .bool true)])])])
      (.map [(.string "card", .map [(.string "ux", .map [(.string "autoFill", .bool true)])])]) :=
    .given <| .cons (.other <| .map <| .cons (.other hux) .nil) .nil
  exact ⟨by decide, .cons (.other (.inr ⟨rfl, hfields⟩)) .nil, by decide⟩

end AppSpec
