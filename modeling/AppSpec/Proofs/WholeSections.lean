import AppSpec.Proofs.Entries
import AppSpec.Proofs.MergeStep

/-!
# Sections that are replaced whole

The integration sections, the authentication and the theme are taken from the last mapping that a
flow document holds under their key; what stood there before leaves no trace, and anything else than
a mapping is skipped (`sections_ofDocuments`). Only custom payment providers add up. One definition
keeps this (`Shows.apply`), and what is not under such a key has no part in it
(`Document.filterMap_wholeSection?`).
-/

namespace AppSpec

open Value

/-- What stands under the key of a section in a file, if it is a mapping. -/
structure SectionDeclaration where
  key : String
  body : Option Mapping
  file : String
deriving DecidableEq, Repr

namespace SectionDeclaration

/-- The keys of the sections that are replaced whole. -/
def keys : List String :=
  "authentication" :: "theme" :: SectionKind.all.map SectionKind.name

/-- The mappings under a key, in order. -/
def bodies (key : String) (D : List SectionDeclaration) : List Mapping :=
  (D.filter (·.key == key)).filterMap body

/-- The last mapping under a key. -/
def last? (key : String) (D : List SectionDeclaration) : Option Mapping :=
  (bodies key D).getLast?

/-- The notices of what is no mapping under a key. -/
def refused (key : String) (D : List SectionDeclaration) : List Notice :=
  (D.filter fun x => x.key == key && x.body.isNone).map fun x => ⟨x.file, .notAMapping key⟩

theorem bodies_concat (key : String) (D : List SectionDeclaration) (x : SectionDeclaration) :
    bodies key (D ++ [x]) = bodies key D ++ if x.key = key then x.body.toList else [] := by
  unfold bodies
  rw [List.filter_append, List.filterMap_append]
  by_cases h : x.key = key
  · rcases hx : x.body with _ | m <;> simp [h, hx]
  · simp [h]

theorem last?_concat (key : String) (D : List SectionDeclaration) (x : SectionDeclaration) :
    last? key (D ++ [x]) = if x.key = key then x.body.or (last? key D) else last? key D := by
  unfold last?
  rw [bodies_concat]
  by_cases h : x.key = key
  · rcases x.body with _ | m <;> simp [h]
  · simp [h]

theorem refused_concat (key : String) (D : List SectionDeclaration) (x : SectionDeclaration) :
    refused key (D ++ [x]) = refused key D ++
      if x.key = key ∧ x.body = none then [⟨x.file, .notAMapping key⟩] else [] := by
  unfold refused
  rw [List.filter_append, List.map_append]
  by_cases h : x.key = key
  · rcases hx : x.body with _ | m <;> simp [h, hx]
  · simp [h]

end SectionDeclaration

/-- The sections that a document declares, in authored order. -/
def Document.wholeSections (d : Document) : List (String × Option Mapping) :=
  match d.dialect with
  | .flow => d.body.filterMap fun e =>
    (e.1.asString?.filter (· ∈ SectionDeclaration.keys)).map fun key => (key, e.2.asMap?)
  | .liveflow | .jobflow | .testflow => []

def Document.sectionDeclarations (d : Document) : List SectionDeclaration :=
  d.wholeSections.map fun p => ⟨p.1, p.2, d.path⟩

theorem SectionKind.ofName?_name : ∀ kind : SectionKind, ofName? kind.name = some kind := by
  intro kind
  cases kind <;> rfl

theorem SectionKind.name_of_ofName? {key : String} {kind : SectionKind}
    (h : ofName? key = some kind) : kind.name = key := by
  simpa using List.find?_some h

theorem SectionKind.name_injective {kind kind' : SectionKind} (h : kind.name = kind'.name) :
    kind = kind' := by
  have hname := ofName?_name kind
  rw [h, ofName?_name] at hname
  exact (Option.some.inj hname).symm

theorem SectionKind.mem_all (kind : SectionKind) : kind ∈ all := by
  cases kind <;> decide

namespace SectionDeclaration

theorem name_mem_keys (kind : SectionKind) : kind.name ∈ keys :=
  List.mem_cons_of_mem _ (List.mem_cons_of_mem _ (List.mem_map_of_mem kind.mem_all))

theorem name_ne (kind : SectionKind) : kind.name ≠ "authentication" ∧ kind.name ≠ "theme" := by
  cases kind <;> decide

theorem modelKey?_of_mem_keys : ∀ key ∈ keys, Definition.modelKey? key = none := by decide

/-- A key of a section that no flow key is names an integration section. -/
theorem ofName?_of_mem_keys :
    ∀ key ∈ keys, key ∉ Definition.flowKeys → SectionKind.ofName? key ≠ none := by decide

end SectionDeclaration

namespace Definition

/-- The key of a section that a definition is about, and what it finds there. -/
def wholeSection? : Definition → Option (String × Option Mapping)
  | .authentication body => some ("authentication", some body)
  | .theme body => some ("theme", some body)
  | .integration kind body => some (kind.name, some body)
  | .skipped (.notAMapping key) =>
    if key ∈ SectionDeclaration.keys then some (key, none) else none
  | _ => none

/-- A definition under another key is about no section. -/
theorem filterMap_wholeSection?_ofMapping {key : String} (hkey : key ∉ SectionDeclaration.keys)
    (v : Value) {define : Mapping → List Definition}
    (hdef : ∀ m, ∀ x ∈ define m, x.wholeSection? = none) :
    (ofMapping key v define).filterMap wholeSection? = [] := by
  rw [List.filterMap_eq_nil_iff]
  intro x hx
  rcases mem_ofMapping hx with ⟨m, hm⟩ | rfl
  · exact hdef m x hm
  · simp [wholeSection?, hkey]

theorem filterMap_wholeSection?_entries {key : String} (hkey : key ∉ SectionDeclaration.keys)
    (c : Category) (v : Value) : (entries key c v).filterMap wholeSection? = [] := by
  refine filterMap_wholeSection?_ofMapping hkey v fun m x hx => ?_
  obtain ⟨e, -, rfl⟩ := List.mem_map.mp hx
  split <;> rfl

/-- Under the key of a section a mapping is its declaration, and anything else is skipped. -/
theorem ofFlowEntry_of_mem_keys {key : String} (hkey : key ∈ SectionDeclaration.keys)
    (body : Mapping) (v : Value) :
    ∃ define, ofFlowEntry body key v = ofMapping key v define ∧
      ∀ m, ∃ x, define m = [x] ∧ x.wholeSection? = some (key, some m) := by
  revert hkey
  refine ofFlowEntry_cases (motive := fun key l => key ∈ SectionDeclaration.keys →
    ∃ define, l = ofMapping key v define ∧
      ∀ m, ∃ x, define m = [x] ∧ x.wholeSection? = some (key, some m))
    body v ?_ ?_ ?_ ?_ ?_ ?_ ?_ ?_ ?_ ?_ ?_ key
  · exact fun h => absurd h (by decide)
  · exact fun h => absurd h (by decide)
  · exact fun h => absurd h (by decide)
  · exact fun h => absurd h (by decide)
  · exact fun _ => ⟨_, rfl, fun m => ⟨_, rfl, rfl⟩⟩
  · exact fun _ => ⟨_, rfl, fun m => ⟨_, rfl, rfl⟩⟩
  · exact fun h => absurd h (by decide)
  · exact fun h => absurd h (by decide)
  · intro key name _ hname h
    rw [SectionDeclaration.modelKey?_of_mem_keys key h] at hname
    cases hname
  · intro key kind _ _ hkind _
    refine ⟨_, rfl, fun m => ⟨_, rfl, ?_⟩⟩
    rw [wholeSection?, SectionKind.name_of_ofName? hkind]
  · intro key hflow _ hnone h
    exact absurd hnone (SectionDeclaration.ofName?_of_mem_keys key h hflow)

theorem filterMap_wholeSection?_of_not_mem_keys {key : String}
    (hkey : key ∉ SectionDeclaration.keys) (body : Mapping) (v : Value) :
    (ofFlowEntry body key v).filterMap wholeSection? = [] := by
  rw [List.filterMap_eq_nil_iff]
  intro x hx
  cases inEntry_ofFlowEntry body key v x hx with
  | authentication h => exact absurd (by rw [h]; decide) hkey
  | theme h => exact absurd (by rw [h]; decide) hkey
  | @integration kind _ hkind =>
    exact absurd (SectionKind.name_of_ofName? hkind ▸ SectionDeclaration.name_mem_keys kind) hkey
  | notAMapping => simp [wholeSection?, hkey]
  | @skipped why hwhy =>
    cases why with
    | notAMapping key' => exact absurd rfl (hwhy key')
    | _ => rfl
  | _ => rfl

/-- An entry of a flow document declares a section if its key is one. -/
theorem filterMap_wholeSection?_ofFlowEntry (body : Mapping) (key : String) (v : Value) :
    (ofFlowEntry body key v).filterMap wholeSection? =
      if key ∈ SectionDeclaration.keys then [(key, v.asMap?)] else [] := by
  split
  · rename_i hkey
    obtain ⟨define, hdefine, hx⟩ := ofFlowEntry_of_mem_keys hkey body v
    rw [hdefine]
    unfold ofMapping
    rcases v.asMap? with _ | m
    · simp [wholeSection?, hkey]
    · obtain ⟨x, hx, hsection⟩ := hx m
      simp [hx, hsection]
  · rename_i hkey
    exact filterMap_wholeSection?_of_not_mem_keys hkey body v

theorem filterMap_wholeSection?_ofFlow (body : Mapping) :
    (ofFlow body).filterMap wholeSection? = body.filterMap fun e =>
      (e.1.asString?.filter (· ∈ SectionDeclaration.keys)).map fun key => (key, e.2.asMap?) := by
  refine ofFlow_induction (motive := fun l D => D.filterMap wholeSection? = l.filterMap fun e =>
      (e.1.asString?.filter (· ∈ SectionDeclaration.keys)).map fun key => (key, e.2.asMap?))
    body rfl ?_ ?_
  · intro e l D hk ih
    rw [ih, List.filterMap_cons_none (by rw [hk]; rfl)]
  · intro e key l D hk ih
    rw [List.filterMap_append, ih, filterMap_wholeSection?_ofFlowEntry, List.filterMap_cons, hk]
    simp only [Option.filter_some, decide_eq_true_eq]
    split <;> rfl

theorem filterMap_wholeSection?_underKey {key : String} (hkey : key ∉ SectionDeclaration.keys)
    (body : Mapping) (c : Category) : (underKey body key c).filterMap wholeSection? = [] := by
  unfold underKey
  split
  · exact filterMap_wholeSection?_entries hkey _ _
  · rfl

theorem filterMap_wholeSection?_ofLiveflow (stem : String) (body : Mapping) :
    (ofLiveflow stem body).filterMap wholeSection? = [] := by
  have hsocket : (((body.get? "websocket").map fun v => .entity .websockets stem v).toList
      : List Definition).filterMap wholeSection? = [] := by
    rcases body.get? "websocket" with _ | v <;> rfl
  rw [ofLiveflow, List.filterMap_append, List.filterMap_append, hsocket,
    filterMap_wholeSection?_underKey (by decide), filterMap_wholeSection?_underKey (by decide)]
  rfl

theorem filterMap_wholeSection?_ofJobflow (body : Mapping) :
    (ofJobflow body).filterMap wholeSection? = [] := by
  rw [ofJobflow, List.filterMap_append, List.filterMap_append,
    filterMap_wholeSection?_underKey (by decide), filterMap_wholeSection?_underKey (by decide),
    filterMap_wholeSection?_underKey (by decide)]
  rfl

theorem filterMap_wholeSection?_ofTestflow (body : Mapping) :
    (ofTestflow body).filterMap wholeSection? = [] := by
  have hforms : (forms (body.get? "smart_forms")).filterMap wholeSection? = [] := by
    rw [List.filterMap_eq_nil_iff]
    intro x hx
    rcases mem_forms hx with ⟨config, rfl⟩ | rfl | rfl <;> rfl
  have htrees : (((formTrees body).flatMap (Component.found isSmartForm)).map
      Definition.form).filterMap wholeSection? = [] := by
    rw [List.filterMap_eq_nil_iff]
    intro x hx
    obtain ⟨config, -, rfl⟩ := List.mem_map.mp hx
    rfl
  rw [ofTestflow, List.filterMap_append, List.filterMap_append,
    filterMap_wholeSection?_underKey (by decide), hforms, htrees]
  rfl

end Definition

/-- What the definitions of a document say about sections is what it declares. -/
theorem Document.filterMap_wholeSection? (d : Document) :
    d.definitions.filterMap Definition.wholeSection? = d.wholeSections := by
  unfold definitions wholeSections
  rcases d.dialect with _ | _ | _ | _
  · exact Definition.filterMap_wholeSection?_ofFlow d.body
  · exact Definition.filterMap_wholeSection?_ofLiveflow d.stem d.body
  · exact Definition.filterMap_wholeSection?_ofJobflow d.body
  · exact Definition.filterMap_wholeSection?_ofTestflow d.body

namespace Merge

open SectionDeclaration

/-- The sections of a merge are what the declarations that were met so far say. -/
structure Shows (D : List SectionDeclaration) (m : Merge) : Prop where
  sections : ∀ kind, m.application.sections kind = (last? kind.name D).map (Section.read kind)
  theme : m.application.theme = (last? "theme" D).getD []
  auth : m.application.auth = (last? "authentication" D).getD []
  socialAuth : m.application.socialAuth =
    (socialLogin? m.application.auth).map (Setting.readAll SocialAuth.settings)
  socialProviders : m.application.socialProviders =
    match socialLogin? m.application.auth with
    | some login => Section.providerConfigs SocialAuth.providers login
    | none => Entries.empty
  custom : m.application.customProviders =
    (bodies "payments" D).flatMap CustomProvider.ofSection
  refused : ∀ key ∈ keys, m.notices.filter (·.why = .notAMapping key) = refused key D

theorem shows_empty : Shows [] empty where
  sections := fun _ => rfl
  theme := rfl
  auth := rfl
  socialAuth := rfl
  socialProviders := rfl
  custom := rfl
  refused := fun _ _ => rfl

/-- The parts of an application that come from whole sections. -/
def SameSections (m m' : Merge) : Prop :=
  m'.application.sections = m.application.sections ∧
    m'.application.theme = m.application.theme ∧ m'.application.auth = m.application.auth ∧
    m'.application.socialAuth = m.application.socialAuth ∧
    m'.application.socialProviders = m.application.socialProviders ∧
    m'.application.customProviders = m.application.customProviders ∧
    ∀ key ∈ keys, m'.notices.filter (·.why = .notAMapping key) =
      m.notices.filter (·.why = .notAMapping key)

theorem Shows.of_same {D : List SectionDeclaration} {m m' : Merge} (h : Shows D m)
    (hm : SameSections m m') : Shows D m' := by
  obtain ⟨hsections, htheme, hauth, hsocial, hproviders, hcustom, hnotices⟩ := hm
  refine ⟨?_, ?_, ?_, ?_, ?_, ?_, ?_⟩
  · rw [hsections]
    exact h.sections
  · rw [htheme, h.theme]
  · rw [hauth, h.auth]
  · rw [hsocial, hauth, h.socialAuth]
  · rw [hproviders, hauth, h.socialProviders]
  · rw [hcustom, h.custom]
  · intro key hkey
    rw [hnotices key hkey, h.refused key hkey]

/-- A definition that is about no section leaves all of them as they are. -/
theorem sameSections_apply (m : Merge) (file : String) {x : Definition}
    (hx : x.wholeSection? = none) : SameSections m (m.apply file x) := by
  cases x with
  | authentication body => cases hx
  | theme body => cases hx
  | integration kind body => cases hx
  | skipped why =>
    refine ⟨rfl, rfl, rfl, rfl, rfl, rfl, fun key hkey => ?_⟩
    have hwhy : why ≠ .notAMapping key := by
      rintro rfl
      simp [Definition.wholeSection?, hkey] at hx
    simp [apply, hwhy]
  | _ => exact ⟨rfl, rfl, rfl, rfl, rfl, rfl, fun _ _ => rfl⟩

theorem Shows.authentication {D : List SectionDeclaration} {m : Merge} (h : Shows D m)
    (file : String) (body : Mapping) :
    Shows (D ++ [⟨"authentication", some body, file⟩]) (m.apply file (.authentication body)) := by
  refine ⟨?_, ?_, ?_, rfl, rfl, ?_, ?_⟩
  · intro kind
    rw [last?_concat, if_neg (Ne.symm (name_ne kind).1)]
    exact h.sections kind
  · rw [last?_concat, if_neg (by simp)]
    exact h.theme
  · rw [last?_concat, if_pos rfl]
    rfl
  · rw [bodies_concat, if_neg (by simp), List.append_nil]
    exact h.custom
  · intro key hkey
    rw [refused_concat, if_neg (by simp), List.append_nil]
    exact h.refused key hkey

theorem Shows.theme_apply {D : List SectionDeclaration} {m : Merge} (h : Shows D m)
    (file : String) (body : Mapping) :
    Shows (D ++ [⟨"theme", some body, file⟩]) (m.apply file (.theme body)) := by
  refine ⟨?_, ?_, ?_, h.socialAuth, h.socialProviders, ?_, ?_⟩
  · intro kind
    rw [last?_concat, if_neg (Ne.symm (name_ne kind).2)]
    exact h.sections kind
  · rw [last?_concat, if_pos rfl]
    rfl
  · rw [last?_concat, if_neg (by simp)]
    exact h.auth
  · rw [bodies_concat, if_neg (by simp), List.append_nil]
    exact h.custom
  · intro key hkey
    rw [refused_concat, if_neg (by simp), List.append_nil]
    exact h.refused key hkey

/-- An integration section changes its own place and, for payments, adds custom providers. -/
theorem setIntegration_eq (a : Application) (kind : SectionKind) (body : Mapping) :
    setIntegration a kind body =
      { a with
        sections := fun k => if k = kind then some (Section.read kind body) else a.sections k
        customProviders := a.customProviders ++
          if kind = .payments then CustomProvider.ofSection body else [] } := by
  unfold setIntegration Application.setSection
  split
  · rfl
  · rw [List.append_nil]

theorem Shows.integration {D : List SectionDeclaration} {m : Merge} (h : Shows D m)
    (file : String) (kind : SectionKind) (body : Mapping) :
    Shows (D ++ [⟨kind.name, some body, file⟩]) (m.apply file (.integration kind body)) := by
  have happ : (m.apply file (.integration kind body)).application =
      setIntegration m.application kind body := rfl
  rw [setIntegration_eq] at happ
  have hpayments : kind.name = "payments" ↔ kind = .payments :=
    ⟨fun h : kind.name = SectionKind.payments.name => SectionKind.name_injective h,
      fun h => congrArg SectionKind.name h⟩
  refine ⟨?_, ?_, ?_, ?_, ?_, ?_, ?_⟩
  · intro k
    rw [happ, last?_concat]
    by_cases hk : k = kind
    · simp [hk]
    · have hname : kind.name ≠ k.name := fun h => hk (SectionKind.name_injective h).symm
      simp only [hk, hname, if_false]
      exact h.sections k
  · rw [last?_concat, if_neg (name_ne kind).2]
    exact happ ▸ h.theme
  · rw [last?_concat, if_neg (name_ne kind).1]
    exact happ ▸ h.auth
  · exact happ ▸ h.socialAuth
  · exact happ ▸ h.socialProviders
  · rw [happ, bodies_concat, List.flatMap_append, ← h.custom]
    simp only [hpayments]
    split <;> simp
  · intro key hkey
    rw [refused_concat, if_neg (by simp), List.append_nil]
    exact h.refused key hkey

/-- What is no mapping changes no section and is noticed. -/
theorem Shows.refuse {D : List SectionDeclaration} {m : Merge} (h : Shows D m) (file key : String) :
    Shows (D ++ [⟨key, none, file⟩]) (m.apply file (.skipped (.notAMapping key))) := by
  have hlast : ∀ k, last? k (D ++ [⟨key, none, file⟩]) = last? k D := by
    intro k
    rw [last?_concat]
    split <;> rfl
  refine ⟨?_, ?_, ?_, h.socialAuth, h.socialProviders, ?_, ?_⟩
  · intro kind
    rw [hlast]
    exact h.sections kind
  · rw [hlast]
    exact h.theme
  · rw [hlast]
    exact h.auth
  · rw [bodies_concat, Option.toList_none, ite_self, List.append_nil]
    exact h.custom
  · intro k hk
    rw [refused_concat, ← h.refused k hk]
    by_cases hkey : key = k
    · subst hkey
      simp [apply]
    · simp [apply, hkey]

/-- One definition: it is about a section, or all sections stay as they are. -/
theorem Shows.apply {D : List SectionDeclaration} {m : Merge} (h : Shows D m) (file : String)
    (x : Definition) :
    Shows (D ++ x.wholeSection?.toList.map fun p => ⟨p.1, p.2, file⟩) (m.apply file x) := by
  rcases hx : x.wholeSection? with _ | p
  · rw [Option.toList_none, List.map_nil, List.append_nil]
    exact h.of_same (sameSections_apply m file hx)
  · cases x with
    | authentication body =>
      cases hx
      exact h.authentication file body
    | theme body =>
      cases hx
      exact h.theme_apply file body
    | integration kind body =>
      cases hx
      exact h.integration file kind body
    | skipped why =>
      cases why with
      | notAMapping key =>
        rw [Definition.wholeSection?] at hx
        split at hx
        · cases hx
          exact h.refuse file key
        · cases hx
      | _ => cases hx
    | _ => cases hx

/-- The documents, one after another. -/
theorem shows_documents (ds : List Document) {D : List SectionDeclaration} {m : Merge}
    (h : Shows D m) :
    Shows (D ++ ds.flatMap Document.sectionDeclarations) (ds.foldl add m) := by
  refine foldl_extends ds (fun d _ D m h => ?_) h
  rw [Document.sectionDeclarations, ← Document.filterMap_wholeSection?,
    List.filterMap_eq_flatMap_toList, List.map_flatMap]
  exact foldl_extends d.definitions (fun x _ _ _ h => h.apply d.path x) h

end Merge

namespace Section

/-- The listed keys that a mapping has, each with what stands under it. -/
def present (allowed : List String) (m : Mapping) : List (String × Value) :=
  allowed.filterMap fun name => (m.get? name).map (name, ·)

theorem map_fst_present (m : Mapping) :
    ∀ allowed : List String, (present allowed m).map Prod.fst =
      allowed.filter fun name => (m.get? name).isSome
  | [] => rfl
  | name :: allowed => by
    have ih := map_fst_present m allowed
    unfold present at ih ⊢
    rcases h : m.get? name with _ | v
    · rw [List.filterMap_cons_none (by rw [h]; rfl), List.filter_cons_of_neg (by simp [h])]
      exact ih
    · rw [List.filterMap_cons_some (b := (name, v)) (by rw [h]; rfl),
        List.filter_cons_of_pos (by simp [h]), List.map_cons, ih]

theorem toList_providerConfigs {allowed : List String} (h : allowed.Nodup) (m : Mapping) :
    (providerConfigs allowed m).toList = present allowed m := by
  refine Entries.toList_ofList ?_
  have hkeys := h.filter fun name => (m.get? name).isSome
  rwa [← map_fst_present] at hkeys

end Section

theorem SectionKind.nodup_providers (kind : SectionKind) :
    ∀ allowed ∈ kind.providers, allowed.Nodup := by
  cases kind <;> decide

theorem CustomProvider.ofSection_eq (m : Mapping) :
    ofSection m = (m.filter fun e => isCustom e.2).filterMap fun e =>
      e.1.scalarText?.map (⟨·, e.2⟩) := by
  unfold ofSection
  rw [List.filterMap_filter]

end AppSpec
