import AppSpec.Application.Merge

/-!
# The entries of a flow document

Which section an entry of a flow document belongs to is decided by its key alone: one of eight keys,
a key that names a model, the name of an integration section, or none of these
(`ofFlowEntry_cases`). So the key tells what an entry may define (`inEntry_ofFlowEntry`). What a flow
document says is proved entry by entry (`ofFlow_induction`).

Apart from the definitions of models, no document says anything about a model: the entities that it
defines otherwise belong to categories with a section of their own (`SparesModels`).
-/

namespace AppSpec

namespace Category

/-- The categories that are filled from a section of their own. Models are placed by what they say,
and streams are looked for in the trees of pages. -/
def keyed : List Category :=
  [.pages, .endpoints, .aiModels, .lazyImports, .websockets, .realtimeEvents, .dataStreams,
    .backgroundJobs, .jobQueues, .scheduledTasks, .testSuites]

/-- The keyed categories whose section is in flow documents. -/
def flowKeyed : List Category :=
  [.pages, .endpoints, .aiModels, .lazyImports]

theorem mem_keyed_of_mem_flowKeyed : ∀ c ∈ flowKeyed, c ∈ keyed := by decide

end Category

namespace Definition

/-- The keys that a flow document is asked for one by one. -/
def flowKeys : List String :=
  ["model", "page", "pages", "endpoint", "authentication", "theme", "ai_models", "lazy_import"]

theorem ofFlowEntry_cases {motive : String → List Definition → Prop} (body : Value.Mapping)
    (v : Value) (model : motive "model" [ofModel body v]) (page : motive "page" (page v))
    (pages : motive "pages" (streams v)) (endpoint : motive "endpoint" (endpoints v))
    (authentication : motive "authentication"
      (ofMapping "authentication" v fun m => [.authentication m]))
    (theme : motive "theme" (ofMapping "theme" v fun m => [.theme m]))
    (ai_models : motive "ai_models" (entries "ai_models" .aiModels v))
    (lazy_import : motive "lazy_import" (imports v))
    (named : ∀ key name, key ∉ flowKeys → modelKey? key = some name →
      motive key [ofModelKey key name v])
    (integration : ∀ key kind, key ∉ flowKeys → modelKey? key = none →
      SectionKind.ofName? key = some kind →
      motive key (ofMapping key v fun m => [.integration kind m]))
    (other : ∀ key, key ∉ flowKeys → modelKey? key = none → SectionKind.ofName? key = none →
      motive key []) (key : String) :
    motive key (ofFlowEntry body key v) := by
  by_cases hkey : key ∈ flowKeys
  · simp only [flowKeys, List.mem_cons, List.not_mem_nil, or_false] at hkey
    rcases hkey with rfl | rfl | rfl | rfl | rfl | rfl | rfl | rfl
    · exact model
    · exact page
    · exact pages
    · exact endpoint
    · exact authentication
    · exact theme
    · exact ai_models
    · exact lazy_import
  · have h := hkey
    simp only [flowKeys, List.mem_cons, List.not_mem_nil, or_false, not_or] at h
    obtain ⟨h1, h2, h3, h4, h5, h6, h7, h8⟩ := h
    simp only [ofFlowEntry, beq_iff_eq, h1, h2, h3, h4, h5, h6, h7, h8, if_false]
    split
    · rename_i name hname
      exact named key name hkey hname
    · rename_i hname
      split
      · rename_i kind hkind
        exact integration key kind hkey hname hkind
      · rename_i hkind
        exact other key hkey hname hkind

/-- A key that names a model is none of the keys that are asked for one by one. -/
theorem ofFlowEntry_of_modelKey? {key name : String} (hname : modelKey? key = some name)
    (body : Value.Mapping) (v : Value) : ofFlowEntry body key v = [ofModelKey key name v] := by
  have hnone : ∀ k ∈ flowKeys, modelKey? k = none := by decide
  have hkey : key ∉ flowKeys := by
    intro hmem
    rw [hnone key hmem] at hname
    cases hname
  simp only [flowKeys, List.mem_cons, List.not_mem_nil, or_false, not_or] at hkey
  simp [ofFlowEntry, hkey, hname]

/-- A flow document is read entry by entry; an entry whose key is no text says nothing. -/
theorem ofFlow_induction {motive : Value.Mapping → List Definition → Prop} (body : Value.Mapping)
    (nil : motive [] [])
    (unkeyed : ∀ e l D, e.1.asString? = none → motive l D → motive (e :: l) D)
    (keyed : ∀ e key l D, e.1.asString? = some key → motive l D →
      motive (e :: l) (ofFlowEntry body key e.2 ++ D)) :
    motive body (ofFlow body) := by
  have hentries : ∀ f : Value × Value → List Definition, (∀ e, e.1.asString? = none → f e = []) →
      (∀ e key, e.1.asString? = some key → f e = ofFlowEntry body key e.2) →
      ∀ l : Value.Mapping, motive l (l.flatMap f) := by
    intro f hnone hsome l
    induction l with
    | nil => exact nil
    | cons e l ih =>
      rw [List.flatMap_cons]
      rcases hk : e.1.asString? with _ | key
      · rw [hnone e hk]
        exact unkeyed e l _ hk ih
      · rw [hsome e key hk]
        exact keyed e key l _ hk ih
  exact hentries _ (fun e h => by simp only [h]) (fun e key h => by simp only [h]) body

/-- The definition leaves models alone: an entity it defines is none. -/
def SparesModels : Definition → Prop
  | .entity c _ _ => c ∈ Category.keyed
  | .model _ _ => False
  | _ => True

/-- The name and the body of a model. -/
def model? : Definition → Option (String × Value.Mapping)
  | .model name body => some (name, body)
  | _ => none

theorem SparesModels.model?_eq_none {x : Definition} (h : x.SparesModels) : x.model? = none := by
  cases x with
  | model name body => exact h.elim
  | _ => rfl

theorem mem_ofMapping {key : String} {v : Value} {define : Value.Mapping → List Definition}
    {x : Definition} (hx : x ∈ ofMapping key v define) :
    (∃ m, x ∈ define m) ∨ x = .skipped (.notAMapping key) := by
  unfold ofMapping at hx
  split at hx
  · exact .inl ⟨_, hx⟩
  · exact .inr (List.mem_singleton.mp hx)

theorem mem_endpoints {v : Value} {x : Definition} (hx : x ∈ endpoints v) :
    ∃ w, x = ofEndpoint w := by
  unfold endpoints at hx
  split at hx
  · obtain ⟨w, -, rfl⟩ := List.mem_map.mp hx
    exact ⟨w, rfl⟩
  · exact ⟨_, List.mem_singleton.mp hx⟩

theorem mem_forms {v : Option Value} {x : Definition} (hx : x ∈ forms v) :
    (∃ config, x = .form config) ∨ x = .skipped .badForm ∨ x = .skipped .formsNotAList := by
  unfold forms at hx
  split at hx
  · obtain ⟨w, -, rfl⟩ := List.mem_map.mp hx
    unfold ofFormItem
    split
    · exact .inl ⟨_, rfl⟩
    · exact .inr (.inl rfl)
  · exact .inl ⟨_, List.mem_singleton.mp hx⟩
  · exact .inr (.inr (List.mem_singleton.mp hx))
  · cases hx

/-- What the entry of a flow document under a key may define. -/
inductive InEntry (key : String) : Definition → Prop
  | entity {c : Category} {k : String} {v : Value}
    (hc : c ∈ Category.flowKeyed) : InEntry key (.entity c k v)
  | model {name : String} {body : Value.Mapping}
    (hkey : key = "model" ∨ (modelKey? key).isSome) : InEntry key (.model name body)
  | stream {id : Option String} {config : Value.Mapping} (hkey : key = "pages") :
    InEntry key (.stream id config)
  | authentication {body : Value.Mapping} (hkey : key = "authentication") :
    InEntry key (.authentication body)
  | theme {body : Value.Mapping} (hkey : key = "theme") : InEntry key (.theme body)
  | integration {kind : SectionKind} {body : Value.Mapping}
    (hkind : SectionKind.ofName? key = some kind) : InEntry key (.integration kind body)
  | notAMapping : InEntry key (.skipped (.notAMapping key))
  | skipped {why : Skipped} (hwhy : ∀ k, why ≠ .notAMapping k) : InEntry key (.skipped why)

theorem inEntry_ofMapping {key : String} {v : Value} {define : Value.Mapping → List Definition}
    (hdef : ∀ m, ∀ x ∈ define m, InEntry key x) : ∀ x ∈ ofMapping key v define, InEntry key x := by
  intro x hx
  rcases mem_ofMapping hx with ⟨m, hm⟩ | rfl
  · exact hdef m x hm
  · exact .notAMapping

theorem inEntry_entries {c : Category} (hc : c ∈ Category.flowKeyed) (key : String) (v : Value) :
    ∀ x ∈ entries key c v, InEntry key x := by
  refine inEntry_ofMapping fun m x hx => ?_
  obtain ⟨e, -, rfl⟩ := List.mem_map.mp hx
  split
  · exact .entity hc
  · exact .skipped (by simp)

theorem inEntry_ofModel (body : Value.Mapping) (v : Value) :
    InEntry "model" (ofModel body v) := by
  unfold ofModel
  split
  · split
    · exact .model (.inl rfl)
    · exact .skipped (by simp)
  · split
    · exact .model (.inl rfl)
    · exact .skipped (by simp)

theorem inEntry_ofModelKey {key name : String} (hname : modelKey? key = some name) (v : Value) :
    InEntry key (ofModelKey key name v) := by
  unfold ofModelKey
  split
  · split
    · exact .skipped (by simp)
    · exact .model (.inr (Option.isSome_iff_exists.mpr ⟨name, hname⟩))
  · exact .skipped (by simp)

theorem inEntry_endpoints (key : String) (v : Value) : ∀ x ∈ endpoints v, InEntry key x := by
  intro x hx
  obtain ⟨w, rfl⟩ := mem_endpoints hx
  unfold ofEndpoint
  split
  · exact .entity (by decide)
  · exact .skipped (by simp)

theorem inEntry_imports (v : Value) : ∀ x ∈ imports v, InEntry "lazy_import" x := by
  intro x hx
  unfold imports at hx
  split at hx
  · obtain ⟨w, -, rfl⟩ := List.mem_map.mp hx
    unfold ofImport
    split
    · exact .entity (by decide)
    · exact .skipped (by simp)
  · exact inEntry_entries (by decide) _ _ x hx

/-- An entry defines what its key allows. -/
theorem inEntry_ofFlowEntry (body : Value.Mapping) (key : String) (v : Value) :
    ∀ x ∈ ofFlowEntry body key v, InEntry key x := by
  have hsingle : ∀ {key : String} {x : Definition}, InEntry key x → ∀ y ∈ [x], InEntry key y := by
    intro key x hx y hy
    exact List.mem_singleton.mp hy ▸ hx
  refine ofFlowEntry_cases (motive := fun key l => ∀ x ∈ l, InEntry key x)
    body v ?_ ?_ ?_ ?_ ?_ ?_ ?_ ?_ ?_ ?_ ?_ key
  · exact hsingle (inEntry_ofModel body v)
  · exact inEntry_ofMapping fun m => hsingle (.entity (by decide))
  · refine inEntry_ofMapping fun m x hx => ?_
    obtain ⟨config, -, rfl⟩ := List.mem_map.mp hx
    exact .stream rfl
  · exact inEntry_endpoints _ v
  · exact inEntry_ofMapping fun m => hsingle (.authentication rfl)
  · exact inEntry_ofMapping fun m => hsingle (.theme rfl)
  · exact inEntry_entries (by decide) _ v
  · exact inEntry_imports v
  · exact fun key name _ hname => hsingle (inEntry_ofModelKey hname v)
  · exact fun key kind _ _ hkind => inEntry_ofMapping fun m => hsingle (.integration hkind)
  · exact fun _ _ _ _ _ hx => nomatch hx

theorem sparesModels_entries {c : Category} (hc : c ∈ Category.keyed) (key : String) (v : Value) :
    ∀ x ∈ entries key c v, x.SparesModels := by
  intro x hx
  rcases mem_ofMapping hx with ⟨m, hm⟩ | rfl
  · obtain ⟨e, -, rfl⟩ := List.mem_map.mp hm
    split
    · exact hc
    · trivial
  · trivial

/-- An entry whose key names no model leaves models alone. -/
theorem sparesModels_ofFlowEntry {key : String} (hkey : key ≠ "model") (hno : modelKey? key = none)
    (body : Value.Mapping) (v : Value) : ∀ x ∈ ofFlowEntry body key v, x.SparesModels := by
  intro x hx
  cases inEntry_ofFlowEntry body key v x hx with
  | entity hc => exact Category.mem_keyed_of_mem_flowKeyed _ hc
  | model h =>
    rw [hno] at h
    exact absurd (h.resolve_right Bool.noConfusion) hkey
  | _ => trivial

theorem sparesModels_underKey {c : Category} (hc : c ∈ Category.keyed) (body : Value.Mapping)
    (key : String) : ∀ x ∈ underKey body key c, x.SparesModels := by
  intro x hx
  unfold underKey at hx
  split at hx
  · exact sparesModels_entries hc _ _ x hx
  · cases hx

theorem sparesModels_forms (v : Option Value) : ∀ x ∈ forms v, x.SparesModels := by
  intro x hx
  rcases mem_forms hx with ⟨config, rfl⟩ | rfl | rfl <;> trivial

theorem sparesModels_of_liveflow (stem : String) (body : Value.Mapping) :
    ∀ x ∈ ofLiveflow stem body, x.SparesModels := by
  intro x hx
  rw [ofLiveflow, List.mem_append, List.mem_append] at hx
  rcases hx with (hx | hx) | hx
  · rw [Option.mem_toList, Option.map_eq_some_iff] at hx
    obtain ⟨v, -, rfl⟩ := hx
    exact (by decide : Category.websockets ∈ Category.keyed)
  · exact sparesModels_underKey (by decide) _ _ x hx
  · exact sparesModels_underKey (by decide) _ _ x hx

theorem sparesModels_of_jobflow (body : Value.Mapping) :
    ∀ x ∈ ofJobflow body, x.SparesModels := by
  intro x hx
  rw [ofJobflow, List.mem_append, List.mem_append] at hx
  rcases hx with (hx | hx) | hx <;> exact sparesModels_underKey (by decide) _ _ x hx

theorem sparesModels_of_testflow (body : Value.Mapping) :
    ∀ x ∈ ofTestflow body, x.SparesModels := by
  intro x hx
  rw [ofTestflow, List.mem_append, List.mem_append] at hx
  rcases hx with (hx | hx) | hx
  · exact sparesModels_underKey (by decide) _ _ x hx
  · exact sparesModels_forms _ x hx
  · obtain ⟨config, -, rfl⟩ := List.mem_map.mp hx
    trivial

end Definition

end AppSpec
