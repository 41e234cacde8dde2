import Mathlib.Data.List.Basic
import AppSpec.Proofs.FlowEntry

/-!
# What documents declare

A keyed category has one section in one dialect (`Category.home`), and every item of that section
either names an entity or is skipped (`Category.items`). What a document defines in the category is
exactly what these items say, in authored order (`filterMap_definitions`): no other part of a
document names an entity of the category or is skipped on its account.
-/

namespace AppSpec

/-- An item of a section: an entity with its key, or why it is skipped. -/
abbrev Item := Except Skipped (String × Value)

namespace Category

open Value

/-- The dialect and the key of a category's section. -/
def home : Category → Dialect × String
  | .pages => (.flow, "page")
  | .endpoints => (.flow, "endpoint")
  | .aiModels => (.flow, "ai_models")
  | .lazyImports => (.flow, "lazy_import")
  | .websockets => (.liveflow, "websocket")
  | .realtimeEvents => (.liveflow, "events")
  | .dataStreams => (.liveflow, "streams")
  | .backgroundJobs => (.jobflow, "jobs")
  | .jobQueues => (.jobflow, "queues")
  | .scheduledTasks => (.jobflow, "schedules")
  | .testSuites => (.testflow, "suites")
  | .models | .vectorDatabases => (.flow, "model")
  | .webrtcStreams => (.flow, "pages")

/-- A value with the key it is found under, skipped if it has none. -/
def item (why : Skipped) (key? : Option String) (v : Value) : Item :=
  match key? with
  | some key => .ok (key, v)
  | none => .error why

/-- The entries of the mapping under a section's key. Their own keys have to be scalars. -/
def entryItems (key : String) (v : Value) : List Item :=
  match v.asMap? with
  | some m => m.map fun e => item (.unnamedEntry key) e.1.scalarText? e.2
  | none => [.error (.notAMapping key)]

/-- The items of a category's section: pages and endpoints go by their path, listed imports by their
alias, a websocket by its file, and everything else by the key of its entry. One endpoint is a list
of one. -/
def items (c : Category) (stem : String) (v : Value) : List Item :=
  match c, v with
  | .pages, v => [item (.notAMapping "page") (v.asMap?.map (Mapping.textOr · "path" "/")) v]
  | .endpoints, .list vs => vs.map endpoint
  | .endpoints, v => [endpoint v]
  | .lazyImports, .list vs =>
    vs.map fun v =>
      item .unnamedImport ((v.asMap?.bind (Mapping.get? · "as")).bind scalarText?) v
  | .websockets, v => [.ok (stem, v)]
  | c, v => entryItems c.home.2 v
where
  endpoint (v : Value) : Item :=
    item .badEndpoint (v.asMap?.map (Mapping.textOr · "path" "/api/unknown")) v

end Category

/-- The part was skipped on the category's account. -/
def Skipped.concerns (c : Category) : Skipped → Bool
  | .notAMapping key | .unnamedEntry key => key == c.home.2
  | .badEndpoint => c = .endpoints
  | .unnamedImport => c = .lazyImports
  | .unnamedModel | .notAModel | .badModelKey _ | .badForm | .formsNotAList => false

namespace Document

/-- The values under a top-level key. A flow document is read entry by entry, so there a tag on the
key hides nothing and the key may occur again under a tag. -/
def sectionValues (d : Document) (key : String) : List Value :=
  match d.dialect with
  | .flow => (d.body.filter fun e => e.1.asString? == some key).map Prod.snd
  | .liveflow | .jobflow | .testflow => (d.body.get? key).toList

/-- The items of a keyed category in a document. -/
def items (c : Category) (d : Document) : List Item :=
  if d.dialect = c.home.1 then (d.sectionValues c.home.2).flatMap (c.items d.stem) else []

end Document

namespace Definition

/-- What a definition says about a keyed category. -/
def item? (c : Category) : Definition → Option Item
  | .entity c' key v => if c' = c then some (.ok (key, v)) else none
  | .skipped why => if why.concerns c then some (.error why) else none
  | _ => none

theorem filterMap_map_of_some {α β γ : Type*} {f : β → Option γ} {g : α → β} {h : α → γ}
    (l : List α) (hf : ∀ a, f (g a) = some (h a)) : (l.map g).filterMap f = l.map h := by
  rw [List.filterMap_map, ← List.filterMap_eq_map']
  exact List.filterMap_congr fun a _ => hf a

theorem home_key_injective :
    ∀ c ∈ Category.keyed, ∀ c' ∈ Category.keyed, c'.home.2 = c.home.2 → c' = c := by decide

theorem home_key_of_flow :
    ∀ c ∈ Category.keyed, c.home.1 = .flow →
      c.home.2 ∈ ["page", "endpoint", "ai_models", "lazy_import"] := by decide

theorem home_key_not_mem :
    ∀ c ∈ Category.keyed, c.home.2 ∉ ["model", "pages", "authentication", "theme"] ∧
      SectionKind.ofName? c.home.2 = none := by decide

theorem item?_ofModel (c : Category) (body : Value.Mapping) (v : Value) :
    item? c (ofModel body v) = none := by
  unfold ofModel
  split <;> split <;> rfl

theorem item?_ofModelKey (c : Category) (key name : String) (v : Value) :
    item? c (ofModelKey key name v) = none := by
  unfold ofModelKey
  split
  · split <;> rfl
  · rfl

/-- A section that defines something else than entities says nothing about a keyed category. -/
theorem filterMap_ofMapping {c : Category} {key : String} (hkey : key ≠ c.home.2) (v : Value)
    {define : Value.Mapping → List Definition}
    (hdef : ∀ m, ∀ x ∈ define m, item? c x = none) :
    (ofMapping key v define).filterMap (item? c) = [] := by
  rw [List.filterMap_eq_nil_iff]
  intro x hx
  rcases mem_ofMapping hx with ⟨m, hm⟩ | rfl
  · exact hdef m x hm
  · simp [item?, Skipped.concerns, hkey]

theorem filterMap_entries {c s : Category} (hc : c ∈ Category.keyed)
    (hs : s ∈ Category.keyed) {stem : String} {v : Value}
    (hv : s.items stem v = Category.entryItems s.home.2 v) :
    (entries s.home.2 s v).filterMap (item? c) = if c = s then c.items stem v else [] := by
  by_cases h : c = s
  · subst h
    rw [if_pos rfl, hv]
    unfold entries ofMapping Category.entryItems
    rcases v.asMap? with _ | m
    · simp [item?, Skipped.concerns]
    · refine filterMap_map_of_some m fun e => ?_
      rcases hk : e.1.scalarText? with _ | name <;>
        simp [Category.item, item?, Skipped.concerns]
  · have hkey : s.home.2 ≠ c.home.2 := fun hk => h (home_key_injective c hc s hs hk).symm
    rw [if_neg h]
    refine filterMap_ofMapping hkey v fun m x hx => ?_
    obtain ⟨e, -, rfl⟩ := List.mem_map.mp hx
    split <;> simp [item?, Skipped.concerns, hkey, Ne.symm h]

theorem filterMap_page {c : Category} (hc : c ∈ Category.keyed) (stem : String) (v : Value) :
    (page v).filterMap (item? c) = if c = .pages then c.items stem v else [] := by
  by_cases h : c = .pages
  · subst h
    rw [if_pos rfl]
    unfold page ofMapping
    rcases hm : v.asMap? with _ | m <;>
      simp [Category.items, Category.item, item?, Skipped.concerns, Category.home, hm]
  · rw [if_neg h]
    have hkey : "page" ≠ c.home.2 := fun hk =>
      h (home_key_injective _ (by decide) c hc hk.symm)
    refine filterMap_ofMapping hkey v fun m x hx => ?_
    rw [List.mem_singleton] at hx
    subst hx
    simp [item?, Ne.symm h]

theorem item?_ofEndpoint (c : Category) (v : Value) :
    item? c (ofEndpoint v) = if c = .endpoints then some (Category.items.endpoint v) else none := by
  unfold ofEndpoint Category.items.endpoint Category.item
  rcases v.asMap? with _ | m <;> simp [item?, Skipped.concerns, eq_comm]

theorem filterMap_endpoints {c : Category} (stem : String) (v : Value) :
    (endpoints v).filterMap (item? c) = if c = .endpoints then c.items stem v else [] := by
  by_cases h : c = .endpoints
  · subst h
    rw [if_pos rfl]
    unfold endpoints Category.items
    split
    · refine filterMap_map_of_some _ fun w => ?_
      rw [item?_ofEndpoint, if_pos rfl]
    · simp [item?_ofEndpoint]
  · rw [if_neg h, List.filterMap_eq_nil_iff]
    intro x hx
    obtain ⟨w, rfl⟩ := mem_endpoints hx
    rw [item?_ofEndpoint, if_neg h]

theorem item?_ofImport (c : Category) (v : Value) :
    item? c (ofImport v) =
      if c = .lazyImports then some (Category.item .unnamedImport
        ((v.asMap?.bind (Value.Mapping.get? · "as")).bind Value.scalarText?) v) else none := by
  unfold ofImport Category.item
  split <;> simp [item?, Skipped.concerns, eq_comm, *]

theorem filterMap_imports {c : Category} (hc : c ∈ Category.keyed) (stem : String) (v : Value) :
    (imports v).filterMap (item? c) = if c = .lazyImports then c.items stem v else [] := by
  cases v with
  | list vs =>
    by_cases h : c = .lazyImports
    · subst h
      refine filterMap_map_of_some _ fun w => ?_
      rw [item?_ofImport, if_pos rfl]
    · rw [if_neg h, List.filterMap_eq_nil_iff]
      intro x hx
      obtain ⟨w, -, rfl⟩ := List.mem_map.mp hx
      rw [item?_ofImport, if_neg h]
  | _ => exact filterMap_entries hc (s := .lazyImports) (by decide) rfl

theorem filterMap_streams {c : Category} (hc : c ∈ Category.keyed) (v : Value) :
    (streams v).filterMap (item? c) = [] := by
  refine filterMap_ofMapping ?_ v fun m x hx => ?_
  · exact fun h => (home_key_not_mem c hc).1 (h ▸ by decide)
  · obtain ⟨config, -, rfl⟩ := List.mem_map.mp hx
    rfl

theorem filterMap_ofSection {c : Category} (hc : c ∈ Category.keyed) {key : String}
    {kind : SectionKind} (hkind : SectionKind.ofName? key = some kind) (v : Value) :
    (ofMapping key v fun m => [.integration kind m]).filterMap (item? c) = [] := by
  refine filterMap_ofMapping ?_ v fun m x hx => ?_
  · rintro rfl
    rw [(home_key_not_mem c hc).2] at hkind
    cases hkind
  · rw [List.mem_singleton] at hx
    rw [hx]
    rfl

/-- Of the entries of a flow document, the ones under a category's key say what its items say, and
all others nothing. -/
theorem filterMap_ofFlowEntry {c : Category} (hc : c ∈ Category.keyed) (stem : String)
    (body : Value.Mapping) (key : String) (v : Value) :
    (ofFlowEntry body key v).filterMap (item? c) =
      if c.home = (.flow, key) then c.items stem v else [] := by
  have hhome : ∀ c' ∈ Category.keyed, (c = c' ↔ c.home = c'.home) := fun c' hc' =>
    ⟨fun h => by rw [h], fun h => home_key_injective c' hc' c hc (by rw [h])⟩
  have hno : key ∉ ["page", "endpoint", "ai_models", "lazy_import"] →
      c.home ≠ (.flow, key) := by
    intro hk h
    have := home_key_of_flow c hc (by rw [h])
    exact hk (by rwa [h] at this)
  have hskip : ∀ k ∈ ["authentication", "theme"], k ≠ c.home.2 := by
    rintro k hk rfl
    exact (home_key_not_mem c hc).1 (by simp at hk ⊢; tauto)
  have hrest : ∀ k, k ∉ flowKeys → k ∉ ["page", "endpoint", "ai_models", "lazy_import"] := by
    intro k hk h
    exact hk (by simp [flowKeys] at h ⊢; tauto)
  revert hno
  refine ofFlowEntry_cases (motive := fun key l =>
    (key ∉ ["page", "endpoint", "ai_models", "lazy_import"] → c.home ≠ (.flow, key)) →
      l.filterMap (item? c) = if c.home = (.flow, key) then c.items stem v else [])
    body v ?_ ?_ ?_ ?_ ?_ ?_ ?_ ?_ ?_ ?_ ?_ key
  · intro hno
    rw [if_neg (hno (by decide))]
    simp [item?_ofModel]
  · intro _
    exact (filterMap_page hc stem v).trans (if_congr (hhome .pages (by decide)) rfl rfl)
  · intro hno
    rw [if_neg (hno (by decide))]
    exact filterMap_streams hc v
  · intro _
    exact (filterMap_endpoints stem v).trans (if_congr (hhome .endpoints (by decide)) rfl rfl)
  · intro hno
    rw [if_neg (hno (by decide))]
    exact filterMap_ofMapping (hskip _ (by decide)) v fun m x hx => by
      rw [List.mem_singleton.mp hx]; rfl
  · intro hno
    rw [if_neg (hno (by decide))]
    exact filterMap_ofMapping (hskip _ (by decide)) v fun m x hx => by
      rw [List.mem_singleton.mp hx]; rfl
  · intro _
    exact (filterMap_entries hc (s := .aiModels) (by decide) rfl).trans
      (if_congr (hhome .aiModels (by decide)) rfl rfl)
  · intro _
    exact (filterMap_imports hc stem v).trans (if_congr (hhome .lazyImports (by decide)) rfl rfl)
  · intro key name hkey _ hno
    rw [if_neg (hno (hrest key hkey))]
    simp [item?_ofModelKey]
  · intro key kind hkey _ hkind hno
    rw [if_neg (hno (hrest key hkey))]
    exact filterMap_ofSection hc hkind v
  · intro key hkey _ _ hno
    rw [if_neg (hno (hrest key hkey))]
    rfl

theorem filterMap_ofFlow {c : Category} (hc : c ∈ Category.keyed) (stem : String)
    (body : Value.Mapping) :
    (ofFlow body).filterMap (item? c) =
      if c.home.1 = .flow then
        ((body.filter fun e => e.1.asString? == some c.home.2).map Prod.snd).flatMap (c.items stem)
      else [] := by
  refine ofFlow_induction (motive := fun l D => D.filterMap (item? c) =
      if c.home.1 = .flow then
        ((l.filter fun e => e.1.asString? == some c.home.2).map Prod.snd).flatMap (c.items stem)
      else []) body (by simp) ?_ ?_
  · intro e l D hk ih
    rw [ih, List.filter_cons_of_neg (by simp [hk])]
  · intro e key l D hk ih
    rw [List.filterMap_append, ih, filterMap_ofFlowEntry hc stem]
    by_cases hflow : c.home.1 = .flow
    · by_cases hkey : c.home.2 = key
      · rw [List.filter_cons_of_pos (by simp [hk, hkey])]
        simp [← hflow, ← hkey]
      · rw [List.filter_cons_of_neg (by simp [hk, Ne.symm hkey])]
        simp [Prod.ext_iff, hkey]
    · simp [Prod.ext_iff, hflow]

theorem filterMap_underKey {c s : Category} (hc : c ∈ Category.keyed)
    (hs : s ∈ Category.keyed) (stem : String) (body : Value.Mapping)
    (hitems : ∀ v, s.items stem v = Category.entryItems s.home.2 v) :
    (underKey body s.home.2 s).filterMap (item? c) =
      if c = s then (body.get? s.home.2).toList.flatMap (s.items stem) else [] := by
  unfold underKey
  rcases body.get? s.home.2 with _ | v
  · simp
  · refine (filterMap_entries hc hs (hitems v)).trans ?_
    split
    · rename_i h
      simp [h]
    · rfl

theorem item?_form (c : Category) {x : Definition} {v : Option Value} (hx : x ∈ forms v) :
    item? c x = none := by
  rcases mem_forms hx with ⟨config, rfl⟩ | rfl | rfl <;> rfl

theorem filterMap_ofLiveflow {c : Category} (hc : c ∈ Category.keyed) (stem : String)
    (body : Value.Mapping) :
    (ofLiveflow stem body).filterMap (item? c) =
      if c.home.1 = .liveflow then (body.get? c.home.2).toList.flatMap (c.items stem) else [] := by
  have hsocket : (((body.get? "websocket").map fun v => .entity .websockets stem v).toList
      : List Definition).filterMap (item? c) =
      if c = .websockets then (body.get? "websocket").toList.flatMap (c.items stem) else [] := by
    rcases body.get? "websocket" with _ | v
    · simp
    · by_cases h : c = .websockets
      · subst h
        simp [item?, Category.items]
      · simp [item?, h, Ne.symm h]
  have hevents := filterMap_underKey hc (s := .realtimeEvents) (by decide) stem body fun _ => rfl
  have hstreams := filterMap_underKey hc (s := .dataStreams) (by decide) stem body fun _ => rfl
  unfold ofLiveflow
  rw [List.filterMap_append, List.filterMap_append, hsocket]
  simp only [Category.home] at hevents hstreams
  rw [hevents, hstreams]
  clear hsocket hevents hstreams
  revert hc
  cases c <;> simp [Category.keyed, Category.home]

theorem filterMap_ofJobflow {c : Category} (hc : c ∈ Category.keyed) (stem : String)
    (body : Value.Mapping) :
    (ofJobflow body).filterMap (item? c) =
      if c.home.1 = .jobflow then (body.get? c.home.2).toList.flatMap (c.items stem) else [] := by
  have hjobs := filterMap_underKey hc (s := .backgroundJobs) (by decide) stem body fun _ => rfl
  have hqueues := filterMap_underKey hc (s := .jobQueues) (by decide) stem body fun _ => rfl
  have htasks := filterMap_underKey hc (s := .scheduledTasks) (by decide) stem body fun _ => rfl
  simp only [Category.home] at hjobs hqueues htasks
  unfold ofJobflow
  rw [List.filterMap_append, List.filterMap_append, hjobs, hqueues, htasks]
  clear hjobs hqueues htasks
  revert hc
  cases c <;> simp [Category.keyed, Category.home]

theorem filterMap_ofTestflow {c : Category} (hc : c ∈ Category.keyed) (stem : String)
    (body : Value.Mapping) :
    (ofTestflow body).filterMap (item? c) =
      if c.home.1 = .testflow then (body.get? c.home.2).toList.flatMap (c.items stem) else [] := by
  have hsuites := filterMap_underKey hc (s := .testSuites) (by decide) stem body fun _ => rfl
  have hforms : (forms (body.get? "smart_forms")).filterMap (item? c) = [] :=
    List.filterMap_eq_nil_iff.mpr fun x hx => item?_form c hx
  have htrees : (((formTrees body).flatMap (Component.found isSmartForm)).map
      Definition.form).filterMap (item? c) = [] := by
    rw [List.filterMap_eq_nil_iff]
    intro x hx
    obtain ⟨config, -, rfl⟩ := List.mem_map.mp hx
    rfl
  simp only [Category.home] at hsuites
  unfold ofTestflow
  rw [List.filterMap_append, List.filterMap_append, hsuites, hforms, htrees]
  clear hsuites hforms htrees
  revert hc
  cases c <;> simp [Category.keyed, Category.home]

end Definition

/-- What a document defines in a keyed category is what the items of the category's sections say. -/
theorem Document.filterMap_definitions {c : Category} (hc : c ∈ Category.keyed) (d : Document) :
    d.definitions.filterMap (Definition.item? c) = d.items c := by
  unfold definitions items sectionValues
  rcases hd : d.dialect with _ | _ | _ | _
  · simpa only [eq_comm] using Definition.filterMap_ofFlow hc d.stem d.body
  · simpa only [eq_comm] using Definition.filterMap_ofLiveflow hc d.stem d.body
  · simpa only [eq_comm] using Definition.filterMap_ofJobflow hc d.stem d.body
  · simpa only [eq_comm] using Definition.filterMap_ofTestflow hc d.stem d.body

end AppSpec
