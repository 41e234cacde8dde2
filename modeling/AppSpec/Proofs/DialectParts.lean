import AppSpec.Proofs.Declared
import AppSpec.Proofs.WholeSections

/-!
# Dialects are independent

Every part of an application belongs to one dialect (`Application.SameFor`), and what a document
defines belongs to its own (`Document.belongsTo_definitions`). A definition changes no part of another
dialect (`Merge.sameFor_apply`) and looks at no such part (`Merge.Alike.apply`), so documents of
different dialects can be merged in either order. A document is asked for the keys of its dialect
alone; an entry under another key says nothing (`Document.definitions_insert`), unless the whole
document is the body of a model.
-/

namespace AppSpec

open Value

/-! ## Parts of an application -/

/-- The parts of two applications that belong to a dialect are the same. -/
structure Application.SameFor (δ : Dialect) (a b : Application) : Prop where
  entities : ∀ c, c.home.1 = δ → a.entities c = b.entities c
  auth : δ = .flow → a.auth = b.auth
  socialAuth : δ = .flow → a.socialAuth = b.socialAuth
  socialProviders : δ = .flow → a.socialProviders = b.socialProviders
  theme : δ = .flow → a.theme = b.theme
  sections : δ = .flow → a.sections = b.sections
  customProviders : δ = .flow → a.customProviders = b.customProviders
  smartForms : δ = .testflow → a.smartForms = b.smartForms

namespace Application.SameFor

variable {δ : Dialect} {a b c : Application}

theorem refl (δ : Dialect) (a : Application) : SameFor δ a a :=
  ⟨fun _ _ => rfl, fun _ => rfl, fun _ => rfl, fun _ => rfl, fun _ => rfl, fun _ => rfl,
    fun _ => rfl, fun _ => rfl⟩

theorem symm (h : SameFor δ a b) : SameFor δ b a where
  entities := fun c hc => (h.entities c hc).symm
  auth := fun hδ => (h.auth hδ).symm
  socialAuth := fun hδ => (h.socialAuth hδ).symm
  socialProviders := fun hδ => (h.socialProviders hδ).symm
  theme := fun hδ => (h.theme hδ).symm
  sections := fun hδ => (h.sections hδ).symm
  customProviders := fun hδ => (h.customProviders hδ).symm
  smartForms := fun hδ => (h.smartForms hδ).symm

theorem trans (h : SameFor δ a b) (h' : SameFor δ b c) : SameFor δ a c where
  entities := fun k hk => (h.entities k hk).trans (h'.entities k hk)
  auth := fun hδ => (h.auth hδ).trans (h'.auth hδ)
  socialAuth := fun hδ => (h.socialAuth hδ).trans (h'.socialAuth hδ)
  socialProviders := fun hδ => (h.socialProviders hδ).trans (h'.socialProviders hδ)
  theme := fun hδ => (h.theme hδ).trans (h'.theme hδ)
  sections := fun hδ => (h.sections hδ).trans (h'.sections hδ)
  customProviders := fun hδ => (h.customProviders hδ).trans (h'.customProviders hδ)
  smartForms := fun hδ => (h.smartForms hδ).trans (h'.smartForms hδ)

/-- There is no part that belongs to no dialect. -/
theorem eq (h : ∀ δ, SameFor δ a b) : a = b := by
  obtain ⟨-, hauth, hsocial, hproviders, htheme, hsections, hcustom, -⟩ := h .flow
  have hentities : a.entities = b.entities := funext fun c => (h c.home.1).entities c rfl
  rcases a with ⟨_, _, _, _, _, _, _, _⟩
  rcases b with ⟨_, _, _, _, _, _, _, _⟩
  simp only [Application.mk.injEq]
  exact ⟨hentities, hauth rfl, hsocial rfl, hproviders rfl, htheme rfl, hsections rfl, hcustom rfl,
    (h .testflow).smartForms rfl⟩

end Application.SameFor

/-! ## What belongs to a dialect -/

namespace Definition

/-- The definition is about a part of that dialect. A part that is skipped is about none. -/
def BelongsTo (δ : Dialect) : Definition → Prop
  | .entity c _ _ => c.home.1 = δ
  | .form _ => δ = .testflow
  | .skipped _ => True
  | .model _ _ | .stream _ _ | .authentication _ | .theme _ | .integration _ _ => δ = .flow

theorem belongsTo_entries {δ : Dialect} {c : Category} (hc : c.home.1 = δ) (key : String)
    (v : Value) : ∀ x ∈ entries key c v, x.BelongsTo δ := by
  intro x hx
  rcases mem_ofMapping hx with ⟨m, hm⟩ | rfl
  · obtain ⟨e, -, rfl⟩ := List.mem_map.mp hm
    split
    · exact hc
    · trivial
  · trivial

theorem belongsTo_underKey {δ : Dialect} {c : Category} (hc : c.home.1 = δ) (body : Mapping)
    (key : String) : ∀ x ∈ underKey body key c, x.BelongsTo δ := by
  intro x hx
  unfold underKey at hx
  split at hx
  · exact belongsTo_entries hc _ _ x hx
  · cases hx

theorem home_of_mem_flowKeyed : ∀ c ∈ Category.flowKeyed, c.home.1 = .flow := by decide

theorem belongsTo_ofFlowEntry (body : Mapping) (key : String) (v : Value) :
    ∀ x ∈ ofFlowEntry body key v, x.BelongsTo .flow := by
  intro x hx
  cases inEntry_ofFlowEntry body key v x hx with
  | entity hc => exact home_of_mem_flowKeyed _ hc
  | notAMapping | skipped => trivial
  | _ => rfl

theorem belongsTo_ofFlow (body : Mapping) : ∀ x ∈ ofFlow body, x.BelongsTo .flow := by
  refine ofFlow_induction (motive := fun _ D => ∀ x ∈ D, x.BelongsTo .flow) body ?_ ?_ ?_
  · exact fun x hx => nomatch hx
  · exact fun _ _ _ _ ih => ih
  · intro e key _ D _ ih x hx
    exact (List.mem_append.mp hx).elim (belongsTo_ofFlowEntry body key e.2 x) (ih x)

theorem belongsTo_ofLiveflow (stem : String) (body : Mapping) :
    ∀ x ∈ ofLiveflow stem body, x.BelongsTo .liveflow := by
  intro x hx
  rw [ofLiveflow, List.mem_append, List.mem_append] at hx
  rcases hx with (hx | hx) | hx
  · rw [Option.mem_toList, Option.map_eq_some_iff] at hx
    obtain ⟨v, -, rfl⟩ := hx
    rfl
  · exact belongsTo_underKey rfl _ _ x hx
  · exact belongsTo_underKey rfl _ _ x hx

theorem belongsTo_ofJobflow (body : Mapping) : ∀ x ∈ ofJobflow body, x.BelongsTo .jobflow := by
  intro x hx
  rw [ofJobflow, List.mem_append, List.mem_append] at hx
  rcases hx with (hx | hx) | hx <;> exact belongsTo_underKey rfl _ _ x hx

theorem belongsTo_ofTestflow (body : Mapping) : ∀ x ∈ ofTestflow body, x.BelongsTo .testflow := by
  intro x hx
  rw [ofTestflow, List.mem_append, List.mem_append] at hx
  rcases hx with (hx | hx) | hx
  · exact belongsTo_underKey rfl _ _ x hx
  · rcases mem_forms hx with ⟨config, rfl⟩ | rfl | rfl <;> trivial
  · obtain ⟨config, -, rfl⟩ := List.mem_map.mp hx
    rfl

end Definition

theorem Document.belongsTo_definitions (d : Document) :
    ∀ x ∈ d.definitions, x.BelongsTo d.dialect := by
  unfold definitions
  rcases d.dialect with _ | _ | _ | _
  · exact Definition.belongsTo_ofFlow d.body
  · exact Definition.belongsTo_ofLiveflow d.stem d.body
  · exact Definition.belongsTo_ofJobflow d.body
  · exact Definition.belongsTo_ofTestflow d.body

namespace Merge

open Application (SameFor)

/-! ## What a document changes -/

theorem home_of_mem_modelCategories : ∀ c ∈ modelCategories, c.home.1 = .flow := by decide

theorem sameFor_put {δ : Dialect} {c : Category} (hc : c.home.1 ≠ δ) (m : Merge)
    (file key : String) (v : Value) :
    SameFor δ m.application (m.put file c key v).application where
  entities := fun d hd => by
    have hne : d ≠ c := fun h => hc (h ▸ hd)
    rw [entities_put, if_neg hne]
  auth := fun _ => rfl
  socialAuth := fun _ => rfl
  socialProviders := fun _ => rfl
  theme := fun _ => rfl
  sections := fun _ => rfl
  customProviders := fun _ => rfl
  smartForms := fun _ => rfl

theorem sameFor_placeModel {δ : Dialect} (hδ : δ ≠ .flow) (m : Merge) (file name : String)
    (body : Mapping) : SameFor δ m.application (m.placeModel file name body).application where
  entities := fun d hd => by
    have hflow := home_of_mem_modelCategories
    have hmem := modelCategory_mem (namedBody name body)
    have hplaced : d ≠ modelCategory (namedBody name body) := by
      rintro rfl
      exact hδ (hd.symm.trans (hflow _ hmem))
    have hother : d ≠ otherModelCategory (modelCategory (namedBody name body)) := by
      rintro rfl
      exact hδ (hd.symm.trans (hflow _ (otherModelCategory_mem _ hmem)))
    simp only [entities_placeModel, hplaced, hother, if_false]
  auth := fun _ => rfl
  socialAuth := fun _ => rfl
  socialProviders := fun _ => rfl
  theme := fun _ => rfl
  sections := fun _ => rfl
  customProviders := fun _ => rfl
  smartForms := fun _ => rfl

/-- A definition changes no part of another dialect. -/
theorem sameFor_apply {δ ε : Dialect} (hne : δ ≠ ε) {x : Definition} (hx : x.BelongsTo ε)
    (m : Merge) (file : String) : SameFor δ m.application (m.apply file x).application := by
  cases x with
  | entity c key v => exact sameFor_put (fun h => hne (h.symm.trans hx)) m file key v
  | model name body => exact sameFor_placeModel (hx ▸ hne) m file name body
  | stream id config =>
    have hδ : δ ≠ .flow := hx ▸ hne
    exact sameFor_put (c := .webrtcStreams) (Ne.symm hδ) m file _ _
  | skipped why => exact .refl δ _
  | form config =>
    have hδ : δ ≠ .testflow := hx ▸ hne
    exact { SameFor.refl δ m.application with smartForms := fun h => absurd h hδ }
  | authentication body | theme body =>
    have hδ : δ ≠ .flow := hx ▸ hne
    exact ⟨fun _ _ => rfl, fun h => absurd h hδ, fun h => absurd h hδ, fun h => absurd h hδ,
      fun h => absurd h hδ, fun h => absurd h hδ, fun h => absurd h hδ, fun _ => rfl⟩
  | integration kind body =>
    have hδ : δ ≠ .flow := hx ▸ hne
    simp only [apply, setIntegration_eq]
    exact ⟨fun _ _ => rfl, fun h => absurd h hδ, fun h => absurd h hδ, fun h => absurd h hδ,
      fun h => absurd h hδ, fun h => absurd h hδ, fun h => absurd h hδ, fun _ => rfl⟩

theorem sameFor_step {δ : Dialect} {d : Document} (hne : δ ≠ d.dialect) (a : Application) :
    SameFor δ a (step a d).application := by
  have hrun : ∀ (xs : List Definition) (m : Merge), (∀ x ∈ xs, x.BelongsTo d.dialect) →
      SameFor δ m.application (xs.foldl (apply d.path) m).application := by
    intro xs
    induction xs with
    | nil => exact fun m _ => .refl δ _
    | cons x xs ih =>
      intro m hxs
      have hx := sameFor_apply hne (hxs x List.mem_cons_self) m d.path
      exact hx.trans (ih _ fun y hy => hxs y (List.mem_cons_of_mem x hy))
  exact hrun d.definitions { application := a } d.belongsTo_definitions

/-! ## What a document looks at -/

/-- Two merges tell the same, and the parts of a dialect are the same. -/
structure Alike (δ : Dialect) (m n : Merge) : Prop where
  application : SameFor δ m.application n.application
  conflicts : m.conflicts = n.conflicts
  notices : m.notices = n.notices

variable {δ : Dialect} {m n : Merge}

theorem Alike.put (h : Alike δ m n) {c : Category} (hc : c.home.1 = δ) (file key : String)
    (v : Value) : Alike δ (m.put file c key v) (n.put file c key v) := by
  have hentities := h.application.entities c hc
  refine ⟨{ h.application with entities := fun d hd => ?_ }, ?_, h.notices⟩
  · rw [entities_put, entities_put, hentities, h.application.entities d hd]
  · simp only [Merge.put, hentities, h.conflicts]

theorem Alike.erase (h : Alike δ m n) (c : Category) (key : String) :
    Alike δ { m with application := m.application.erase c key }
      { n with application := n.application.erase c key } := by
  refine ⟨{ h.application with entities := fun d hd => ?_ }, h.conflicts, h.notices⟩
  rw [entities_erase, entities_erase, h.application.entities d hd]
  split
  · rename_i hdc
    rw [← h.application.entities c (hdc ▸ hd)]
  · rfl

theorem Alike.placeModel (h : Alike .flow m n) (file name : String) (body : Mapping) :
    Alike .flow (m.placeModel file name body) (n.placeModel file name body) :=
  (h.erase _ name).put (home_of_mem_modelCategories _ (modelCategory_mem _)) file name _

/-- A definition does the same to merges that are alike for its dialect. -/
theorem Alike.apply (h : Alike δ m n) {x : Definition} (hx : x.BelongsTo δ) (file : String) :
    Alike δ (m.apply file x) (n.apply file x) := by
  cases x with
  | entity c key v => exact h.put hx file key v
  | model name body =>
    cases hx
    exact h.placeModel file name body
  | stream id config =>
    cases hx
    have hkey : streamKey m.application id = streamKey n.application id := by
      rw [streamKey, streamKey, h.application.entities .webrtcStreams rfl]
    simp only [Merge.apply, hkey]
    exact h.put rfl file _ _
  | skipped why =>
    refine ⟨h.application, h.conflicts, ?_⟩
    simp only [Merge.apply, h.notices]
  | form config =>
    refine ⟨{ h.application with smartForms := fun hδ => ?_ }, h.conflicts, h.notices⟩
    simp only [Merge.apply, h.application.smartForms hδ]
  | authentication body =>
    exact ⟨{ h.application with
      auth := fun _ => rfl, socialAuth := fun _ => rfl, socialProviders := fun _ => rfl },
      h.conflicts, h.notices⟩
  | theme body => exact ⟨{ h.application with theme := fun _ => rfl }, h.conflicts, h.notices⟩
  | integration kind body =>
    simp only [Merge.apply, setIntegration_eq]
    refine ⟨{ h.application with sections := fun hδ => ?_, customProviders := fun hδ => ?_ },
      h.conflicts, h.notices⟩
    · simp only [h.application.sections hδ]
    · simp only [h.application.customProviders hδ]

theorem Alike.add {d : Document} (h : Alike d.dialect m n) :
    Alike d.dialect (m.add d) (n.add d) := by
  have hrun : ∀ (xs : List Definition) {m n : Merge}, (∀ x ∈ xs, x.BelongsTo d.dialect) →
      Alike d.dialect m n →
      Alike d.dialect (xs.foldl (Merge.apply d.path) m) (xs.foldl (Merge.apply d.path) n) := by
    intro xs
    induction xs with
    | nil => exact fun _ h => h
    | cons x xs ih =>
      intro m n hxs h
      exact ih (fun y hy => hxs y (List.mem_cons_of_mem x hy))
        (h.apply (hxs x List.mem_cons_self) d.path)
  exact hrun d.definitions d.belongsTo_definitions h

/-- After a document of another dialect a document does and tells the same as before it. -/
theorem alike_step_step (a : Application) {d e : Document} (hne : d.dialect ≠ e.dialect) :
    Alike d.dialect (step (step a e).application d) (step a d) :=
  have hframe : SameFor d.dialect (step a e).application a := (sameFor_step hne a).symm
  Alike.add ⟨hframe, rfl, rfl⟩

/-- Two documents of different dialects make the same application in either order. -/
theorem application_step_comm (a : Application) {d e : Document} (hne : d.dialect ≠ e.dialect) :
    (step (step a d).application e).application = (step (step a e).application d).application := by
  refine SameFor.eq fun δ => ?_
  have hlast : SameFor d.dialect (step a d).application
      (step (step a d).application e).application := sameFor_step hne _
  by_cases hd : δ = d.dialect
  · subst hd
    exact hlast.symm.trans (alike_step_step a hne).application.symm
  · have hframe : ∀ b, SameFor δ b (step b d).application := fun b => sameFor_step hd _
    by_cases he : δ = e.dialect
    · subst he
      exact (alike_step_step a (Ne.symm hne)).application.trans (hframe _)
    · have hother : ∀ b, SameFor δ b (step b e).application := fun b => sameFor_step he _
      exact ((hframe a).trans (hother _)).symm.trans ((hother a).trans (hframe _))

end Merge

/-! ## Keys that a document is not asked for -/

namespace Dialect

/-- The top-level keys of a dialect, save those that name a model. -/
def vocabulary : Dialect → List String
  | .flow =>
    ["model", "page", "pages", "endpoint", "authentication", "theme", "ai_models", "lazy_import",
      "payments", "sms", "push_notifications", "file_storage", "email", "search", "analytics",
      "admin_panel", "i18n", "serverless", "desktop", "icons"]
  | .liveflow => ["websocket", "events", "streams"]
  | .jobflow => ["jobs", "queues", "schedules"]
  | .testflow => ["suites", "smart_forms", "page", "pages"]

/-- The key is one that documents of the dialect are asked for. In a flow document every key is looked
at, also under a tag, and `model ` may begin any of them. -/
def Asks (δ : Dialect) (key : Value) : Prop :=
  match δ with
  | .flow => ∃ s, key.asString? = some s ∧
    (s ∈ vocabulary .flow ∨ "model ".toList.isPrefixOf s.toList = true)
  | δ => ∃ s ∈ δ.vocabulary, key = .string s

end Dialect

namespace Document

/-- A flow document that is itself the body of a model, which it names by a scalar. -/
def IsModelBody (d : Document) : Prop :=
  d.dialect = .flow ∧ ∃ e ∈ d.body, e.1.asString? = some "model" ∧ e.2.scalarText?.isSome

end Document

namespace Definition

/-- Where a document is no model's body, its entries do not look at it. -/
theorem ofFlowEntry_congr {key : String} {v : Value}
    (h : key = "model" → v.scalarText? = none) (body body' : Mapping) :
    ofFlowEntry body' key v = ofFlowEntry body key v := by
  by_cases hkey : key = "model"
  · have hmodel : ofModel body' v = ofModel body v := by
      have hv := h hkey
      unfold ofModel
      split
      · rfl
      · rw [hv]
    simp only [ofFlowEntry, hmodel]
  · simp only [ofFlowEntry, beq_iff_eq, hkey, if_false]

theorem ofFlowEntry_of_not_asked {key : String} (hkey : key ∉ Dialect.vocabulary .flow)
    (hmodel : ¬ "model ".toList.isPrefixOf key.toList = true) (body : Mapping) (v : Value) :
    ofFlowEntry body key v = [] := by
  have hnames : ∀ kind : SectionKind, kind.name ∈ Dialect.vocabulary .flow := by
    intro kind
    cases kind <;> decide
  have hnone : modelKey? key = none := if_neg hmodel
  have hsection : SectionKind.ofName? key = none := by
    rcases hkind : SectionKind.ofName? key with _ | kind
    · rfl
    · exact absurd (SectionKind.name_of_ofName? hkind ▸ hnames kind) hkey
  simp only [Dialect.vocabulary, List.mem_cons, not_or] at hkey
  obtain ⟨h1, h2, h3, h4, h5, h6, h7, h8, -⟩ := hkey
  simp only [ofFlowEntry, beq_iff_eq, h1, h2, h3, h4, h5, h6, h7, h8, if_false, hnone, hsection]

/-- An entry that a flow document is not asked for says nothing, and without it the others say the
same. -/
theorem ofFlow_insert {l r : Mapping} {k : Value} (hk : ¬ Dialect.flow.Asks k)
    (hmodel : ∀ e ∈ l ++ r, e.1.asString? = some "model" → e.2.scalarText? = none) (v : Value) :
    ofFlow (l ++ (k, v) :: r) = ofFlow (l ++ r) := by
  let told (body : Mapping) (e : Value × Value) : List Definition :=
    (e.1.asString?.map fun key => ofFlowEntry body key e.2).getD []
  have hflow : ∀ body : Mapping, ofFlow body = body.flatMap (told body) := by
    refine fun body => List.flatMap_congr fun e _ => ?_
    simp only [told]
    rcases e.1.asString? with _ | key <;> rfl
  have hother : ∀ e ∈ l ++ r, told (l ++ (k, v) :: r) e = told (l ++ r) e := by
    intro e he
    simp only [told]
    rcases hkey : e.1.asString? with _ | key
    · rfl
    · exact ofFlowEntry_congr (fun h => hmodel e he (h ▸ hkey)) _ _
  have hnothing : told (l ++ (k, v) :: r) (k, v) = [] := by
    simp only [told]
    rcases hkey : k.asString? with _ | key
    · rfl
    · have hno : ¬ (key ∈ Dialect.vocabulary .flow ∨ "model ".toList.isPrefixOf key.toList = true) :=
        fun h => hk ⟨key, hkey, h⟩
      rw [not_or] at hno
      exact ofFlowEntry_of_not_asked hno.1 hno.2 _ _
  calc ofFlow (l ++ (k, v) :: r)
      = l.flatMap (told (l ++ (k, v) :: r)) ++ r.flatMap (told (l ++ (k, v) :: r)) := by
        rw [hflow, List.flatMap_append, List.flatMap_cons, hnothing, List.nil_append]
    _ = (l ++ r).flatMap (told (l ++ (k, v) :: r)) := List.flatMap_append.symm
    _ = (l ++ r).flatMap (told (l ++ r)) := List.flatMap_congr hother
    _ = ofFlow (l ++ r) := (hflow _).symm

/-- The other documents are looked up key by key. -/
theorem definitions_of_get?_eq {body body' : Mapping} {δ : Dialect} (hδ : δ ≠ .flow)
    (h : ∀ key ∈ δ.vocabulary, body'.get? key = body.get? key) (stem path : String) :
    (Document.mk δ stem path body').definitions = (Document.mk δ stem path body).definitions := by
  cases δ with
  | flow => exact absurd rfl hδ
  | liveflow =>
    have h1 := h "websocket" (by decide)
    have h2 := h "events" (by decide)
    have h3 := h "streams" (by decide)
    simp only [Document.definitions, ofLiveflow, underKey, h1, h2, h3]
  | jobflow =>
    have h1 := h "jobs" (by decide)
    have h2 := h "queues" (by decide)
    have h3 := h "schedules" (by decide)
    simp only [Document.definitions, ofJobflow, underKey, h1, h2, h3]
  | testflow =>
    have h1 := h "suites" (by decide)
    have h2 := h "smart_forms" (by decide)
    have h3 := h "page" (by decide)
    have h4 := h "pages" (by decide)
    simp only [Document.definitions, ofTestflow, formTrees, underKey, h1, h2, h3, h4]

end Definition

/-- An entry under a key that a document is not asked for defines nothing, unless the document is a
model's body. -/
theorem Document.definitions_insert {d : Document} {l r : Mapping} (hbody : d.body = l ++ r)
    {k : Value} (hk : ¬ d.dialect.Asks k) (hmodel : ¬ d.IsModelBody) (v : Value) :
    { d with body := l ++ (k, v) :: r }.definitions = d.definitions := by
  obtain ⟨δ, stem, path, body⟩ := d
  cases hbody
  by_cases hδ : δ = .flow
  · subst hδ
    refine Definition.ofFlow_insert hk (fun e he hkey => ?_) v
    rw [← Option.not_isSome_iff_eq_none]
    exact fun h => hmodel ⟨rfl, e, he, hkey, h⟩
  · refine Definition.definitions_of_get?_eq hδ (fun key hkey => ?_) stem path
    refine Mapping.get?_insert ?_ l r v
    rintro rfl
    cases δ with
    | flow => exact hδ rfl
    | _ => exact hk ⟨key, hkey, rfl⟩

open Merge in
/-- Documents of different dialects make the same application in either order, its entries in the same
order, and each of them tells the same conflicts and notices whether it comes first or second. A
document changes no part of another dialect. In a document that is no model's body, an entry under a
key that its dialect is not asked for, or under a key that is no text, makes no difference. -/
theorem step_by_dialect (a : Application) (d e : Document) :
    (d.dialect ≠ e.dialect →
        (step (step a d).application e).application = (step (step a e).application d).application ∧
        (step (step a e).application d).conflicts = (step a d).conflicts ∧
        (step (step a e).application d).notices = (step a d).notices ∧
        (step (step a d).application e).conflicts = (step a e).conflicts ∧
        (step (step a d).application e).notices = (step a e).notices) ∧
      (∀ δ, δ ≠ d.dialect → Application.SameFor δ a (step a d).application) ∧
      (∀ l r k v, d.body = l ++ r → ¬ d.dialect.Asks k → ¬ d.IsModelBody →
        step a { d with body := l ++ (k, v) :: r } = step a d) := by
  refine ⟨fun hne => ?_, fun δ hδ => sameFor_step hδ a, fun l r k v hbody hk hmodel => ?_⟩
  · have hd := alike_step_step a hne
    have he := alike_step_step a (Ne.symm hne)
    exact ⟨application_step_comm a hne, hd.conflicts, hd.notices, he.conflicts, he.notices⟩
  · rw [step, step, add, add, Document.definitions_insert hbody hk hmodel]

open Merge in
/-- Both dialects look at `page`: to a flow document it is a page, to a test document a tree of forms.
The key `jobs` belongs to neither. -/
theorem step_of_page_and_form :
    let form : Value := .map [(.string "component", .string "smart_form")]
    let page : Value := .map [(.string "path", .string "/sign-up"), (.string "body", form)]
    let d : Document := ⟨.flow, "a", "a.flow", [(.string "page", page)]⟩
    let e : Document := ⟨.testflow, "a", "a.testflow", [(.string "page", page)]⟩
    d.dialect ≠ e.dialect ∧
      (step (step {} d).application e).application = (step (step {} e).application d).application ∧
      ¬ d.dialect.Asks (.string "jobs") ∧ ¬ d.IsModelBody ∧
      step {} { d with body := d.body ++ [(.string "jobs", .null)] } = step {} d := by
  intro form page d e
  have hdialects : d.dialect ≠ e.dialect := by decide
  have hjobs : ¬ d.dialect.Asks (.string "jobs") := by
    rintro ⟨s, hs, hasked⟩
    cases hs
    revert hasked
    decide
  have hmodel : ¬ d.IsModelBody := by
    rintro ⟨-, entry, hentry, hkey, -⟩
    cases List.mem_singleton.mp hentry
    revert hkey
    decide
  have hbody : d.body = d.body ++ [] := (List.append_nil _).symm
  obtain ⟨hcomm, -, hadd⟩ := step_by_dialect {} d e
  exact ⟨hdialects, (hcomm hdialects).1, hjobs, hmodel, hadd _ _ _ .null hbody hjobs hmodel⟩

end AppSpec
