import AppSpec.Application.Category
import AppSpec.Component
import AppSpec.Document.Basic
import AppSpec.Section

/-!
# Definitions

What one document says, as a list: entities with their keys, models, streams, sections and forms, in
authored order, and whatever had to be skipped. Which keys a document is asked for depends on its
dialect; all other keys are passed over.
-/

namespace AppSpec

/-- Why a part of a document was skipped. -/
inductive Skipped where
  | notAMapping (key : String)
  | unnamedEntry (key : String)
  | unnamedModel
  | notAModel
  | badModelKey (key : String)
  | badEndpoint
  | unnamedImport
  | badForm
  | formsNotAList
deriving DecidableEq, Repr, Inhabited

def Skipped.text : Skipped → String
  | .notAMapping key => "'" ++ key ++ "' must be a mapping, section ignored"
  | .unnamedEntry key => "'" ++ key ++ "' has an entry without a usable name"
  | .unnamedModel => "model has no name, skipped"
  | .notAModel => "model must be a mapping or a model name"
  | .badModelKey key => "'" ++ key ++ "' must be a mapping with a model name"
  | .badEndpoint => "endpoint entries must be mappings"
  | .unnamedImport => "lazy_import entry without 'as' alias, skipped"
  | .badForm => "smart_forms entries must be mappings"
  | .formsNotAList => "'smart_forms' must be a list"

inductive Definition where
  | entity (category : Category) (key : String) (value : Value)
  | model (name : String) (body : Value.Mapping)
  | stream (id : Option String) (config : Value.Mapping)
  | authentication (body : Value.Mapping)
  | theme (body : Value.Mapping)
  | integration (kind : SectionKind) (body : Value.Mapping)
  | form (config : Value.Mapping)
  | skipped (why : Skipped)
deriving DecidableEq, Repr, Inhabited

namespace Definition

open Value

/-- What the mapping under a key defines; anything else under it is skipped. -/
def ofMapping (key : String) (v : Value) (define : Mapping → List Definition) : List Definition :=
  match v.asMap? with
  | some m => define m
  | none => [.skipped (.notAMapping key)]

/-- The entries of a mapping as entities of a category; a key has to be a scalar. -/
def entries (key : String) (category : Category) (v : Value) : List Definition :=
  ofMapping key v fun m => m.map fun e =>
    match e.1.scalarText? with
    | some name => .entity category name e.2
    | none => .skipped (.unnamedEntry key)

/-- A mapping with a name, or the name of a model that the rest of the document describes. -/
def ofModel (body : Mapping) : Value → Definition
  | .map m =>
    match (Mapping.get? m "name").bind scalarText? with
    | some name => .model name m
    | none => .skipped .unnamedModel
  | v =>
    match v.scalarText? with
    | some name => .model name (body.swapRemove "model")
    | none => .skipped .notAModel

/-- The name behind `model ` in a key. -/
def modelKey? (key : String) : Option String :=
  if "model ".toList.isPrefixOf key.toList then
    some (Text.trim (String.ofList (key.toList.drop 6)))
  else none

def ofModelKey (key name : String) (v : Value) : Definition :=
  match v.asMap? with
  | some m => if name == "" then .skipped (.badModelKey key) else .model name m
  | none => .skipped (.badModelKey key)

def ofEndpoint (v : Value) : Definition :=
  match v.asMap? with
  | some m => .entity .endpoints (m.textOr "path" "/api/unknown") v
  | none => .skipped .badEndpoint

def endpoints : Value → List Definition
  | .list items => items.map ofEndpoint
  | v => [ofEndpoint v]

def ofImport (v : Value) : Definition :=
  match (v.asMap?.bind fun m => m.get? "as").bind scalarText? with
  | some name => .entity .lazyImports name v
  | none => .skipped .unnamedImport

def imports : Value → List Definition
  | .list items => items.map ofImport
  | v => entries "lazy_import" .lazyImports v

def page (v : Value) : List Definition :=
  ofMapping "page" v fun m => [.entity .pages (m.textOr "path" "/") v]

/-- The streams in the trees of all pages. -/
def streams (v : Value) : List Definition :=
  ofMapping "pages" v fun m =>
    (m.flatMap fun e => Component.configs "webrtc_stream" e.2).map fun config =>
      .stream ((config.get? "id").bind scalarText?) config

/-- What a key of a flow document defines. -/
def ofFlowEntry (body : Mapping) (key : String) (v : Value) : List Definition :=
  if key == "model" then [ofModel body v]
  else if key == "page" then page v
  else if key == "pages" then streams v
  else if key == "endpoint" then endpoints v
  else if key == "authentication" then ofMapping key v fun m => [.authentication m]
  else if key == "theme" then ofMapping key v fun m => [.theme m]
  else if key == "ai_models" then entries key .aiModels v
  else if key == "lazy_import" then imports v
  else
    match modelKey? key with
    | some name => [ofModelKey key name v]
    | none =>
      match SectionKind.ofName? key with
      | some kind => ofMapping key v fun m => [.integration kind m]
      | none => []

def ofFlow (body : Mapping) : List Definition :=
  body.flatMap fun e =>
    match e.1.asString? with
    | some key => ofFlowEntry body key e.2
    | none => []

/-- The entries under a key of the document, if it is there. -/
def underKey (body : Mapping) (key : String) (category : Category) : List Definition :=
  match body.get? key with
  | some v => entries key category v
  | none => []

def ofLiveflow (stem : String) (body : Mapping) : List Definition :=
  ((body.get? "websocket").map fun v => .entity .websockets stem v).toList ++
    underKey body "events" .realtimeEvents ++ underKey body "streams" .dataStreams

def ofJobflow (body : Mapping) : List Definition :=
  underKey body "jobs" .backgroundJobs ++ underKey body "queues" .jobQueues ++
    underKey body "schedules" .scheduledTasks

def ofFormItem (v : Value) : Definition :=
  match v.asMap? with
  | some m => .form m
  | none => .skipped .badForm

def forms : Option Value → List Definition
  | some (.list items) => items.map ofFormItem
  | some (.map m) => [.form m]
  | some _ => [.skipped .formsNotAList]
  | none => []

/-- The component tree of a page. -/
def pageTree : Value → List Value
  | .map m => (Mapping.get? m "body").toList
  | v => [v]

/-- The trees in which a test document's forms are looked for. -/
def formTrees (body : Mapping) : List Value :=
  (match body.get? "page" with
    | some (.map m) => (Mapping.get? m "body").toList
    | some (.list items) => [.list items]
    | _ => []) ++
  (match body.get? "pages" with
    | some (.map m) => m.flatMap fun e => pageTree e.2
    | _ => [])

def isSmartForm (m : Mapping) : Bool :=
  Component.textAt? m "component" == some "smart_form"

def ofTestflow (body : Mapping) : List Definition :=
  underKey body "suites" .testSuites ++ forms (body.get? "smart_forms") ++
    ((formTrees body).flatMap (Component.found isSmartForm)).map .form

end Definition

def Document.definitions (d : Document) : List Definition :=
  match d.dialect with
  | .flow => Definition.ofFlow d.body
  | .liveflow => Definition.ofLiveflow d.stem d.body
  | .jobflow => Definition.ofJobflow d.body
  | .testflow => Definition.ofTestflow d.body

end AppSpec
