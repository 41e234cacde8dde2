import AppSpec.Application.Basic
import AppSpec.Component
import AppSpec.Text.LetterCase

/-!
# Default pages

A model that no page shows gets four pages of its own: a list, a form to create, a form to edit and
a view. They are proposed for all such models at once and placed one after another; a proposal whose
path is taken by then is dropped.
-/

namespace AppSpec

/-- What a default page does with its model. -/
inductive PageRole where
  | list
  | create
  | edit
  | view
deriving DecidableEq, Repr, Inhabited

structure DefaultPage where
  role : PageRole
  model : String
  fields : List String
deriving DecidableEq, Repr, Inhabited

def PageRole.all : List PageRole := [.list, .create, .edit, .view]

namespace DefaultPage

/-- The field names of a model, from a mapping or a list of fields. -/
def fieldNames (model : Value) : List String :=
  match model.asMap?.bind fun m => m.get? "fields" with
  | some (.map entries) => entries.filterMap fun e => e.1.scalarText?
  | some (.list items) => items.filterMap fun
    | .map field => (Value.Mapping.get? field "name").bind Value.scalarText?
    | item => item.scalarText?
  | _ => []

def basePath (model : String) : String :=
  "/" ++ Text.lowercase model ++ "s"

def path (p : DefaultPage) : String :=
  match p.role with
  | .list => basePath p.model
  | .create => basePath p.model ++ "/create"
  | .edit => basePath p.model ++ "/\x7bid\x7d/edit"
  | .view => basePath p.model ++ "/\x7bid\x7d"

def title (p : DefaultPage) : String :=
  match p.role with
  | .list => p.model ++ " List"
  | .create => "Create " ++ p.model
  | .edit => "Edit " ++ p.model
  | .view => p.model ++ " Details"

def isId (field : String) : Bool := field == "id"

/-- How many fields other than the id a list shows. -/
def listWidth : Nat := 5

/-- The fields that a page shows: a list the id and the first few others, a form all but the id. -/
def shown (p : DefaultPage) : List String :=
  let others := p.fields.filter fun f => !isId f
  match p.role with
  | .list => (p.fields.find? isId).toList ++ others.take listWidth
  | .create | .edit => others
  | .view => p.fields

def texts (l : List String) : Value := .list (l.map .string)

/-- The component by which a page shows its model, and what else that component says. -/
def component (p : DefaultPage) : String × Record :=
  match p.role with
  | .list => ("list", [("actions", texts ["create", "edit", "delete"])])
  | .create =>
    ("form", [("submit_text", .string ("Create " ++ p.model)), ("cancel_action", .string "back")])
  | .edit =>
    ("form", [("submit_text", .string ("Update " ++ p.model)), ("cancel_action", .string "back")])
  | .view => ("card", [("actions", texts ["edit", "delete"])])

def body (p : DefaultPage) : Value :=
  Record.toValue
    ([("component", .string p.component.1), ("data_source", .string p.model),
      ("fields", texts p.shown)] ++ p.component.2)

def toValue (p : DefaultPage) : Value :=
  Record.toValue
    [("path", .string p.path), ("title", .string p.title), ("layout", .string "main"),
      ("model", .string p.model), ("body", .list [p.body])]

/-- The four pages of a model. -/
def ofModel (name : String) (model : Value) : List DefaultPage :=
  PageRole.all.map fun role => ⟨role, name, fieldNames model⟩

/-- The components that can show a model. -/
def dataComponents : List String := ["list", "form", "card"]

/-- A component that shows the model. -/
def showsModel (model : String) (c : Value.Mapping) : Bool :=
  (match Component.textAt? c "component" with
    | some kind => dataComponents.contains kind
    | none => false) && Component.textAt? c "data_source" == some model

/-- A page that names the model as its own or has a component that shows it. -/
def pageShows (model : String) (page : Value) : Bool :=
  (page.asMap?.bind fun m => Component.textAt? m "model") == some model ||
    Component.occurs (showsModel model) page

end DefaultPage

/-- What became of the proposed pages, by path. -/
structure Synthesis where
  inserted : List String := []
  kept : List String := []
deriving DecidableEq, Repr, Inhabited

namespace Application

/-- Some page shows the model. -/
def isShown (a : Application) (model : String) : Bool :=
  (a.entities .pages).toList.any fun e => DefaultPage.pageShows model e.2

/-- The default pages of all models that no page shows. -/
def proposals (a : Application) : List DefaultPage :=
  ((a.entities .models).toList.filter fun e => !a.isShown e.1).flatMap fun e =>
    DefaultPage.ofModel e.1 e.2

end Application

namespace Synthesis

def isEmpty (s : Synthesis) : Bool :=
  s.inserted.isEmpty && s.kept.isEmpty

/-- Places a page unless its path is taken. -/
def place : Application × Synthesis → DefaultPage → Application × Synthesis
  | (a, s), p =>
    if (a.entities .pages).contains p.path then (a, { s with kept := s.kept ++ [p.path] })
    else (a.put .pages p.path p.toValue, { s with inserted := s.inserted ++ [p.path] })

/-- Places the default pages of an application. -/
def run (a : Application) : Application × Synthesis :=
  a.proposals.foldl place (a, {})

end Synthesis

end AppSpec
