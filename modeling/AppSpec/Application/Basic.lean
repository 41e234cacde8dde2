import AppSpec.Application.Category
import AppSpec.Section
import AppSpec.SmartForm.Basic

/-!
# Applications

What all specification files of a project say together: entities by category and key, the sections
that were configured, and the forms in the order in which they were met.
-/

namespace AppSpec

structure Application where
  entities : Category → Entries Value := fun _ => Entries.empty
  auth : Value.Mapping := []
  socialAuth : Option Record := none
  socialProviders : Entries Value := Entries.empty
  theme : Value.Mapping := []
  sections : SectionKind → Option Section := fun _ => none
  customProviders : List CustomProvider := []
  smartForms : List SmartForm := []
deriving Inhabited

namespace Application

def empty : Application := {}

def setEntities (a : Application) (c : Category) (e : Entries Value) : Application :=
  { a with entities := fun d => if d = c then e else a.entities d }

def put (a : Application) (c : Category) (key : String) (v : Value) : Application :=
  a.setEntities c ((a.entities c).put key v)

def erase (a : Application) (c : Category) (key : String) : Application :=
  a.setEntities c ((a.entities c).erase key)

def setSection (a : Application) (kind : SectionKind) (s : Section) : Application :=
  { a with sections := fun k => if k = kind then some s else a.sections k }

/-- How many entries each category has, lists counted among them. -/
def counts (a : Application) : List (String × Nat) :=
  let size (c : Category) : String × Nat := (c.name, (a.entities c).size)
  [size .models, size .pages, size .endpoints, size .vectorDatabases,
    ("social_providers", a.socialProviders.size),
    ("custom_payment_providers", a.customProviders.length), size .aiModels, size .lazyImports,
    size .webrtcStreams, size .websockets, size .realtimeEvents, size .dataStreams,
    size .backgroundJobs, size .jobQueues, size .scheduledTasks, size .testSuites,
    ("smart_forms", a.smartForms.length)]

def configuredSections (a : Application) : List String :=
  (SectionKind.all.filter fun k => (a.sections k).isSome).map SectionKind.name

/-- Nothing has been said about the application. -/
def isEmpty (a : Application) : Bool :=
  Category.all.all (fun c => (a.entities c).isEmpty) && a.auth.isEmpty && a.socialAuth.isNone &&
    a.socialProviders.isEmpty && a.theme.isEmpty && a.configuredSections.isEmpty &&
    a.customProviders.isEmpty && a.smartForms.isEmpty

/-- The fields of an application by name, in the order in which they are declared. -/
def fields (a : Application) : Record :=
  let entities (c : Category) : String × Value := (c.name, (a.entities c).toValue)
  let configured (k : SectionKind) : String × Value :=
    (k.name, ((a.sections k).map Section.toValue).getD .null)
  [entities .models, entities .pages, entities .endpoints, entities .vectorDatabases,
    ("auth", .map a.auth), ("social_auth", (a.socialAuth.map Record.toValue).getD .null),
    ("social_providers", a.socialProviders.toValue), ("theme", .map a.theme), configured .payments,
    ("custom_payment_providers", .list (a.customProviders.map CustomProvider.toValue))] ++
  (SectionKind.all.drop 1).map configured ++
  [entities .aiModels, entities .lazyImports, entities .webrtcStreams, entities .websockets,
    entities .realtimeEvents, entities .dataStreams, entities .backgroundJobs, entities .jobQueues,
    entities .scheduledTasks, entities .testSuites,
    ("smart_forms", .list (a.smartForms.map SmartForm.toValue))]

end Application

end AppSpec
