import AppSpec.Application.Basic
import AppSpec.Inventory.Json
import AppSpec.Project.Basic
import AppSpec.Target

/-!
# Inventories

An inventory lists what one contract needs of an application, under a header that names the project
and what it is built for.
-/

namespace AppSpec.Inventory

def entities (a : Application) (name : String) (c : Category) : String × Value :=
  (name, (a.entities c).toValue)

/-- The sections among `kinds` that are configured. -/
def configured (a : Application) (kinds : List SectionKind) : Record :=
  kinds.filterMap fun k => (a.sections k).map fun s => (k.name, s.toValue)

def authentication (a : Application) : Record :=
  [("config", .map a.auth)] ++ (a.socialAuth.map fun r => ("social", Record.toValue r)).toList ++
    [("providers", a.socialProviders.toValue)]

def integrations (a : Application) : Record :=
  configured a [.payments] ++
    [("custom_payment_providers", .list (a.customProviders.map CustomProvider.toValue))] ++
    configured a [.sms, .pushNotifications, .fileStorage, .email, .search, .analytics, .adminPanel,
      .serverless]

def backend (a : Application) : Record :=
  [entities a "models" .models, entities a "endpoints" .endpoints,
    entities a "vector_databases" .vectorDatabases, entities a "ai_models" .aiModels,
    ("auth", Record.toValue (authentication a)), entities a "jobs" .backgroundJobs,
    entities a "queues" .jobQueues, entities a "schedules" .scheduledTasks,
    entities a "websockets" .websockets, entities a "events" .realtimeEvents,
    entities a "streams" .dataStreams, ("integrations", Record.toValue (integrations a))]

def frontend (a : Application) : Record :=
  [entities a "pages" .pages, ("theme", .map a.theme),
    ("smart_forms", .list (a.smartForms.map SmartForm.toValue)),
    entities a "webrtc_streams" .webrtcStreams, entities a "lazy_imports" .lazyImports] ++
    configured a [.i18n, .icons]

def mobile (platform : String) (a : Application) : Record :=
  [("platform", .string platform), entities a "pages" .pages, ("theme", .map a.theme)] ++
    configured a [.pushNotifications]

def desktop (a : Application) : Record :=
  [entities a "pages" .pages] ++ configured a [.desktop]

/-- What a contract needs of an application. -/
def slice : Contract → Application → Record
  | .backend => backend
  | .frontend => frontend
  | .mobileIos => mobile "ios"
  | .mobileAndroid => mobile "android"
  | .desktop => desktop

def header (p : Project) (c : Contract) (env : Environment) : Record :=
  [("project", .string p.name), ("version", .string p.config.version.text),
    ("target", .string c.name), ("env", .string env.name)]

def toValue (p : Project) (c : Contract) (env : Environment) (a : Application) : Value :=
  Record.toValue (header p c env ++ slice c a)

/-- The content of an inventory file. -/
def text (p : Project) (c : Contract) (env : Environment) (a : Application) :
    Except Json.Fault String :=
  (Json.text (toValue p c env a)).map fun s => s ++ "\n"

def fileName : String := "inventory.json"

/-- The file that holds the inventory of a contract. -/
def path (p : Project) (c : Contract) : String :=
  FilePath.join (FilePath.join p.outputDir c.name) fileName

end AppSpec.Inventory
