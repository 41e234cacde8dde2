/-!
# Categories

The kinds of keyed entities in an application.
-/

namespace AppSpec

inductive Category where
  | models
  | pages
  | endpoints
  | vectorDatabases
  | aiModels
  | lazyImports
  | webrtcStreams
  | websockets
  | realtimeEvents
  | dataStreams
  | backgroundJobs
  | jobQueues
  | scheduledTasks
  | testSuites
deriving DecidableEq, Repr, Inhabited

namespace Category

def all : List Category :=
  [.models, .pages, .endpoints, .vectorDatabases, .aiModels, .lazyImports, .webrtcStreams,
    .websockets, .realtimeEvents, .dataStreams, .backgroundJobs, .jobQueues, .scheduledTasks,
    .testSuites]

def name : Category → String
  | .models => "models"
  | .pages => "pages"
  | .endpoints => "endpoints"
  | .vectorDatabases => "vector_databases"
  | .aiModels => "ai_models"
  | .lazyImports => "lazy_imports"
  | .webrtcStreams => "webrtc_streams"
  | .websockets => "websockets"
  | .realtimeEvents => "realtime_events"
  | .dataStreams => "data_streams"
  | .backgroundJobs => "background_jobs"
  | .jobQueues => "job_queues"
  | .scheduledTasks => "scheduled_tasks"
  | .testSuites => "test_suites"

end Category

end AppSpec
