import AppSpec.Disk.Basic
import AppSpec.Report.Status
import AppSpec.Watch.Scheduler

/-!
# Watch sessions

A session takes messages one by one until it is interrupted and rebuilds on each change that the
scheduler accepts. What a build leaves behind, its state, is handed on to the next.
-/

namespace AppSpec.Watch

inductive Message where
  | changed (path : String) (time : Nat)
  | observerError (text : String)
  | interrupt
deriving DecidableEq, Repr, Inhabited

/-- Why a directory cannot be watched. -/
structure WatchFault where
  path : String
  cause : DiskFault
deriving DecidableEq, Repr, Inhabited

def WatchFault.text (f : WatchFault) : String :=
  "cannot watch '" ++ f.path ++ "': " ++ f.cause.text

/-- A watched path has to be there. -/
def observe (d : Disk) (path : String) : Except WatchFault Unit :=
  match d.find path with
  | .ok _ => .ok ()
  | .error cause => .error ⟨path, cause⟩

structure Session (σ : Type) where
  scheduler : Scheduler
  state : σ
  status : List Status := []

namespace Session

variable {σ : Type}

/-- The last name of the path, or all of it when it has none. -/
def subject (path : String) : String :=
  (FilePath.fileName? path).getD path

def statusOf (path : String) (e : CycleEnd) : Status :=
  ⟨.watch, subject path,
    match e with
    | .succeeded => .ok
    | .failed reason => .failed reason⟩

def isInterrupt : Message → Bool
  | .interrupt => true
  | _ => false

def handle (build : σ → Build × σ) (s : Session σ) : Message → Session σ
  | .changed path time =>
    match s.scheduler.offer time with
    | (false, _) => s
    | (true, scheduler) =>
      let (b, state) := build s.state
      let (ending, scheduler) := scheduler.run b
      ⟨scheduler.settle, state, s.status ++ [statusOf path ending]⟩
  | .observerError _ | .interrupt => s

/-- Handles the messages before the first interrupt. -/
def run (build : σ → Build × σ) (debounce : Nat) (start : σ) (ms : List Message)
    (clock : Clock := {}) : Session σ :=
  (ms.takeWhile fun m => !isInterrupt m).foldl (handle build)
    ⟨.ofDebounce debounce clock, start, []⟩

end Session

end AppSpec.Watch
