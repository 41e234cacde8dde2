import AppSpec.Build.Cycle
import AppSpec.Shell.Run
import AppSpec.Text.Blank

/-!
# Build services

A project may name a program that builds it. The program is run once in the project's root and takes
the place of the compilation when it succeeds.
-/

namespace AppSpec.Service

/-- The variables that tell a service what to build. -/
def targetVariable : String := "FLOWC_TARGET"
def environmentVariable : String := "FLOWC_ENV"
def watchVariable : String := "FLOWC_WATCH"

/-- Why a service did not build the project. -/
inductive Fault where
  | unstarted (cause : DiskFault)
  | exited (status : Nat) (complaint : String)
  | killed (signal : Nat) (complaint : String)
deriving DecidableEq, Repr, Inhabited

def signalName (signal : Nat) : String :=
  match Shell.signals.find? fun s => s.2 == signal with
  | some s => " (SIG" ++ s.1 ++ ")"
  | none => ""

/-- What is told of an end, with the complaint if there is one. -/
def endText (ending complaint : String) : String :=
  let trimmed := Text.trim complaint
  "exited with " ++ ending ++ if trimmed == "" then "" else ": " ++ trimmed

def Fault.text : Fault → String
  | .unstarted cause => "failed to spawn: " ++ cause.text
  | .exited status complaint => endText ("exit status: " ++ toString status) complaint
  | .killed signal complaint =>
    endText ("signal: " ++ toString signal ++ signalName signal) complaint

inductive Outcome where
  | notConfigured
  | missing (service : String)
  | completed (service output : String)
  | failed (service : String) (why : Fault)
deriving DecidableEq, Repr, Inhabited

/-- The project needs no compilation any more. -/
def Outcome.replacesPipeline : Outcome → Bool
  | .completed _ _ => true
  | _ => false

/-- The interpreter that the first line of a script names, with its argument. -/
def interpreter? (script : String) : Option (String × List String) :=
  match script.toList with
  | '#' :: '!' :: rest =>
    let line := (rest.takeWhile (· != '\n')).dropWhile Shell.isBlank
    let program := line.takeWhile fun c => !Shell.isBlank c
    let argument := Text.trim (String.ofList (line.drop program.length))
    some (String.ofList program, if argument == "" then [] else [argument])
  | _ => none

/-- How a program ends: its output, its complaints and its last word. -/
structure Ended where
  out : ByteArray
  err : ByteArray
  flow : Shell.Flow
  disk : Disk

def ofEffects (e : Shell.Effects) : Ended := ⟨e.out, e.err, .exited e.status, e.disk⟩

def ofMachine (m : Shell.Machine) : Ended :=
  ⟨m.out, m.err, match m.flow with
    | .going => .exited m.status
    | flow => flow, m.disk⟩

/-- Runs a script by its interpreter. -/
def runScript (d : Disk) (bindings : List (String × String)) (path script : String)
    (arguments : List String) : Except DiskFault Ended :=
  let shell : Ended :=
    ofMachine (Shell.runScript
      { disk := d, bindings := bindings, arguments := path :: arguments } script)
  match interpreter? script with
  | none => .error .badFormat
  | some (program, extra) =>
    match d.find program with
    | .error fault => .error fault
    | .ok (_, .utility .shell) => .ok shell
    | .ok (_, .utility .env) =>
      if extra == ["sh"] then .ok shell else .ok (ofEffects (.ofStatus d 127))
    | .ok (_, .utility u) =>
      .ok (ofEffects (Shell.runUtility u false d bindings ByteArray.empty
        (extra ++ path :: arguments)))
    | .ok (_, .directory) | .ok (_, .file _ _) => .error .denied

/-- Starts a program, with paths seen from the disk's directory. -/
def start (d : Disk) (bindings : List (String × String)) (path : String)
    (arguments : List String) : Except DiskFault Ended :=
  match d.find path with
  | .error fault => .error fault
  | .ok (_, .directory) => .error .denied
  | .ok (_, .utility u) =>
    .ok (ofEffects (Shell.runUtility u false d bindings ByteArray.empty arguments))
  | .ok (_, .file content executable) =>
    if executable then runScript d bindings path (Text.lossy content) arguments
    else .error .denied

def outcomeOf (service : String) (e : Ended) : Outcome :=
  match e.flow with
  | .killed signal => .failed service (.killed signal (Text.lossy e.err))
  | .exited 0 => .completed service (Text.lossy e.out)
  | .exited status => .failed service (.exited status (Text.lossy e.err))
  | .going => .completed service (Text.lossy e.out)

/-- Runs the service of a project, if it has one that is there. -/
def run (d : Disk) (p : Project) (r : Request) (watch : Bool) : Outcome × Disk :=
  match p.service? with
  | none => (.notConfigured, d)
  | some service =>
    if !d.isFile service then (.missing service, d)
    else
      let bindings :=
        [(targetVariable, r.target.name), (environmentVariable, r.environment.name),
          (watchVariable, if watch then "1" else "0")]
      let arguments := p.root :: if watch then ["--watch"] else []
      let inside := match d.find p.root with
        | .ok (place, .directory) => { d with here := place }
        | _ => d
      match start inside bindings service arguments with
      | .error cause => (.failed service (.unstarted cause), d)
      | .ok e => (outcomeOf service e, { e.disk with here := d.here })

end AppSpec.Service
