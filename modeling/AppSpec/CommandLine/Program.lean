import AppSpec.Build.Service
import AppSpec.CommandLine.Arguments
import AppSpec.Project.Basic
import AppSpec.Report.Build
import AppSpec.Report.ErrorBlock
import AppSpec.Watch.Session

/-!
# The program

What the program does with its arguments: it prints, changes the disk, and ends with a number, 1 when
something failed and 2 when the arguments make no command.
-/

namespace AppSpec.CommandLine

def versionText : String := "flowc 0.3.0"

/-- How the program ends. -/
structure Ending where
  exit : Nat
  output : Output
  disk : Disk
deriving Inhabited

/-- An ending that shows an error. -/
def stopped (exit : Nat) (o : Output) (d : Disk) (message : String) : Ending :=
  ⟨exit, { o with err := o.err ++ message ++ "\n" }, d⟩

def serviceLines (service output : String) : List Line :=
  .field "build service" service ::
    if Text.trim output == "" then [] else [.plain (String.ofList (Text.trimEnd output.toList))]

def serviceWarning (service : String) (why : Service.Fault) : Line :=
  .warning ("build service " ++ service ++ " failed (" ++ why.text ++
    "); using the built-in pipeline")

/-- One build with its report; the flag says whether every contract was fulfilled. -/
def buildOnce (p : Project) (r : Request) (o : Output) (d : Disk) : Bool × Output × Disk :=
  match p.build d r with
  | (.ok report, d) => (report.succeeded, o.writeAll (Report.build p report), d)
  | (.error fault, d) =>
    let o := o.writeAll (Report.failure fault)
    (false, { o with err := o.err ++ Report.faultBlock fault ++ "\n" }, d)

/-- A watch that is interrupted at once. -/
def watch (p : Project) (o : Output) (d : Disk) : Ending :=
  match Watch.observe d p.flowsDir with
  | .error fault => stopped 1 o d ("Error: " ++ fault.text)
  | .ok () =>
    ⟨0, o.writeAll [.plain ("watching " ++ p.flowsDir ++ " (press Ctrl-C to stop)"),
      .plain "stopped after 0 rebuilds (0 failed)"], d⟩

def buildProject (p : Project) (r : Request) (watching : Bool) (o : Output) (d : Disk) : Ending :=
  let (whole, o, d) := buildOnce p r o d
  if watching then watch p (o.write .blank) d
  else ⟨if whole then 0 else 1, o, d⟩

def build (d : Disk) (p : Project) (r : Request) (watching service : Bool) : Ending :=
  if service then
    match Service.run d p r watching with
    | (.completed service output, d) => ⟨0, ({} : Output).writeAll (serviceLines service output), d⟩
    | (.failed service why, d) =>
      buildProject p r watching (({} : Output).write (serviceWarning service why)) d
    | (.missing _, d) | (.notConfigured, d) => buildProject p r watching {} d
  else buildProject p r watching {} d

def check (d : Disk) (p : Project) : Ending :=
  match p.check d with
  | .ok c =>
    ⟨if Report.isValid c.diagnostics then 0 else 1, ({} : Output).writeAll (Report.check p c), d⟩
  | .error fault =>
    stopped 1 (({} : Output).writeAll (Report.failure fault)) d (Report.faultBlock fault)

/-- Opens the project at a root and goes on with it. -/
def withProject (d : Disk) (root : String) (f : Project → Ending) : Ending :=
  match Project.load d root with
  | .ok p => f p
  | .error e => stopped 1 {} d (Report.specErrorBlock e)

def run (d : Disk) (arguments : List String) : Ending :=
  match Command.ofArguments? arguments with
  | .error fault => stopped 2 {} d ("error: " ++ fault.text)
  | .ok .version => ⟨0, ({} : Output).write (.plain versionText), d⟩
  | .ok (.completions _) => ⟨0, {}, d⟩
  | .ok (.check root) => withProject d root (check d)
  | .ok (.build root target environment watching service) =>
    withProject d root fun p => build d p ⟨target, environment⟩ watching service

end AppSpec.CommandLine
