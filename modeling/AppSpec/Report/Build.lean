import AppSpec.Build.Cycle
import AppSpec.Report.Output

/-!
# Build and check reports

A build runs one cycle with the inventory generators; a check compiles and generates nothing. Both
are reported line by line, and so is what was known when a compilation failed.
-/

namespace AppSpec.Report

def messageLine (d : Diagnostic) : String :=
  match d.location with
  | some place => d.message ++ "\n  --> " ++ place
  | none => d.message

def messagesOf (severity : Severity) (ds : List Diagnostic) : List String :=
  (ds.filter fun d => d.severity == severity).map messageLine

/-- Messages behind a blank line: errors first, then warnings, then what is only told. -/
def diagnostics (ds : List Diagnostic) : List Line :=
  if ds.isEmpty then []
  else
    .blank :: ((messagesOf .error ds).map .error ++ (messagesOf .warning ds).map .warning ++
      (messagesOf .info ds).map fun s => .plain ("info: " ++ s))

def statusLines (ss : List Status) : List Line :=
  ss.map fun s => .plain s.text

/-- What the application holds, and its default pages. -/
def application (s : Summary) (pages : List String) : List Line :=
  (if s.nonEmpty.isEmpty && s.sections.isEmpty then []
    else
      [.blank, .heading "IR"] ++
        s.nonEmpty.map (fun c => .indentedField c.1 (toString c.2)) ++
        if s.sections.isEmpty then []
        else [.indentedField "sections" (", ".intercalate s.sections)]) ++
  if pages.isEmpty then [] else [.blank, .heading "Default pages"] ++ pages.map .item

def outcome (o : Outcome) : Line :=
  match o.result with
  | .ok files =>
    .added (o.contract.name ++ " (" ++ toString files.written.length ++ " written, " ++
      toString files.unchanged.length ++ " unchanged)")
  | .error fault => .failed (o.contract.name ++ ": " ++ fault.text)

def outcomes (p : Project) (os : List Outcome) : List Line :=
  if os.isEmpty then []
  else
    [.blank, .heading "Targets"] ++ os.map outcome ++
      [.blank, .field "Output" (p.config.outputDir ++ "/")]

def build (p : Project) (r : CycleReport) : List Line :=
  [.title (p.name ++ " v" ++ p.config.version.text), .field "target" r.request.target.name,
    .field "env" r.request.environment.name, .blank] ++
    statusLines r.status ++ diagnostics r.diagnostics ++
    application r.summary r.synthesis.inserted ++ outcomes p r.outcomes

/-- No message is an error. -/
def isValid (ds : List Diagnostic) : Bool :=
  ds.all fun d => d.severity != .error

def verdict (p : Project) (c : Compiled) : List Line :=
  if isValid c.diagnostics then
    [.blank, .plain ("✓ " ++ p.name ++ " is valid (" ++ toString c.sources.length ++ " file" ++
      (if c.sources.length = 1 then "" else "s") ++ ")")]
  else []

def check (p : Project) (c : Compiled) : List Line :=
  statusLines c.status ++ diagnostics c.diagnostics ++ verdict p c ++
    application (.ofApplication c.application) c.synthesis.inserted

/-- What was known when a compilation failed. -/
def failure (f : CompilationFault) : List Line :=
  statusLines f.status ++ diagnostics f.diagnostics

end AppSpec.Report
