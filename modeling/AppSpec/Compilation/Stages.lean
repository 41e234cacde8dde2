import AppSpec.Compilation.Basic

/-!
# Stages of a compilation

Specification files are discovered and parsed, each on its own, so that one run tells of all bad
files. With no bad file the documents are merged, and the application gets its default pages. Only
discovery can fail, when the flows directory cannot be read.
-/

namespace AppSpec

/-- The stages of every compilation, in order. -/
inductive BuiltinPhase where
  | discover
  | parse
  | merge
  | synthesize
deriving DecidableEq, Repr, Inhabited

namespace BuiltinPhase

def all : List BuiltinPhase := [.discover, .parse, .merge, .synthesize]

def name : BuiltinPhase → String
  | .discover => "discover"
  | .parse => "parse"
  | .merge => "merge"
  | .synthesize => "synthesize"

def description : BuiltinPhase → String
  | .discover => "Find specification files in the flows directory"
  | .parse => "Parse specification files into tagged documents"
  | .merge => "Fold documents into the project IR"
  | .synthesize => "Propose default pages for unreferenced models"

end BuiltinPhase

namespace Source

/-- The document in a specification file. -/
def read (d : Disk) (s : Source) : Except SpecError Document :=
  match d.readText s.path with
  | .error cause => .error (.unreadable s.path cause)
  | .ok text =>
    match Document.parse text s.path s.dialect with
    | .error fault => .error (.document s.path fault)
    | .ok doc => .ok doc

end Source

namespace Compilation

def noSources : String := "no specification files found"

/-- Takes down which files were found in the flows directory. -/
def withSources (c : Compilation) (subject : String) (sources : List Source) : Compilation :=
  let line : Status :=
    if sources.isEmpty then ⟨.discover, subject, .skipped noSources⟩
    else ⟨.discover, subject ++ " (" ++ toString sources.length ++ " files)", .ok⟩
  { c.report line with sources := sources }

def discover (d : Disk) (c : Compilation) : Except String Compilation :=
  let dir := c.project.flowsDir
  let subject := c.displayed dir
  match Discovery.run d dir with
  | .absent =>
    let c := c.note ⟨.warning, "discover", "flows directory not found", some subject⟩
    .ok (c.withSources subject [])
  | .found sources => .ok (c.withSources subject sources)
  | .unreadable reason => .error reason

/-- Takes in what a file holds, or why it is bad. -/
def parseSource (d : Disk) (c : Compilation) (s : Source) : Compilation :=
  let subject := c.displayed s.path
  match s.read d with
  | .ok doc => { c.report ⟨.parse, subject, .ok⟩ with documents := c.documents ++ [doc] }
  | .error e =>
    let c := c.note ⟨.error, "parse", e.message, some subject⟩
    { c.report ⟨.parse, subject, .failed (e.cause?.getD e.message)⟩ with errors := c.errors ++ [e] }

def parse (d : Disk) (c : Compilation) : Compilation :=
  c.sources.foldl (parseSource d) c

def merge (c : Compilation) : Compilation :=
  if c.errors.isEmpty then
    let m := Merge.ofDocuments c.documents
    let told := m.conflicts.map Diagnostic.ofConflict ++
      m.notices.map fun n => ⟨.warning, "merge", n.text, none⟩
    { c with
      application := some m.application
      conflicts := m.conflicts
      diagnostics := c.diagnostics ++ told
      status := c.status ++ [⟨.merge, toString c.documents.length ++ " document(s)", .ok⟩] }
  else
    c.report
      ⟨.merge, "ir", .skipped (toString c.errors.length ++ " file(s) failed to parse")⟩

def synthesize (c : Compilation) : Compilation :=
  match c.application with
  | none => c.report ⟨.synthesize, "default pages", .skipped "no IR"⟩
  | some a =>
    let (a, s) := Synthesis.run a
    let told := s.kept.map fun path =>
      ⟨.info, "synthesize", "kept authored page at '" ++ path ++ "'", none⟩
    { c with
      application := some a
      synthesis := some s
      diagnostics := c.diagnostics ++ told
      status := c.status ++
        [⟨.synthesize, toString s.inserted.length ++ " default page(s)", .ok⟩] }

def runBuiltin (d : Disk) (c : Compilation) : BuiltinPhase → Except String Compilation
  | .discover => c.discover d
  | .parse => .ok (c.parse d)
  | .merge => .ok c.merge
  | .synthesize => .ok c.synthesize

end Compilation

end AppSpec
