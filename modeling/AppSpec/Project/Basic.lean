import AppSpec.Disk.Basic
import AppSpec.Project.Config
import AppSpec.SpecError

/-!
# Projects

A project is a root directory with its configuration. The paths in the configuration are seen from
the root. A project is opened by its root, whose configuration file is read.
-/

namespace AppSpec

structure Project where
  root : String
  config : Config
deriving DecidableEq, Repr, Inhabited

namespace Project

def name (p : Project) : String :=
  p.config.name

def flowsDir (p : Project) : String :=
  FilePath.join p.root p.config.flowsDir

def outputDir (p : Project) : String :=
  FilePath.join p.root p.config.outputDir

/-- The program that builds the project instead, if one is configured. -/
def service? (p : Project) : Option String :=
  p.config.service.map (FilePath.join p.root)

def configPath (root : String) : String :=
  FilePath.join root Config.fileName

def load (d : Disk) (root : String) : Except SpecError Project :=
  match d.readText (configPath root) with
  | .error cause => .error (.configUnreadable (configPath root) cause)
  | .ok text =>
    match Config.parse text with
    | .error fault => .error (.config fault)
    | .ok config => .ok ⟨root, config⟩

end Project

end AppSpec
