import AppSpec.FilePath

/-!
# Dialects

The four kinds of specification file. The extension of a file names its dialect.
-/

namespace AppSpec

inductive Dialect where
  | flow
  | liveflow
  | jobflow
  | testflow
deriving DecidableEq, Repr, Inhabited

namespace Dialect

def all : List Dialect := [.flow, .liveflow, .jobflow, .testflow]

def name : Dialect → String
  | .flow => "flow"
  | .liveflow => "liveflow"
  | .jobflow => "jobflow"
  | .testflow => "testflow"

/-- The dialect of a name in any case, with or without a point in front. -/
def ofName? (s : String) : Option Dialect :=
  let cs := match s.toList with
    | '.' :: rest => rest
    | cs => cs
  all.find? fun d => d.name.toList == cs.map Char.toLower

def unknownText (s : String) : String :=
  let shown := match s.toList with
    | '.' :: rest => String.ofList rest
    | _ => s
  "unknown dialect '" ++ shown ++ "', expected one of: flow, liveflow, jobflow, testflow"

def ofPath? (path : String) : Option Dialect := do
  let extension ← FilePath.extension? path
  all.find? fun d => d.name == extension

end Dialect

end AppSpec
