import AppSpec.Setting

/-!
# Status lines

One line of progress: a stage, the file or contract it is about, and how it went.
-/

namespace AppSpec

inductive Stage where
  | discover
  | parse
  | merge
  | synthesize
  | generate
  | watch
deriving DecidableEq, Repr, Inhabited

namespace Stage

def all : List Stage := [.discover, .parse, .merge, .synthesize, .generate, .watch]

def name : Stage → String
  | .discover => "discover"
  | .parse => "parse"
  | .merge => "merge"
  | .synthesize => "synthesize"
  | .generate => "generate"
  | .watch => "watch"

def ofName? (s : String) : Option Stage :=
  all.find? fun stage => stage.name == s

end Stage

inductive Result where
  | ok
  | skipped (reason : String)
  | failed (reason : String)
deriving DecidableEq, Repr, Inhabited

namespace Result

def isFailed : Result → Bool
  | .failed _ => true
  | _ => false

def text : Result → String
  | .ok => "ok"
  | .skipped reason => "skipped (" ++ reason ++ ")"
  | .failed reason => "failed (" ++ reason ++ ")"

def toRecord : Result → Record
  | .ok => [("status", .string "ok")]
  | .skipped reason => [("status", .string "skipped"), ("reason", .string reason)]
  | .failed reason => [("status", .string "failed"), ("reason", .string reason)]

end Result

structure Status where
  stage : Stage
  subject : String
  result : Result
deriving DecidableEq, Repr, Inhabited

namespace Status

def text (s : Status) : String :=
  "[" ++ s.stage.name ++ "] " ++ s.subject ++ ": " ++ s.result.text

def toValue (s : Status) : Value :=
  Record.toValue
    [("stage", .string s.stage.name), ("subject", .string s.subject),
      ("outcome", Record.toValue s.result.toRecord)]

end Status

end AppSpec
