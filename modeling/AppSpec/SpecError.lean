import AppSpec.Disk.Fault
import AppSpec.Document.Basic
import AppSpec.Project.Config

/-!
# Errors of a project

What can be wrong with a project's files: one that cannot be read, one that is no document, and a
configuration that is none or is refused.
-/

namespace AppSpec

inductive SpecError where
  | configUnreadable (path : String) (cause : DiskFault)
  | unreadable (path : String) (cause : DiskFault)
  | document (path : String) (fault : Document.Fault)
  | config (fault : Config.Fault)
deriving Repr, Inhabited

namespace SpecError

def message : SpecError → String
  | .configUnreadable path _ => "failed to read '" ++ path ++ "'"
  | .unreadable path _ => "failed to read '" ++ path ++ "'"
  | .document path (.malformed _ _) => "failed to parse '" ++ path ++ "'"
  | .document path (.notAMapping _ found) =>
    "'" ++ path ++ "' must contain a mapping of sections, found " ++ found.kindName
  | .config (.unreadable _ _) => "failed to parse flowc.toml"
  | .config (.refused r _) => r.text

/-- The text of what lies behind the error. -/
def cause? : SpecError → Option String
  | .configUnreadable _ cause => some cause.text
  | .unreadable _ cause => some cause.text
  | .document _ (.malformed _ cause) => some cause.text
  | .document _ (.notAMapping _ _) => none
  | .config (.unreadable p _) => some p.text
  | .config (.refused _ _) => none

def span? : SpecError → Option Span
  | .configUnreadable _ _ | .unreadable _ _ => none
  | .document _ (.malformed span _) => span
  | .document _ (.notAMapping span _) => span
  | .config (.unreadable _ span) => some span
  | .config (.refused _ span) => span

/-- The specification file that the error is about. -/
def file? : SpecError → Option String
  | .unreadable path _ => some path
  | .document path _ => some path
  | .configUnreadable _ _ | .config _ => none

def code : SpecError → String
  | .configUnreadable _ _ => "flowc::config_io"
  | .unreadable _ _ => "flowc::io"
  | .document _ (.malformed _ _) => "flowc::parse_error"
  | .document _ (.notAMapping _ _) => "flowc::not_a_mapping"
  | .config (.unreadable _ _) => "flowc::config_parse_error"
  | .config (.refused _ _) => "flowc::validation_error"

def help? : SpecError → Option String
  | .configUnreadable _ _ =>
    some "run flowc from a project root containing flowc.toml, or pass --project"
  | .document _ (.notAMapping _ _) =>
    some "start the file with a top-level key such as 'model:' or 'page:'"
  | _ => none

end SpecError

end AppSpec
