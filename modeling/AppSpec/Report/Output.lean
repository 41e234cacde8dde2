/-!
# Output

A report is a list of lines, each with a role. The terminal shows warnings and errors apart from the
rest.
-/

namespace AppSpec

inductive Line where
  | title (text : String)
  | heading (name : String)
  | field (key value : String)
  | indentedField (key value : String)
  | item (text : String)
  | added (text : String)
  | failed (text : String)
  | warning (text : String)
  | error (text : String)
  | plain (text : String)
  | blank
deriving DecidableEq, Repr, Inhabited

namespace Line

/-- The line goes to the error output. -/
def isAlert : Line → Bool
  | .warning _ | .error _ => true
  | _ => false

/-- A line as the terminal shows it; a title is underlined. -/
def text : Line → String
  | .title s => s ++ "\n" ++ String.ofList (List.replicate s.utf8ByteSize '=')
  | .heading name => name ++ ":"
  | .field key value => key ++ ": " ++ value
  | .indentedField key value => "  " ++ key ++ ": " ++ value
  | .item s => "  - " ++ s
  | .added s => "  + " ++ s
  | .failed s => "  ✗ " ++ s
  | .warning s => "warning: " ++ s
  | .error s => "error: " ++ s
  | .plain s => s
  | .blank => ""

end Line

/-- What a program prints. -/
structure Output where
  out : String := ""
  err : String := ""
deriving DecidableEq, Repr, Inhabited

namespace Output

def write (o : Output) (l : Line) : Output :=
  if l.isAlert then { o with err := o.err ++ l.text ++ "\n" }
  else { o with out := o.out ++ l.text ++ "\n" }

def writeAll (o : Output) (ls : List Line) : Output :=
  ls.foldl write o

end Output

end AppSpec
