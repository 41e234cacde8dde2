import AppSpec.Compilation.Basic

/-!
# Error blocks

An error that ends the program is shown by its code, its message and what can be done about it.
-/

namespace AppSpec.Report

def errorBlock (code message : String) (cause help : Option String) : String :=
  code ++ "\n\n  × " ++ message ++ "\n" ++
    (cause.map fun s => "  ╰─▶ " ++ s ++ "\n").getD "" ++
    (help.map fun s => "  help: " ++ s ++ "\n").getD ""

def specErrorBlock (e : SpecError) : String :=
  errorBlock e.code e.message e.cause? e.help?

def faultCode : CompilationFault → String
  | .badFiles _ _ _ => "flowc::cycle::parse"
  | .stopped _ | .noApplication => "flowc::cycle::pipeline"

def faultHelp : CompilationFault → Option String
  | .badFiles _ _ _ =>
    some "fix the files above; the previous build output was left untouched"
  | .stopped _ | .noApplication => none

def faultBlock (f : CompilationFault) : String :=
  errorBlock (faultCode f) f.text none (faultHelp f) ++
    String.join (f.errors.map fun e => "\nError: " ++ specErrorBlock e)

end AppSpec.Report
