import AppSpec.Target

/-!
# Command line arguments

Options have a long and mostly a short spelling. The value of an option stands behind it or is the
next argument; short options may be run together. Each option is given at most once.
-/

namespace AppSpec.CommandLine

inductive Opt where
  | project
  | target
  | environment
  | watch
  | noService
deriving DecidableEq, Repr, Inhabited

namespace Opt

def long : Opt → String
  | .project => "project"
  | .target => "target"
  | .environment => "env"
  | .watch => "watch"
  | .noService => "no-service"

def short? : Opt → Option Char
  | .project => some 'p'
  | .target => some 't'
  | .environment => some 'e'
  | .watch => some 'w'
  | .noService => none

def takesValue : Opt → Bool
  | .project | .target | .environment => true
  | .watch | .noService => false

end Opt

/-- Why arguments make no command. -/
inductive UsageFault where
  | noCommand
  | unknownCommand (name : String)
  | unexpected (argument : String)
  | missingValue (option : Opt)
  | repeated (option : Opt)
  | badValue (option : Opt) (value : String)
deriving DecidableEq, Repr, Inhabited

namespace UsageFault

def text : UsageFault → String
  | .noCommand => "a command is required: build, check or completions"
  | .unknownCommand name => "unrecognized subcommand '" ++ name ++ "'"
  | .unexpected argument => "unexpected argument '" ++ argument ++ "' found"
  | .missingValue option => "a value is required for '--" ++ option.long ++ "'"
  | .repeated option => "the argument '--" ++ option.long ++ "' cannot be used multiple times"
  | .badValue option value => "invalid value '" ++ value ++ "' for '--" ++ option.long ++ "'"

end UsageFault

/-- An option with its value; a flag has none. -/
abbrev Given := Opt × Option String

/-- The next argument may be the value of an option. -/
def isValue (argument : String) : Bool :=
  match argument.toList with
  | '-' :: _ :: _ => false
  | _ => true

/-- The options of a run of short ones. A value is what is left of the run, or the next argument. -/
def readShort (allowed : List Opt) (whole : String) :
    List Char → List String → Except UsageFault (List Given × List String)
  | [], rest => .ok ([], rest)
  | c :: cs, rest =>
    match allowed.find? fun o => o.short? == some c with
    | none => .error (.unexpected whole)
    | some o =>
      if o.takesValue then
        match cs, rest with
        | '=' :: value, _ => .ok ([(o, some (String.ofList value))], rest)
        | d :: ds, _ => .ok ([(o, some (String.ofList (d :: ds)))], rest)
        | [], value :: rest' =>
          if isValue value then .ok ([(o, some value)], rest') else .error (.missingValue o)
        | [], [] => .error (.missingValue o)
      else
        match readShort allowed whole cs rest with
        | .ok (more, rest) => .ok ((o, none) :: more, rest)
        | .error f => .error f

/-- One long option, whose name is `name`. -/
def readLong (allowed : List Opt) (whole : String) (name : List Char) (rest : List String) :
    Except UsageFault (Given × List String) :=
  let key := String.ofList (name.takeWhile (· != '='))
  let attached := name.dropWhile (· != '=')
  match allowed.find? fun o => o.long == key with
  | none => .error (.unexpected whole)
  | some o =>
    match o.takesValue, attached, rest with
    | true, _ :: value, _ => .ok ((o, some (String.ofList value)), rest)
    | true, [], value :: rest' =>
      if isValue value then .ok ((o, some value), rest') else .error (.missingValue o)
    | true, [], [] => .error (.missingValue o)
    | false, [], _ => .ok ((o, none), rest)
    | false, _ :: _, _ => .error (.unexpected whole)

/-- All options, in the order given; `n` bounds the number of arguments. -/
def readOptions (allowed : List Opt) : Nat → List String → Except UsageFault (List Given)
  | 0, _ => .ok []
  | _, [] => .ok []
  | n + 1, argument :: rest =>
    match argument.toList with
    | ['-', '-'] =>
      match rest with
      | [] => .ok []
      | extra :: _ => .error (.unexpected extra)
    | '-' :: '-' :: name => do
      let (given, rest) ← readLong allowed argument name rest
      let more ← readOptions allowed n rest
      return given :: more
    | '-' :: c :: cs => do
      let (given, rest) ← readShort allowed argument (c :: cs) rest
      let more ← readOptions allowed n rest
      return given ++ more
    | _ => .error (.unexpected argument)

def firstRepeated? : List Given → Option Opt
  | [] => none
  | g :: rest => if rest.any fun h => h.1 == g.1 then some g.1 else firstRepeated? rest

def options (allowed : List Opt) (arguments : List String) : Except UsageFault (List Given) := do
  let given ← readOptions allowed (arguments.length + 1) arguments
  match firstRepeated? given with
  | some o => throw (.repeated o)
  | none => return given

def valueOf? (o : Opt) (given : List Given) : Option String :=
  (given.lookup o).join

/-- The project's root, by default the current directory. -/
def projectOf (given : List Given) : Except UsageFault String :=
  match valueOf? .project given with
  | none => .ok "."
  | some "" => .error (.badValue .project "")
  | some path => .ok path

def targetOf (given : List Given) : Except UsageFault Target :=
  match valueOf? .target given with
  | none => .ok .all
  | some s => (Target.ofName? s).mapError fun _ => .badValue .target s

def environmentOf (given : List Given) : Except UsageFault Environment :=
  match valueOf? .environment given with
  | none => .ok .development
  | some s => (Environment.ofName? s).mapError fun _ => .badValue .environment s

def isGiven (o : Opt) (given : List Given) : Bool :=
  given.any fun g => g.1 == o

/-- What the program is asked to do. -/
inductive Command where
  | version
  | build (project : String) (target : Target) (environment : Environment) (watch : Bool)
      (service : Bool)
  | check (project : String)
  | completions (shell : String)
deriving DecidableEq, Repr, Inhabited

def shells : List String := ["bash", "elvish", "fish", "powershell", "zsh"]

namespace Command

def build? (arguments : List String) : Except UsageFault Command := do
  let given ← options [.project, .target, .environment, .watch, .noService] arguments
  return .build (← projectOf given) (← targetOf given) (← environmentOf given)
    (isGiven .watch given) (!isGiven .noService given)

def check? (arguments : List String) : Except UsageFault Command := do
  let given ← options [.project] arguments
  return .check (← projectOf given)

def completions? : List String → Except UsageFault Command
  | [shell] => if shells.contains shell then .ok (.completions shell) else .error (.unexpected shell)
  | [] => .error .noCommand
  | _ :: extra :: _ => .error (.unexpected extra)

def ofArguments? : List String → Except UsageFault Command
  | [] => .error .noCommand
  | "build" :: rest => build? rest
  | "check" :: rest => check? rest
  | "completions" :: rest => completions? rest
  | "--version" :: _ => .ok .version
  | name :: _ =>
    match name.toList with
    | '-' :: 'V' :: _ => .ok .version
    | _ => .error (.unknownCommand name)

end Command

end AppSpec.CommandLine
