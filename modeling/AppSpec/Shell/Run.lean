import AppSpec.Shell.Command
import AppSpec.Shell.Utility

/-!
# Running scripts

A script runs on a disk with variables and arguments. What it prints is kept; it ends by itself, by
`exit`, or by a signal that it sends to itself.
-/

namespace AppSpec.Shell

/-- How a script stands: still going, or at its end. -/
inductive Flow where
  | going
  | exited (status : Nat)
  | killed (signal : Nat)
deriving DecidableEq, Repr, Inhabited

structure Machine where
  disk : Disk
  bindings : List (String × String) := []
  /-- The name of the script and what it was given. -/
  arguments : List String := []
  input : ByteArray := ByteArray.empty
  out : ByteArray := ByteArray.empty
  err : ByteArray := ByteArray.empty
  status : Nat := 0
  flow : Flow := .going
  /-- The script ends at the first command that fails. -/
  strict : Bool := false

/-- Where a stream goes. -/
inductive Sink where
  | out
  | err
  | nothing
  | file (path : String)
deriving DecidableEq, Repr, Inhabited

/-- The process number that a script sees as its own. -/
def ownNumber : String := "1000"

namespace Machine

def set (m : Machine) (name value : String) : Machine :=
  { m with bindings := m.bindings.filter (fun v => v.1 != name) ++ [(name, value)] }

def lookup (m : Machine) (name : String) : String :=
  match name with
  | "#" => toString (m.arguments.length - 1)
  | "@" | "*" => " ".intercalate (m.arguments.drop 1)
  | "?" => toString m.status
  | "$" => ownNumber
  | "-" | "!" => ""
  | _ =>
    match name.toNat? with
    | some n => (m.arguments[n]?).getD ""
    | none =>
      match m.bindings.lookup name with
      | some value => value
      | none => if name == "PWD" then placeText m.disk.here else ""

def say (m : Machine) (s : String) : Machine := { m with out := m.out ++ s.toUTF8 }

def complain (m : Machine) (s : String) (status : Nat) : Machine :=
  { m with err := m.err ++ (s ++ "\n").toUTF8, status := status }

/-- How a complaint begins: the script and the line. -/
def position (m : Machine) (line : Nat) : String :=
  m.arguments.head?.getD "sh" ++ ": " ++ toString line ++ ": "

def write (m : Machine) (bytes : ByteArray) : Sink → Machine
  | .out => { m with out := m.out ++ bytes }
  | .err => { m with err := m.err ++ bytes }
  | .nothing => m
  | .file path =>
    let before := ((m.disk.readBytes path).toOption).getD ByteArray.empty
    match m.disk.writeBytes path (before ++ bytes) with
    | .ok d => { m with disk := d }
    | .error _ => m

end Machine

/-! ## Words -/

/-- Words made so far, and the one that is being made. -/
structure Fields where
  done : List String := []
  open? : Option String := none

namespace Fields

def add (f : Fields) (s : String) : Fields :=
  { f with open? := some (f.open?.getD "" ++ s) }

def close (f : Fields) : Fields :=
  match f.open? with
  | some s => ⟨f.done ++ [s], none⟩
  | none => f

/-- Adds text, which blanks and line breaks cut into words. -/
def split (f : Fields) (s : String) : Fields :=
  s.toList.foldl (fun f c =>
    if isBlank c || c == '\n' then f.close else f.add c.toString) f

/-- Adds words, the first to the one that is being made. -/
def addAll (f : Fields) : List String → Fields
  | [] => f
  | [s] => f.add s
  | s :: rest => addAll (f.add s).close rest

end Fields

def trimNewlines (cs : List Char) : List Char :=
  (cs.reverse.dropWhile (· == '\n')).reverse

/-- The name and value of an assignment. -/
def assignment? (w : Word) : Option (String × Word) :=
  let rec go : Word → List Char → Option (String × Word)
    | .plain s :: rest, name =>
      if s == "=" then
        match name.reverse with
        | c :: cs =>
          if isNameStart c && cs.all isNameChar then some (String.ofList (c :: cs), rest) else none
        | [] => none
      else go rest (s.toList.reverse ++ name)
    | _, _ => none
  go w []

/-! ## Signals -/

def signals : List (String × Nat) :=
  [("HUP", 1), ("INT", 2), ("QUIT", 3), ("ILL", 4), ("TRAP", 5), ("ABRT", 6), ("BUS", 7),
    ("FPE", 8), ("KILL", 9), ("USR1", 10), ("SEGV", 11), ("USR2", 12), ("PIPE", 13), ("ALRM", 14),
    ("TERM", 15)]

def signalOf (s : String) : Nat :=
  let name := if "SIG".toList.isPrefixOf s.toList then String.ofList (s.toList.drop 3) else s
  match name.toNat? with
  | some n => n
  | none => (signals.lookup name).getD 15

/-- The signal that the arguments of `kill` ask for. -/
def killSignal : List String → Nat
  | "-s" :: name :: _ => signalOf name
  | first :: _ =>
    match first.toList with
    | '-' :: name => signalOf (String.ofList name)
    | _ => 15
  | [] => 15

/-! ## Commands -/

def finish (m : Machine) (status : Nat) : Machine := { m with flow := .exited (status % 256) }

/-- Ends a strict script whose last command has failed. -/
def settle (m : Machine) : Machine :=
  if m.strict && m.status != 0 && m.flow == .going then finish m m.status else m

/-- Ends a script with its last command. -/
def close (m : Machine) : Machine :=
  if m.flow == .going then finish m m.status else m

/-- Exports settings of the form `NAME=value`. -/
def exportAll (m : Machine) (arguments : List String) : Machine :=
  arguments.foldl (fun m s =>
    let name := String.ofList (s.toList.takeWhile (· != '='))
    match s.toList.dropWhile (· != '=') with
    | _ :: value => m.set name (String.ofList value)
    | [] => m) { m with status := 0 }

/-- Runs a command by its name. -/
def runNamed (m : Machine) (line : Nat) (name : String) (arguments : List String) : Machine :=
  match name with
  | ":" => { m with status := 0 }
  | "exit" =>
    match arguments.head? with
    | none => finish m m.status
    | some s =>
      match s.toNat? with
      | some n => finish m n
      | none => finish (m.complain (m.position line ++ "exit: Illegal number: " ++ s) 2) 2
  | "kill" =>
    if arguments.contains "-0" then { m with status := 0 }
    else if arguments.getLast? == some ownNumber then { m with flow := .killed (killSignal arguments) }
    else m.complain (m.position line ++ "kill: No such process") 1
  | "cd" =>
    match m.disk.find (arguments.head?.getD "") with
    | .ok (place, .directory) => { m with disk := { m.disk with here := place }, status := 0 }
    | _ => m.complain (m.position line ++ "cd: can't cd to " ++ arguments.head?.getD "") 2
  | "export" => exportAll m arguments
  | "set" =>
    { m with strict := (m.strict || arguments.contains "-e") && !arguments.contains "+e",
             status := 0 }
  | "unset" =>
    { m with bindings := m.bindings.filter (fun v => !arguments.contains v.1), status := 0 }
  | "readonly" | "umask" | "wait" | "trap" => { m with status := 0 }
  | "shift" => { m with arguments := m.arguments.take 1 ++ m.arguments.drop 2, status := 0 }
  | _ =>
    let (name, arguments) :=
      if name == "[" then ("test", arguments.dropLast) else (name, arguments)
    let found :=
      if name.toList.contains '/' then
        match m.disk.find name with
        | .ok (_, .utility u) => some u
        | _ => none
      else Utility.ofName? name
    match found with
    | some u =>
      let e := runUtility u (!name.toList.contains '/') m.disk m.bindings m.input arguments
      { m with out := m.out ++ e.out, err := m.err ++ e.err, status := e.status, disk := e.disk }
    | none => m.complain (m.position line ++ name ++ ": not found") 127

/-- Opens a file for output and leaves it empty unless it is to be continued. -/
def openFile (m : Machine) (path : String) (continued : Bool) : Except DiskFault (Sink × Machine) :=
  if path == "/dev/null" then .ok (.nothing, m)
  else if continued && m.disk.isFile path then .ok (.file path, m)
  else
    match m.disk.writeBytes path ByteArray.empty with
    | .ok d => .ok (.file path, { m with disk := d })
    | .error f => .error f

def setSink (sinks : Sink × Sink) (stream : Nat) (s : Sink) : Sink × Sink :=
  if stream == 2 then (sinks.1, s) else if stream == 1 then (s, sinks.2) else sinks

/-- Applies redirections whose targets are known; a complaint ends them. -/
def redirectAll (m : Machine) (sinks : Sink × Sink) :
    List (Nat × String × String) → Except Machine (Machine × Sink × Sink)
  | [] => .ok (m, sinks)
  | (stream, mark, target) :: rest =>
    if mark == "<" then
      if target == "/dev/null" then redirectAll { m with input := ByteArray.empty } sinks rest
      else
        match m.disk.readBytes target with
        | .ok bytes => redirectAll { m with input := bytes } sinks rest
        | .error _ => .error (m.complain (m.position 1 ++ "cannot open " ++ target ++ ": No such file") 2)
    else if mark == ">&" then
      let sink := if target == "1" then sinks.1 else if target == "2" then sinks.2 else .nothing
      redirectAll m (setSink sinks stream sink) rest
    else
      match openFile m target (mark == ">>") with
      | .ok (sink, m) => redirectAll m (setSink sinks stream sink) rest
      | .error .isADirectory =>
        .error (m.complain (m.position 1 ++ "cannot create " ++ target ++ ": Is a directory") 2)
      | .error _ =>
        .error (m.complain (m.position 1 ++ "cannot create " ++ target ++ ": Directory nonexistent") 2)

mutual

/-- The words that a word becomes. -/
def expand : Nat → Machine → Word → Fields → Machine × Fields
  | 0, m, _, f => (m, f)
  | _, m, [], f => (m, f)
  | n + 1, m, piece :: rest, f =>
    match piece with
    | .plain s => expand n m rest (f.add s)
    | .quoted s => expand n m rest (f.add s)
    | .parameter name otherwise quoted =>
      if name == "@" && quoted then expand n m rest (f.addAll (m.arguments.drop 1))
      else
        let value := m.lookup name
        let value := if value == "" then otherwise else value
        expand n m rest (if quoted then f.add value else f.split value)
    | .output script quoted =>
      let inner := match command? script with
        | some c => run n { m with out := ByteArray.empty } c
        | none => { m with out := ByteArray.empty }
      let m := { m with disk := { inner.disk with here := m.disk.here }, err := inner.err }
      let value := String.ofList (trimNewlines (Text.lossyChars inner.out.toList))
      expand n m rest (if quoted then f.add value else f.split value)

def expandAll : Nat → Machine → List Word → Machine × List String
  | 0, m, _ => (m, [])
  | _, m, [] => (m, [])
  | n + 1, m, w :: rest =>
    let (m, f) := expand n m w {}
    let (m, more) := expandAll n m rest
    (m, f.close.done ++ more)

/-- The text of a word that is not cut into words. -/
def expandWhole : Nat → Machine → Word → Machine × String
  | 0, m, _ => (m, "")
  | n + 1, m, w =>
    let (m, f) := expand n m w {}
    (m, " ".intercalate f.close.done)

def expandTargets : Nat → Machine → List Redirect → Machine × List (Nat × String × String)
  | 0, m, _ => (m, [])
  | _, m, [] => (m, [])
  | n + 1, m, r :: rest =>
    let (m, target) := expandWhole n m r.target
    let (m, more) := expandTargets n m rest
    (m, (r.stream, r.mark, target) :: more)

/-- Runs something with its streams redirected. -/
def redirected : Nat → Machine → List Redirect → (Machine → Machine) → Machine
  | 0, m, _, _ => m
  | n + 1, m, rs, f =>
    let (m, targets) := expandTargets n m rs
    match redirectAll m (.out, .err) targets with
    | .error m => m
    | .ok (opened, outSink, errSink) =>
      let after := f { opened with out := ByteArray.empty, err := ByteArray.empty }
      let whole := { after with input := m.input, out := m.out, err := m.err }
      (whole.write after.out outSink).write after.err errSink

def assignAll : Nat → Machine → List Word → Machine × List Word
  | 0, m, ws => (m, ws)
  | _, m, [] => (m, [])
  | n + 1, m, w :: rest =>
    match assignment? w with
    | some (name, value) =>
      let (m, s) := expandWhole n m value
      assignAll n (m.set name s) rest
    | none => (m, w :: rest)

/-- Runs a command as far as the fuel goes. -/
def run : Nat → Machine → Command → Machine
  | 0, m, _ => m
  | n + 1, m, c =>
    if m.flow != .going then m
    else
      match c with
      | .skip => m
      | .simple line ws rs =>
        let (m, ws) := assignAll n m ws
        let (m, fields) := expandAll n m ws
        settle <| redirected n m rs fun m =>
          match fields with
          | [] => { m with status := 0 }
          | "exec" :: name :: arguments => close (runNamed m line name arguments)
          | name :: arguments => runNamed m line name arguments
      | .sequence a b => run n (run n m a) b
      | .both a b =>
        let m := tested n m a
        if m.status == 0 then run n m b else m
      | .either a b =>
        let m := tested n m a
        if m.status == 0 then m else run n m b
      | .negate a =>
        let m := tested n m a
        { m with status := if m.status == 0 then 1 else 0 }
      | .pipe a b =>
        let left := tested n { m with out := ByteArray.empty } a
        let right := run n { m with disk := left.disk, input := left.out, err := left.err } b
        let flow := match right.flow with
          | .exited _ => Flow.going
          | other => other
        let status := match right.flow with
          | .exited s => s
          | _ => right.status
        settle { m with
          disk := right.disk, out := right.out, err := right.err, status := status, flow := flow }
      | .branch test yes no =>
        let m := tested n m test
        if m.status == 0 then run n m yes else run n { m with status := 0 } no
      | .loop test body untilTrue =>
        let m := tested n m test
        if (m.status == 0) != untilTrue then run n (run n m body) c else { m with status := 0 }
      | .each name ws body =>
        let (m, values) := expandAll n m ws
        runEach n m name values body
      | .group body rs apart =>
        settle <| redirected n m rs fun m =>
          let after := run n m body
          if apart then
            match after.flow with
            | .exited s =>
              { after with flow := .going, status := s, bindings := m.bindings,
                           disk := { after.disk with here := m.disk.here } }
            | _ =>
              { after with bindings := m.bindings, disk := { after.disk with here := m.disk.here } }
          else after

/-- Runs a command whose failure is looked at, which does not end a strict script. -/
def tested : Nat → Machine → Command → Machine
  | 0, m, _ => m
  | n + 1, m, c => { run n { m with strict := false } c with strict := m.strict }

def runEach : Nat → Machine → String → List String → Command → Machine
  | 0, m, _, _, _ => m
  | _, m, _, [], _ => m
  | n + 1, m, name, value :: rest, body => runEach n (run n (m.set name value) body) name rest body

end

/-- The longest run of a script. -/
def fuel : Nat := 100000

/-- Runs a script to its end. -/
def runScript (m : Machine) (script : String) : Machine :=
  match command? script with
  | some c => run fuel m c
  | none => finish (m.complain (m.position 1 ++ "Syntax error") 2) 2

end AppSpec.Shell
