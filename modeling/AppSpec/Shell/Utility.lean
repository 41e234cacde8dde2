import AppSpec.Disk.Basic
import AppSpec.Text.Lossy

/-!
# Utilities

The programs that the system brings along, as functions of their arguments, their input and the disk.
-/

namespace AppSpec

namespace Utility

def all : List Utility :=
  [.basename, .cat, .copy, .dirname, .echo, .env, .fail, .head, .list, .makeDirectory, .move, .printf,
    .pwd, .remove, .shell, .sleep, .succeed, .tail, .test, .touch, .wordCount]

/-- The name under which the system keeps a program. -/
def name : Utility → String
  | .basename => "basename"
  | .cat => "cat"
  | .copy => "cp"
  | .dirname => "dirname"
  | .echo => "echo"
  | .env => "env"
  | .fail => "false"
  | .head => "head"
  | .list => "ls"
  | .makeDirectory => "mkdir"
  | .move => "mv"
  | .printf => "printf"
  | .pwd => "pwd"
  | .remove => "rm"
  | .shell => "sh"
  | .sleep => "sleep"
  | .succeed => "true"
  | .tail => "tail"
  | .test => "test"
  | .touch => "touch"
  | .wordCount => "wc"

def ofName? (s : String) : Option Utility :=
  all.find? fun u => u.name == s

end Utility

namespace Shell

/-- What a program leaves behind. -/
structure Effects where
  out : ByteArray := ByteArray.empty
  err : ByteArray := ByteArray.empty
  status : Nat := 0
  disk : Disk

namespace Effects

def ofText (d : Disk) (s : String) : Effects := { out := s.toUTF8, disk := d }

def ofStatus (d : Disk) (status : Nat) : Effects := { status := status, disk := d }

def ofFault (d : Disk) (message : String) : Effects :=
  { err := (message ++ "\n").toUTF8, status := 1, disk := d }

end Effects

def octalDigit? (c : Char) : Option Nat :=
  if '0' ≤ c && c ≤ '7' then some (c.toNat - 48) else none

/-- Up to three octal digits as a byte, and what follows them. -/
def octal (cs : List Char) : UInt8 × List Char :=
  let digits := (cs.take 3).takeWhile fun c => (octalDigit? c).isSome
  (UInt8.ofNat (digits.foldl (fun n c => 8 * n + (octalDigit? c).getD 0) 0), cs.drop digits.length)

def bytesOf (c : Char) : List UInt8 := c.toString.toUTF8.toList

def simpleEscape? (c : Char) : Option UInt8 :=
  match c with
  | 'a' => some 7
  | 'b' => some 8
  | 'f' => some 12
  | 'n' => some 10
  | 'r' => some 13
  | 't' => some 9
  | 'v' => some 11
  | '\\' => some 92
  | _ => none

/-- The bytes of a text with escapes. The octal digits of an escape follow a zero if `zero` says so. -/
def unescape (zero : Bool) : Nat → List Char → List UInt8
  | 0, _ => []
  | _, [] => []
  | n + 1, '\\' :: c :: rest =>
    match simpleEscape? c with
    | some b => b :: unescape zero n rest
    | none =>
      if c == '0' && zero then
        let (b, after) := octal rest
        b :: unescape zero n after
      else if (octalDigit? c).isSome && !zero then
        let (b, after) := octal (c :: rest)
        b :: unescape zero n after
      else 92 :: (bytesOf c ++ unescape zero n rest)
  | n + 1, c :: rest => bytesOf c ++ unescape zero n rest

def toBytes (l : List UInt8) : ByteArray := ⟨l.toArray⟩

/-- Arguments with blanks between them; the shell's own `echo` reads escapes. -/
def echo (escapes : Bool) (arguments : List String) : ByteArray :=
  let (arguments, ending) : List String × List UInt8 :=
    match arguments with
    | "-n" :: rest => (rest, [])
    | _ => (arguments, [10])
  let text := " ".intercalate arguments
  toBytes ((if escapes then unescape true (text.length + 1) text.toList
    else text.toUTF8.toList) ++ ending)

/-- The bytes of a format whose directives take the arguments in turn, and the arguments left. -/
def formatOnce : Nat → List Char → List String → List UInt8 × List String
  | 0, _, arguments => ([], arguments)
  | _, [], arguments => ([], arguments)
  | n + 1, '%' :: c :: rest, arguments =>
    if c == '%' then
      let (bytes, left) := formatOnce n rest arguments
      (37 :: bytes, left)
    else
      let argument := arguments.head?.getD (if c == 'd' || c == 'i' then "0" else "")
      let (bytes, left) := formatOnce n rest (arguments.drop 1)
      let shown :=
        if c == 'b' then unescape true (argument.length + 1) argument.toList
        else argument.toUTF8.toList
      (shown ++ bytes, left)
  | n + 1, '\\' :: c :: rest, arguments =>
    let (here, after) :=
      match simpleEscape? c with
      | some b => ([b], rest)
      | none =>
        if (octalDigit? c).isSome then
          let (b, after) := octal (c :: rest)
          ([b], after)
        else (92 :: bytesOf c, rest)
    let (bytes, left) := formatOnce n after arguments
    (here ++ bytes, left)
  | n + 1, c :: rest, arguments =>
    let (bytes, left) := formatOnce n rest arguments
    (bytesOf c ++ bytes, left)

/-- The format is used again as long as arguments are left. -/
def format : Nat → String → List String → List UInt8
  | 0, _, _ => []
  | n + 1, f, arguments =>
    let (bytes, left) := formatOnce (f.length + 1) f.toList arguments
    if left.isEmpty || left.length == arguments.length then bytes
    else bytes ++ format n f left

/-- The lines of some bytes, each with its line break. -/
def splitLines : List UInt8 → List (List UInt8)
  | [] => []
  | b :: rest =>
    if b == 10 then [b] :: splitLines rest
    else
      match splitLines rest with
      | [] => [[b]]
      | line :: more => (b :: line) :: more

/-- A count given as `-3`, `-n 3` or `-n3`, by the letter of its unit, and the operands. -/
def countOption (arguments : List String) : Char × Nat × List String :=
  match arguments with
  | [] => ('n', 10, [])
  | first :: rest =>
    match first.toList with
    | '-' :: 'n' :: [] => ('n', ((rest.head?.bind String.toNat?).getD 10), rest.drop 1)
    | '-' :: 'c' :: [] => ('c', ((rest.head?.bind String.toNat?).getD 10), rest.drop 1)
    | '-' :: 'n' :: ds => ('n', ((String.ofList ds).toNat?).getD 10, rest)
    | '-' :: 'c' :: ds => ('c', ((String.ofList ds).toNat?).getD 10, rest)
    | '-' :: d :: ds =>
      if d.isDigit then ('n', ((String.ofList (d :: ds)).toNat?).getD 10, rest)
      else ('n', 10, arguments)
    | _ => ('n', 10, arguments)

/-- What a fault is called without its number. -/
def faultName (f : DiskFault) : String :=
  String.ofList (f.text.toList.takeWhile (· != '(')) |>.trimAsciiEnd |>.toString

def faultOf (program path : String) (f : DiskFault) : String :=
  program ++ ": " ++ path ++ ": " ++ faultName f ++ "\n"

/-- Reads the operands one after another, or the input if there are none. -/
def readOperands (program : String) (d : Disk) (input : ByteArray) (paths : List String)
    (f : List UInt8 → List UInt8) : Effects :=
  if paths.isEmpty then { out := toBytes (f input.toList), disk := d }
  else
    paths.foldl (fun e path =>
      if path == "-" then { e with out := e.out ++ toBytes (f input.toList) }
      else
        match d.readBytes path with
        | .ok bytes => { e with out := e.out ++ toBytes (f bytes.toList) }
        | .error fault =>
          { e with err := e.err ++ (faultOf program path fault).toUTF8, status := 1 })
      { disk := d }

def takeFirst (unit : Char) (count : Nat) (bytes : List UInt8) : List UInt8 :=
  if unit == 'c' then bytes.take count else ((splitLines bytes).take count).flatten

def takeLast (unit : Char) (count : Nat) (bytes : List UInt8) : List UInt8 :=
  if unit == 'c' then bytes.drop (bytes.length - count)
  else
    let lines := splitLines bytes
    (lines.drop (lines.length - count)).flatten

def isSpace (b : UInt8) : Bool := b == 32 || (9 ≤ b && b ≤ 13)

/-- The number of words, where `inside` says that one is going on. -/
def countWords : Bool → List UInt8 → Nat
  | _, [] => 0
  | inside, b :: rest =>
    if isSpace b then countWords false rest
    else (if inside then 0 else 1) + countWords true rest

def wordCount (d : Disk) (input : ByteArray) (arguments : List String) : Effects :=
  let (unit, paths) :=
    match arguments with
    | "-l" :: rest => ("l", rest)
    | "-c" :: rest => ("c", rest)
    | "-w" :: rest => ("w", rest)
    | _ => ("", arguments)
  let counts (bytes : List UInt8) : String :=
    let l := bytes.count 10
    let w := countWords false bytes
    let c := bytes.length
    if unit == "l" then toString l
    else if unit == "w" then toString w
    else if unit == "c" then toString c
    else toString l ++ " " ++ toString w ++ " " ++ toString c
  match paths with
  | [] => .ofText d (counts input.toList ++ "\n")
  | path :: _ =>
    match d.readBytes path with
    | .ok bytes => .ofText d (counts bytes.toList ++ " " ++ path ++ "\n")
    | .error fault => { err := (faultOf "wc" path fault).toUTF8, status := 1, disk := d }

def isOption (s : String) : Bool :=
  match s.toList with
  | '-' :: _ :: _ => true
  | _ => false

def operands (arguments : List String) : List String :=
  arguments.filter fun s => !isOption s

/-- What a change comes to; one that fails leaves the disk as it was. -/
def orElse {ε : Type} (d : Disk) : Except ε Disk → Except ε Unit × Disk
  | .ok d => (.ok (), d)
  | .error fault => (.error fault, d)

def changeEach (d : Disk) (paths : List String)
    (change : Disk → String → Except String Unit × Disk) : Effects :=
  paths.foldl (fun e path =>
    match change e.disk path with
    | (.ok (), d) => { e with disk := d }
    | (.error message, d) =>
      { e with err := e.err ++ (message ++ "\n").toUTF8, status := 1, disk := d }) { disk := d }

/-- Makes a directory; the directories above it that were made stay even if that fails. -/
def makeOne (parents : Bool) (d : Disk) (path : String) : Except String Unit × Disk :=
  let (result, d) :=
    if parents then d.makeDirectories path else orElse d (d.makeDirectory path)
  (result.mapError fun fault =>
    "mkdir: cannot create directory '" ++ path ++ "': " ++ faultName fault, d)

def touchOne (d : Disk) (path : String) : Except String Disk :=
  match d.find path with
  | .ok _ => .ok d
  | .error _ =>
    match d.writeBytes path ByteArray.empty with
    | .ok d => .ok d
    | .error fault => .error ("touch: cannot touch '" ++ path ++ "': " ++ faultName fault)

def removeOne (force recursive : Bool) (d : Disk) (path : String) : Except String Disk :=
  match d.find path with
  | .ok (_, .directory) =>
    if recursive then (d.remove path).mapError DiskFault.text
    else .error ("rm: cannot remove '" ++ path ++ "': Is a directory")
  | .ok _ => (d.remove path).mapError DiskFault.text
  | .error fault =>
    if force then .ok d else .error ("rm: cannot remove '" ++ path ++ "': " ++ faultName fault)

/-- Copies a file to a path or into a directory. -/
def copyOne (program : String) (d : Disk) (source target : String) : Except String Disk :=
  match d.readBytes source with
  | .error fault => .error (program ++ ": cannot stat '" ++ source ++ "': " ++ faultName fault)
  | .ok bytes =>
    let target :=
      if d.isDirectory target then
        FilePath.join target ((FilePath.fileName? source).getD source)
      else target
    match d.writeBytes target bytes with
    | .ok d => .ok d
    | .error fault =>
      .error (program ++ ": cannot create regular file '" ++ target ++ "': " ++ faultName fault)

def copy (d : Disk) (arguments : List String) : Effects :=
  match operands arguments with
  | [source, target] => changeEach d [source] fun d s => orElse d (copyOne "cp" d s target)
  | _ => .ofFault d "cp: missing file operand"

def move (d : Disk) (arguments : List String) : Effects :=
  match operands arguments with
  | [source, target] => changeEach d [source] fun d s =>
      orElse d (copyOne "mv" d s target >>= fun d => removeOne true false d s)
  | _ => .ofFault d "mv: missing file operand"

def has (arguments : List String) (c : Char) : Bool :=
  arguments.any fun s => isOption s && s.toList.contains c

/-- The names in a directory, without those that begin with a point, or the path of a file. -/
def listOne (d : Disk) (path : String) : Except String String :=
  match d.find path with
  | .ok (place, .directory) =>
    match d.list place with
    | .error fault => .error ("ls: cannot open directory '" ++ path ++ "': " ++ faultName fault)
    | .ok listing =>
      let names := listing.map (·.1)
      .ok (String.join ((names.filter fun s => s.toList.head? != some '.').map (· ++ "\n")))
  | .ok _ => .ok (path ++ "\n")
  | .error fault => .error ("ls: cannot access '" ++ path ++ "': " ++ faultName fault)

def list (d : Disk) (arguments : List String) : Effects :=
  let path := (operands arguments).head?.getD "."
  match listOne d path with
  | .ok text => .ofText d text
  | .error message => { Effects.ofFault d message with status := 2 }

def compare (op : String) (a b : Int) : Bool :=
  match op with
  | "-eq" => a == b
  | "-ne" => a != b
  | "-lt" => a < b
  | "-le" => a ≤ b
  | "-gt" => b < a
  | "-ge" => b ≤ a
  | _ => false

def isExecutable (d : Disk) (path : String) : Bool :=
  match d.find path with
  | .ok (_, .file _ executable) => executable
  | .ok _ => true
  | .error _ => false

/-- A condition on texts, numbers and files. -/
def holds (d : Disk) : List String → Bool
  | [] => false
  | [s] => s != ""
  | ["!", s] => s == ""
  | [op, s] =>
    match op with
    | "-n" => s != ""
    | "-z" => s == ""
    | "-f" => d.isFile s
    | "-d" => d.isDirectory s
    | "-e" => d.isFile s || d.isDirectory s
    | "-r" | "-w" => d.isFile s || d.isDirectory s
    | "-x" => isExecutable d s
    | "-s" => match d.readBytes s with
      | .ok bytes => bytes.size != 0
      | .error _ => false
    | _ => false
  | [a, op, b] =>
    if a == "!" then !holds d [op, b]
    else
      match op with
      | "=" | "==" => a == b
      | "!=" => a != b
      | _ =>
        match a.toInt?, b.toInt? with
        | some x, some y => compare op x y
        | _, _ => false
  | "!" :: rest => !holds d rest
  | _ => false

def test (d : Disk) (arguments : List String) : Effects :=
  .ofStatus d (if holds d arguments then 0 else 1)

def basename (path : String) : String :=
  (FilePath.fileName? path).getD path

def dirname (path : String) : String :=
  match FilePath.directory? path with
  | some "" => "."
  | some above => above
  | none => if FilePath.isAbsolute path then "/" else "."

def placeText (place : Place) : String :=
  "/" ++ "/".intercalate place

/-- Runs a program; a shell started so is asked to do nothing. -/
def runUtility (u : Utility) (escapes : Bool) (d : Disk) (bindings : List (String × String))
    (input : ByteArray) (arguments : List String) : Effects :=
  match u with
  | .basename => .ofText d (basename (arguments.head?.getD "") ++ "\n")
  | .cat => readOperands "cat" d input (operands arguments) id
  | .copy => copy d arguments
  | .dirname => .ofText d (dirname (arguments.head?.getD "") ++ "\n")
  | .echo => { out := echo escapes arguments, disk := d }
  | .env => .ofText d (String.join (bindings.map fun v => v.1 ++ "=" ++ v.2 ++ "\n"))
  | .fail => .ofStatus d 1
  | .head =>
    let (unit, count, paths) := countOption arguments
    readOperands "head" d input paths (takeFirst unit count)
  | .list => list d arguments
  | .makeDirectory => changeEach d (operands arguments) (makeOne (has arguments 'p'))
  | .move => move d arguments
  | .printf =>
    match arguments with
    | [] => { err := "printf: usage: printf format [arg ...]\n".toUTF8, status := 2, disk := d }
    | f :: rest => { out := toBytes (format (rest.length + 1) f rest), disk := d }
  | .pwd => .ofText d (placeText d.here ++ "\n")
  | .remove =>
    changeEach d (operands arguments) fun d path =>
      orElse d (removeOne (has arguments 'f') (has arguments 'r' || has arguments 'R') d path)
  | .shell => .ofStatus d 0
  | .sleep => .ofStatus d 0
  | .succeed => .ofStatus d 0
  | .tail =>
    let (unit, count, paths) := countOption arguments
    readOperands "tail" d input paths (takeLast unit count)
  | .test => test d arguments
  | .touch => changeEach d (operands arguments) fun d path => orElse d (touchOne d path)
  | .wordCount => wordCount d input arguments

end Shell

end AppSpec
