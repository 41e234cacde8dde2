import AppSpec.Text.Blank
import AppSpec.Text.Quoted
import AppSpec.Double.Layout
import AppSpec.Toml.Table
import AppSpec.Version

/-!
# Project configuration

The settings of a project: its name, version and description, where its files are, and how long the
watch waits between builds. Keys that are not settings are passed over.
-/

namespace AppSpec

structure Config where
  name : String
  version : Version := Version.initial
  description : Option String := none
  flowsDir : String := "src/flows"
  outputDir : String := "dist"
  /-- Least time between two builds of the watch, in milliseconds. -/
  debounce : Nat := 1000
  service : Option String := none
deriving DecidableEq, Repr, Inhabited

namespace Config

/-- The name of the configuration file in a project's root. -/
def fileName : String := "flowc.toml"

def minDebounce : Nat := 1000

/-- Why a table is no configuration. -/
inductive Problem where
  | malformed (p : Toml.Problem)
  | wrongType (found expected : String)
  | wrongValue (found expected : String)
  | tooShort (length : Nat) (expected : String)
  | missing (field : String)
  | badVersion (text : String)
  | integerOverflow
  | floatOverflow
deriving DecidableEq, Repr, Inhabited

def Problem.text : Problem → String
  | .malformed p => p.text
  | .wrongType found expected => "invalid type: " ++ found ++ ", expected " ++ expected
  | .wrongValue found expected => "invalid value: " ++ found ++ ", expected " ++ expected
  | .tooShort length expected => "invalid length " ++ toString length ++ ", expected " ++ expected
  | .missing field => "missing field \x60" ++ field ++ "\x60"
  | .badVersion text => Version.invalidText text
  | .integerOverflow => "integer number overflowed"
  | .floatOverflow => "floating-point number overflowed"

/-- Why a well-formed configuration is refused. -/
inductive Refusal where
  | emptyName
  | nameStart (name : String)
  | nameChars (name : String)
  | shortDebounce (given : Nat)
deriving DecidableEq, Repr, Inhabited

def Refusal.text : Refusal → String
  | .emptyName => "invalid project name '': name cannot be empty"
  | .nameStart name => "invalid project name '" ++ name ++ "': name must start with a letter"
  | .nameChars name =>
    "invalid project name '" ++ name ++ "': use only letters, digits, '-' and '_'"
  | .shortDebounce given =>
    "debounce_ms must be at least " ++ toString minDebounce ++ ", got " ++ toString given

inductive Fault where
  | unreadable (problem : Problem) (span : Span)
  | refused (refusal : Refusal) (span : Option Span)
deriving DecidableEq, Repr, Inhabited

/-! ## Reading the settings -/

/-- A setting's value or what is wrong with it, where that is not the place of the value itself. -/
abbrev Reading (α : Type) := Except (Problem × Span) α

/-- What a message calls a value of the wrong type. -/
def foundName : Toml.Node → String
  | .scalar s _ =>
    match s with
    | .string s => "string " ++ Text.quoted s
    | .integer n =>
      let width :=
        if -(Nat.pow 2 63 : Int) ≤ n && n < Nat.pow 2 64 then ""
        else if n < Nat.pow 2 127 then " as i128" else " as u128"
      "integer \x60" ++ toString n ++ "\x60" ++ width
    | .float x => "floating point \x60" ++ Double.Layout.message.text x ++ "\x60"
    | .boolean b => "boolean \x60" ++ (if b then "true" else "false") ++ "\x60"
    | .datetime => "map"
    | .overflow _ => ""
  | .array _ _ _ => "sequence"
  | .table _ _ _ => "map"

def wrongType {α : Type} (n : Toml.Node) (expected : String) : Reading α :=
  match n with
  | .scalar (.overflow false) span => .error (.integerOverflow, span)
  | .scalar (.overflow true) span => .error (.floatOverflow, span)
  | n => .error (.wrongType (foundName n) expected, n.span)

def readText (expected : String) : Toml.Node → Reading String
  | .scalar (.string s) _ => .ok s
  | n => wrongType n expected

def readVersion (n : Toml.Node) : Reading Version := do
  let s ← readText "a string" n
  match Version.ofText? s with
  | some v => return v
  | none => throw (.badVersion s, n.span)

def readNatural (n : Toml.Node) : Reading Nat :=
  match n with
  | .scalar (.integer i) span =>
    if 0 ≤ i && i < Nat.pow 2 64 then .ok i.toNat
    else if -(Nat.pow 2 63 : Int) ≤ i && i < 0 then .error (.wrongValue (foundName n) "u64", span)
    else wrongType n "u64"
  | n => wrongType n "u64"

def sortedFields (f : Toml.Fields) : Toml.Fields :=
  f.mergeSort fun a b => a.1 ≤ b.1

mutual

/-- A value that is passed over still has to be one. -/
def readIgnored : Toml.Node → Reading Unit
  | .scalar (.overflow isFloat) span =>
    .error (if isFloat then .floatOverflow else .integerOverflow, span)
  | .scalar _ _ => .ok ()
  | .array items _ _ => readIgnoredItems items
  | .table entries _ _ => readIgnoredFields entries

def readIgnoredItems : List Toml.Node → Reading Unit
  | [] => .ok ()
  | n :: rest => do readIgnored n; readIgnoredItems rest

def readIgnoredFields : List (String × Toml.Node) → Reading Unit
  | [] => .ok ()
  | (_, n) :: rest => do readIgnored n; readIgnoredFields rest

end

/-- The settings of the project itself. -/
structure Identity where
  name : Option String := none
  version : Version := Version.initial
  description : Option String := none

def Identity.set (i : Identity) (key : String) (n : Toml.Node) : Reading Identity := do
  if key == "name" then return { i with name := some (← readText "a string" n) }
  else if key == "version" then return { i with version := ← readVersion n }
  else if key == "description" then
    return { i with description := some (← readText "a string" n) }
  else do
    readIgnored n
    return i

def fieldsInOrder : List String := ["name", "version", "description"]

def Identity.read (n : Toml.Node) : Reading Identity :=
  match n with
  | .table f _ span => do
    let i ← (sortedFields f).foldlM (fun i (k, n) => i.set k n) {}
    if i.name.isNone then throw (.missing "name", span)
    return i
  | .array items _ span => do
    let i ← (fieldsInOrder.zip items).foldlM (fun i (k, n) => i.set k n) ({} : Identity)
    let expected := "struct ProjectMeta with 3 elements"
    if items.length == 0 then throw (.tooShort 0 expected, span)
    if items.length < 3 then throw (.tooShort 2 expected, span)
    return i
  | n => wrongType n "struct ProjectMeta"

/-- Sets a setting of the build. -/
def setBuild (c : Config) (key : String) (n : Toml.Node) : Reading Config := do
  if key == "flows_dir" then return { c with flowsDir := ← readText "path string" n }
  else if key == "output_dir" then return { c with outputDir := ← readText "path string" n }
  else if key == "debounce_ms" then return { c with debounce := ← readNatural n }
  else if key == "service" then return { c with service := some (← readText "path string" n) }
  else do
    readIgnored n
    return c

def readBuild (c : Config) (n : Toml.Node) : Reading Config :=
  match n with
  | .table f _ _ => (sortedFields f).foldlM (fun c (k, n) => setBuild c k n) c
  | .array items _ _ =>
    (["flows_dir", "output_dir", "debounce_ms", "service"].zip items).foldlM
      (fun c (k, n) => setBuild c k n) c
  | n => wrongType n "struct BuildConfig"

/-- The settings that a table holds, looked at in the order of their keys. -/
def ofTable (f : Toml.Fields) : Reading Config := do
  let (c, identity) ← (sortedFields f).foldlM (fun (c, i) (k, n) => do
      if k == "build" then return (← readBuild c n, i)
      else if k == "project" then return (c, some (← Identity.read n))
      else do
        readIgnored n
        return (c, i)) (({ name := "" } : Config), (none : Option Identity))
  match identity with
  | none => throw (.missing "project", ⟨0, 0⟩)
  | some i =>
    return { c with name := i.name.getD "", version := i.version, description := i.description }

/-! ## What is refused -/

def isNameChar (c : Char) : Bool :=
  c.isAlphanum || c == '-' || c == '_'

/-- A name is a letter, then letters, digits, dashes and underscores. -/
def nameRefusal? (name : String) : Option Refusal :=
  match name.toList with
  | [] => some .emptyName
  | c :: rest =>
    if !c.isAlpha then some (.nameStart name)
    else if !rest.all isNameChar then some (.nameChars name)
    else none

/-- The byte at which a text first occurs in another. -/
def findText? (needle : List Char) : Nat → List Char → Option Nat
  | offset, [] => if needle.isEmpty then some offset else none
  | offset, c :: rest =>
    if needle.isPrefixOf (c :: rest) then some offset
    else findText? needle (offset + c.utf8Size) rest

/-- The first place where the value stands in double quotes, without them. -/
def valueSpan? (source : List Char) (value : String) : Option Span :=
  (findText? ('"' :: value.toList ++ ['"']) 0 source).map fun i =>
    ⟨i + 1, Text.byteLength value.toList⟩

/-- The first line that assigns to the key; its place is `offset`. -/
def keySpanFrom? (key : List Char) : Nat → List (List Char) → Option Span
  | _, [] => none
  | offset, line :: rest =>
    let content := Text.trimStart line
    if key.isPrefixOf content &&
        (Text.trimStart (content.drop key.length)).head? == some '=' then
      some ⟨offset + (Text.byteLength line - Text.byteLength content), Text.byteLength key⟩
    else keySpanFrom? key (offset + Text.byteLength line) rest

def keySpan? (source : List Char) (key : String) : Option Span :=
  keySpanFrom? key.toList 0 (Text.lines source)

def refusal? (c : Config) : Option Refusal :=
  match nameRefusal? c.name with
  | some r => some r
  | none => if c.debounce < minDebounce then some (.shortDebounce c.debounce) else none

def refusalSpan? (source : List Char) (c : Config) : Refusal → Option Span
  | .shortDebounce _ => keySpan? source "debounce_ms"
  | _ => valueSpan? source c.name

/-- The configuration in a text, if it is one and is not refused. -/
def parse (text : String) : Except Fault Config :=
  match Toml.parse text with
  | .error f => .error (.unreadable (.malformed f.problem) f.span)
  | .ok f =>
    match ofTable f with
    | .error (p, span) => .error (.unreadable p span)
    | .ok c =>
      match refusal? c with
      | some r => .error (.refused r (refusalSpan? text.toList c r))
      | none => .ok c

end Config

end AppSpec
