/-!
# Targets

What a build can be asked for, and the contracts each target stands for. A contract is what one
generator fulfils.
-/

namespace AppSpec

inductive Contract where
  | backend
  | frontend
  | mobileIos
  | mobileAndroid
  | desktop
deriving DecidableEq, Repr, Inhabited

namespace Contract

/-- All contracts in the order in which they are built. -/
def all : List Contract := [.backend, .frontend, .mobileIos, .mobileAndroid, .desktop]

def name : Contract → String
  | .backend => "backend"
  | .frontend => "frontend"
  | .mobileIos => "mobile-ios"
  | .mobileAndroid => "mobile-android"
  | .desktop => "desktop"

end Contract

inductive Target where
  | all
  | backend
  | frontend
  | mobile
  | ios
  | android
  | desktop
  | windows
  | macos
  | linux
deriving DecidableEq, Repr, Inhabited

/-- A text that names no target or environment. -/
inductive UnknownName where
  | target (text : String)
  | environment (text : String)
deriving DecidableEq, Repr, Inhabited

namespace Target

def every : List Target :=
  [.all, .backend, .frontend, .mobile, .ios, .android, .desktop, .windows, .macos, .linux]

def name : Target → String
  | .all => "all"
  | .backend => "backend"
  | .frontend => "frontend"
  | .mobile => "mobile"
  | .ios => "ios"
  | .android => "android"
  | .desktop => "desktop"
  | .windows => "windows"
  | .macos => "macos"
  | .linux => "linux"

/-- The contracts a target stands for, in the order in which they are built. -/
def contracts : Target → List Contract
  | .all => Contract.all
  | .backend => [.backend]
  | .frontend => [.frontend]
  | .mobile => [.mobileIos, .mobileAndroid]
  | .ios => [.mobileIos]
  | .android => [.mobileAndroid]
  | .desktop | .windows | .macos | .linux => [.desktop]

/-- Names are read in any ASCII case. -/
def ofName? (s : String) : Except UnknownName Target :=
  match every.find? fun t => t.name == s.map Char.toLower with
  | some t => .ok t
  | none => .error (.target s)

end Target

inductive Environment where
  | development
  | production
deriving DecidableEq, Repr, Inhabited

namespace Environment

def name : Environment → String
  | .development => "development"
  | .production => "production"

def ofName? (s : String) : Except UnknownName Environment :=
  match s.map Char.toLower with
  | "development" | "dev" => .ok .development
  | "production" | "prod" => .ok .production
  | _ => .error (.environment s)

end Environment

namespace UnknownName

def text : UnknownName → String
  | .target s =>
    "unknown target '" ++ s ++ "' (expected one of: " ++
      ", ".intercalate (Target.every.map Target.name) ++ ")"
  | .environment s =>
    "unknown environment '" ++ s ++ "' (expected one of: development, production)"

end UnknownName

end AppSpec
