/-!
# File paths

A path is text with slashes. Its components leave out empty pieces and single points, save a point
that the path begins with; `..` is a component of its own and is not resolved.
-/

namespace AppSpec.FilePath

inductive Component where
  | root
  | current
  | parent
  | name (s : String)
deriving DecidableEq, Repr, Inhabited

def splitSlash : List Char → List (List Char)
  | [] => [[]]
  | c :: rest =>
    match splitSlash rest with
    | piece :: pieces => if c = '/' then [] :: piece :: pieces else (c :: piece) :: pieces
    | [] => [[c]]

def pieces (path : String) : List String :=
  (splitSlash path.toList).map String.ofList

def joinPieces (pieces : List String) : String :=
  "/".intercalate pieces

/-- A piece that is no component. -/
def isIdle (piece : String) : Bool :=
  piece == "" || piece == "."

def isAbsolute (path : String) : Bool :=
  path.toList.head? == some '/'

def ofPiece (piece : String) : Component :=
  if piece == ".." then .parent else .name piece

/-- The components of pieces behind the beginning of a path. -/
def innerComponents (pieces : List String) : List Component :=
  (pieces.filter (!isIdle ·)).map ofPiece

def components (path : String) : List Component :=
  match pieces path with
  | "" :: rest => if isAbsolute path then .root :: innerComponents rest else innerComponents rest
  | "." :: rest => .current :: innerComponents rest
  | rest => innerComponents rest

/-- Components come in the order of their kinds, and names in that of their bytes. -/
def Component.key : Component → Nat × String
  | .root => (0, "")
  | .current => (1, "")
  | .parent => (2, "")
  | .name s => (3, s)

def Component.order : Component → Component → Ordering :=
  compareLex (compareOn fun c => c.key.1) (compareOn fun c => c.key.2)

/-- The order of paths, component by component. -/
def order (a b : String) : Ordering :=
  List.compareLex Component.order (components a) (components b)

/-- The last component if it is a name. -/
def fileName? (path : String) : Option String :=
  match (components path).getLast? with
  | some (.name s) => some s
  | _ => none

/-- The components without the last one; a root or an empty path has no parent. -/
def parent? (path : String) : Option (List Component) :=
  match (components path).getLast? with
  | none | some .root => none
  | some _ => some (components path).dropLast

/-- The pieces behind a leading point or the root, without idle ones at the end. -/
def trimEnd (pieces : List String) : List String :=
  (pieces.reverse.dropWhile isIdle).reverse

/-- The text of a path without its last component, if it has a parent. -/
def directory? (path : String) : Option String :=
  if (parent? path).isNone then none
  else
    match pieces path with
    | lead :: rest =>
      if lead == "" then
        let above := trimEnd (trimEnd rest).dropLast
        some (if above.isEmpty then "/" else joinPieces ("" :: above))
      else
        match trimEnd rest with
        | [] => some ""
        | inner =>
          let above := trimEnd inner.dropLast
          some (joinPieces (lead :: above))
    | [] => none

/-- The path says that it names a directory. -/
def endsInDirectory (path : String) : Bool :=
  match (pieces path).getLast? with
  | some piece => isIdle piece || piece == ".."
  | none => false

/-- The text before and after the last point of a name. -/
def splitLastPoint? (name : String) : Option (String × String) :=
  let reversed := name.toList.reverse
  match reversed.dropWhile (· != '.') with
  | _ :: before =>
    some (String.ofList before.reverse, String.ofList (reversed.takeWhile (· != '.')).reverse)
  | [] => none

/-- What follows the last point of the file name, unless the name begins with that point. -/
def extension? (path : String) : Option String := do
  let name ← fileName? path
  let (before, after) ← splitLastPoint? name
  if before == "" then none else some after

/-- The file name without its extension. -/
def stem (path : String) : String :=
  match fileName? path with
  | none => ""
  | some name =>
    match splitLastPoint? name with
    | some (before, _) => if before == "" then name else before
    | none => name

/-- `path` seen from `base`; an absolute path stands for itself. -/
def join (base path : String) : String :=
  if isAbsolute path || base == "" then path
  else if base.toList.getLast? == some '/' then base ++ path
  else base ++ "/" ++ path

/-- The pieces left after the components `start`, none if the pieces begin otherwise. -/
def dropComponents : List String → List Component → Option (List String)
  | rest, [] => some rest
  | [], _ :: _ => none
  | piece :: rest, c :: start =>
    if isIdle piece then dropComponents rest (c :: start)
    else if ofPiece piece = c then dropComponents rest start
    else none

def trimPieces (pieces : List String) : List String :=
  ((pieces.dropWhile isIdle).reverse.dropWhile isIdle).reverse

/-- The path below `base`, if it is at or below it. -/
def below? (path base : String) : Option String :=
  match components path, components base with
  | _, [] =>
    let (lead, rest) := match pieces path with
      | p :: rest => ([p], rest)
      | [] => ([], [])
    some (joinPieces (lead ++ (rest.reverse.dropWhile isIdle).reverse))
  | .root :: _, .root :: inner | .current :: _, .current :: inner =>
    (dropComponents (pieces path).tail inner).map fun rest => joinPieces (trimPieces rest)
  | .root :: _, _ | .current :: _, _ => none
  | _, start => (dropComponents (pieces path) start).map fun rest => joinPieces (trimPieces rest)

/-- A path as shown to the author: below the root if it is there, otherwise whole. -/
def display (path root : String) : String :=
  (below? path root).getD path

end AppSpec.FilePath
