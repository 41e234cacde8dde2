import AppSpec.Setting

/-!
# Validation rules

A rule is named and looked up in a table, or written out as a mapping. A parameter behind a colon
takes the place of the value that the table gives; a name that the table lacks is kept as it is.
-/

namespace AppSpec

inductive Rule where
  | builtin (kind message : String) (value : Option Value) (endpoint : Option String)
      (minScore : Option Nat)
  | custom (rule : String)
  | inline (body : Value.Mapping)
deriving DecidableEq, Repr, Inhabited

namespace Rule

/-- Name, kind and message of each known rule. -/
def table : List (String × String × String) :=
  [("required", "required", "This field is required"),
    ("email", "email", "Please enter a valid email address"),
    ("phone", "phone", "Please enter a valid phone number"),
    ("strong", "password_strength", "Password is not strong enough"),
    ("registered", "exists_check", "This \x7bfield\x7d is not registered"),
    ("unique", "unique_check", "This \x7bfield\x7d is already taken"),
    ("min_length", "min_length", "Must be at least 6 characters"),
    ("max_length", "max_length", "Must be less than 255 characters"),
    ("numeric", "numeric", "Must be a valid number"),
    ("positive", "positive", "Must be a positive number"),
    ("future_date", "future_date", "Date must be in the future"),
    ("past_date", "past_date", "Date must be in the past"),
    ("credit_card", "credit_card", "Please enter a valid credit card number"),
    ("cvv", "cvv", "Please enter a valid CVV"),
    ("postal_code", "postal_code", "Please enter a valid postal code"),
    ("url", "url", "Please enter a valid URL"),
    ("ip_address", "ip_address", "Please enter a valid IP address")]

def names : List String :=
  table.map Prod.fst

def defaultValue? (name : String) : Option Value :=
  if name == "min_length" then some (.int 6)
  else if name == "max_length" then some (.int 255)
  else none

def endpoint? (name : String) : Option String :=
  if name == "registered" then some "/api/validate/registered"
  else if name == "unique" then some "/api/validate/unique"
  else none

def named? (name : String) : Option Rule :=
  (table.lookup name).map fun (kind, message) =>
    .builtin kind message (defaultValue? name) (endpoint? name)
      (if name == "strong" then some 3 else none)

/-- The text before and after the first colon. -/
def splitColon? (cs : List Char) : Option (String × String) :=
  match cs.dropWhile (· != ':') with
  | _ :: rest => some (String.ofList (cs.takeWhile (· != ':')), String.ofList rest)
  | [] => none

/-- The rule that a text names. -/
def resolve (rule : String) : Rule :=
  let plain := (named? rule).getD (.custom rule)
  match splitColon? rule.toList with
  | some (name, param) =>
    match named? name with
    | some (.builtin kind message _ endpoint minScore) =>
      .builtin kind message (some (.string param)) endpoint minScore
    | _ => plain
  | none => plain

def ofValue? : Value → Option Rule
  | .string s => some (resolve s)
  | .map m => some (.inline m)
  | _ => none

/-- The rules of a field: one, or a list of them. -/
def readAll : Option Value → List Rule
  | some (.list items) => items.filterMap ofValue?
  | some v => (ofValue? v).toList
  | none => []

def toValue : Rule → Value
  | .builtin kind message value endpoint minScore =>
    Record.toValue ([("type", .string kind), ("message", .string message)] ++
      (value.map fun v => ("value", v)).toList ++
      (endpoint.map fun e => ("endpoint", .string e)).toList ++
      (minScore.map fun n => ("min_score", .int n)).toList)
  | .custom rule => .map [(.string "rule", .string rule)]
  | .inline body => .map body

end Rule

end AppSpec
