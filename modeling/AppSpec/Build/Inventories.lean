import AppSpec.Build.Generator
import AppSpec.Disk.Writing
import AppSpec.Inventory.Basic

/-!
# Inventory generators

For each contract one generator, which writes the contract's inventory.
-/

namespace AppSpec.Inventory

/-- Why an inventory was not written. -/
inductive Fault where
  | noText (contract : Contract) (cause : Json.Fault)
  | write (cause : WriteFault)
deriving DecidableEq, Repr, Inhabited

def Fault.text : Fault → String
  | .noText c cause => "failed to serialize " ++ c.name ++ " inventory: " ++ cause.text
  | .write cause => cause.text

/-- Writes the inventory of a contract unless its file holds it already. -/
def write (d : Disk) (p : Project) (c : Contract) (env : Environment) (a : Application) :
    Except Fault Generated × Disk :=
  match Inventory.text p c env a with
  | .error cause => (.error (.noText c cause), d)
  | .ok content =>
    match d.update (path p c) content with
    | (.error cause, d) => (.error (.write cause), d)
    | (.ok true, d) => (.ok ⟨[path p c], []⟩, d)
    | (.ok false, d) => (.ok ⟨[], [path p c]⟩, d)

def generator (c : Contract) : Generator :=
  ⟨c, fun d p a env =>
    match write d p c env a with
    | (.ok files, d) => (.done files, d)
    | (.error f, d) => (.failed f.text, d)⟩

/-- The inventory generators of all contracts. -/
def registry : Registry :=
  Registry.ofList (Contract.all.map generator)

end AppSpec.Inventory
