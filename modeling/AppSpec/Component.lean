import AppSpec.Value.Mapping

/-!
# Components

A page is a tree of components. Components nest through `children`, or through `body` where there
are no `children`, in lists or singly; a tag hides nothing. A walk of a tree has the components that
match handled, each before those inside it, whether it matches or not. The list of all components of
a tree is in the same order.
-/

namespace AppSpec.Component

open Value

section Visit

variable {σ : Type} (isMatch : Mapping → Bool) (handle : σ → Mapping → σ)

mutual

/-- Walks a tree; the handler takes each component that matches and hands on what it made of the
state. -/
def visit : σ → Value → σ
  | s, .list items => visitItems s items
  | s, .map entries =>
    let s := if isMatch entries then handle s entries else s
    match visitUnder "children" s entries with
    | some s => s
    | none => (visitUnder "body" s entries).getD s
  | s, .tagged _ v => visit s v
  | s, _ => s

def visitItems : σ → List Value → σ
  | s, [] => s
  | s, v :: rest => visitItems (visit s v) rest

/-- Walks what is under a key, if the key is there. -/
def visitUnder (key : String) : σ → List (Value × Value) → Option σ
  | _, [] => none
  | s, (k, v) :: rest => if Mapping.isKey key k then some (visit s v) else visitUnder key s rest

end

theorem visitItems_eq (s : σ) (items : List Value) :
    visitItems isMatch handle s items = items.foldl (visit isMatch handle) s := by
  induction items generalizing s with
  | nil => rfl
  | cons v rest ih => simp [visitItems, ih]

theorem visitUnder_eq (key : String) (s : σ) (m : Mapping) :
    visitUnder isMatch handle key s m = (Mapping.get? m key).map (visit isMatch handle s) := by
  induction m with
  | nil => simp [visitUnder, Mapping.get?]
  | cons e rest ih =>
    obtain ⟨k, v⟩ := e
    by_cases h : Mapping.isKey key k = true
    · simp [visitUnder, Mapping.get?, List.find?, h]
    · simpa [visitUnder, Mapping.get?, List.find?, h] using ih

end Visit

mutual

/-- Every component of a tree, each before those inside it. -/
def all : Value → List Mapping
  | .list items => allOfItems items
  | .map entries =>
    let inner :=
      match allUnder "children" entries with
      | some found => found
      | none => (allUnder "body" entries).getD []
    entries :: inner
  | .tagged _ v => all v
  | _ => []

def allOfItems : List Value → List Mapping
  | [] => []
  | v :: rest => all v ++ allOfItems rest

/-- The components under a key, if the key is there. -/
def allUnder (key : String) : List (Value × Value) → Option (List Mapping)
  | [] => none
  | (k, v) :: rest => if Mapping.isKey key k then some (all v) else allUnder key rest

end

theorem allUnder_eq (key : String) (m : Mapping) :
    allUnder key m = (Mapping.get? m key).map all := by
  induction m with
  | nil => simp [allUnder, Mapping.get?]
  | cons e rest ih =>
    obtain ⟨k, v⟩ := e
    by_cases h : Mapping.isKey key k = true
    · simp [allUnder, Mapping.get?, List.find?, h]
    · simpa [allUnder, Mapping.get?, List.find?, h] using ih

theorem allOfItems_eq (items : List Value) : allOfItems items = items.flatMap all := by
  induction items with
  | nil => rfl
  | cons v rest ih => simp [allOfItems, ih]

/-- The components of a tree that match, in the order in which a walk meets them. -/
def found (isMatch : Mapping → Bool) (tree : Value) : List Mapping :=
  visit isMatch (fun l c => l ++ [c]) [] tree

/-- Some component of the tree matches. -/
def occurs (isMatch : Mapping → Bool) (tree : Value) : Bool :=
  visit isMatch (fun _ _ => true) false tree

def textAt? (m : Mapping) (key : String) : Option String :=
  (m.get? key).bind asString?

/-- A component of that kind, or one written as a single key that holds its configuration. -/
def isNamed (name : String) (m : Mapping) : Bool :=
  textAt? m "component" == some name || m.contains name

/-- The configuration of a named component: the mapping under its name, or the component itself. -/
def config (name : String) (m : Mapping) : Mapping :=
  match m.get? name with
  | some (.map inner) => inner
  | _ => m

/-- The configurations of the components of that name in a tree. -/
def configs (name : String) (tree : Value) : List Mapping :=
  (found (isNamed name) tree).map (config name)

end AppSpec.Component
