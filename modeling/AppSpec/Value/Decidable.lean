import AppSpec.Value.Basic

/-!
# Equality of values

Whether two values are the same can be decided, entry by entry and in order.
-/

namespace AppSpec.Value

mutual

def decEq : (a b : Value) → Decidable (a = b)
  | .null, .null => isTrue rfl
  | .bool a, .bool b => if h : a = b then isTrue (by rw [h]) else isFalse (by simpa using h)
  | .int a, .int b => if h : a = b then isTrue (by rw [h]) else isFalse (by simpa using h)
  | .float a, .float b => if h : a = b then isTrue (by rw [h]) else isFalse (by simpa using h)
  | .string a, .string b => if h : a = b then isTrue (by rw [h]) else isFalse (by simpa using h)
  | .list as, .list bs =>
    match decEqItems as bs with
    | isTrue h => isTrue (by rw [h])
    | isFalse h => isFalse (by simpa using h)
  | .map as, .map bs =>
    match decEqEntries as bs with
    | isTrue h => isTrue (by rw [h])
    | isFalse h => isFalse (by simpa using h)
  | .tagged s a, .tagged t b =>
    if hs : s = t then
      match decEq a b with
      | isTrue h => isTrue (by rw [hs, h])
      | isFalse h => isFalse (by simp [h])
    else isFalse (by simp [hs])
  | .null, .bool _ | .null, .int _ | .null, .float _ | .null, .string _ | .null, .list _
  | .null, .map _ | .null, .tagged _ _
  | .bool _, .null | .bool _, .int _ | .bool _, .float _ | .bool _, .string _ | .bool _, .list _
  | .bool _, .map _ | .bool _, .tagged _ _
  | .int _, .null | .int _, .bool _ | .int _, .float _ | .int _, .string _ | .int _, .list _
  | .int _, .map _ | .int _, .tagged _ _
  | .float _, .null | .float _, .bool _ | .float _, .int _ | .float _, .string _ | .float _, .list _
  | .float _, .map _ | .float _, .tagged _ _
  | .string _, .null | .string _, .bool _ | .string _, .int _ | .string _, .float _
  | .string _, .list _ | .string _, .map _ | .string _, .tagged _ _
  | .list _, .null | .list _, .bool _ | .list _, .int _ | .list _, .float _ | .list _, .string _
  | .list _, .map _ | .list _, .tagged _ _
  | .map _, .null | .map _, .bool _ | .map _, .int _ | .map _, .float _ | .map _, .string _
  | .map _, .list _ | .map _, .tagged _ _
  | .tagged _ _, .null | .tagged _ _, .bool _ | .tagged _ _, .int _ | .tagged _ _, .float _
  | .tagged _ _, .string _ | .tagged _ _, .list _ | .tagged _ _, .map _ => isFalse (by simp)

def decEqItems : (as bs : List Value) → Decidable (as = bs)
  | [], [] => isTrue rfl
  | [], _ :: _ => isFalse (by simp)
  | _ :: _, [] => isFalse (by simp)
  | a :: as, b :: bs =>
    match decEq a b, decEqItems as bs with
    | isTrue h, isTrue hs => isTrue (by rw [h, hs])
    | isFalse h, _ => isFalse (by simp [h])
    | _, isFalse hs => isFalse (by simp [hs])

def decEqEntries : (as bs : List (Value × Value)) → Decidable (as = bs)
  | [], [] => isTrue rfl
  | [], _ :: _ => isFalse (by simp)
  | _ :: _, [] => isFalse (by simp)
  | (k, v) :: as, (l, w) :: bs =>
    match decEq k l, decEq v w, decEqEntries as bs with
    | isTrue hk, isTrue hv, isTrue hs => isTrue (by rw [hk, hv, hs])
    | isFalse h, _, _ => isFalse (by simp [h])
    | _, isFalse h, _ => isFalse (by simp [h])
    | _, _, isFalse h => isFalse (by simp [h])

end

instance : DecidableEq Value := decEq

end AppSpec.Value
