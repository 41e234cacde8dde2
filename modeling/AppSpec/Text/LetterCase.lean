import AppSpec.Text.CharacterTable

/-!
# Lower case

The lower case of a text, letter by letter, with the two exceptions that Unicode makes: the capital
I with a dot becomes two characters, and a capital sigma at the end of a word becomes a final one.
-/

namespace AppSpec.Text

def lowercaseChar (c : Char) : Char :=
  if c.toNat < 0x80 then c.toLower
  else
    match lowercaseRanges.find? fun (first, last, step, _) =>
        first ≤ c.toNat && c.toNat ≤ last && (c.toNat - first) % step == 0 with
    | some (_, _, _, offset) => Char.ofNat (c.toNat + offset).toNat
    | none => c

/-- The first character that is not case-ignorable has case. -/
def meetsCased (cs : List Char) : Bool :=
  match cs.dropWhile (inRanges caseIgnorableRanges) with
  | c :: _ => inRanges casedRanges c
  | [] => false

/-- A sigma is final when a cased letter stands before it and none after it. -/
def lowercaseAfter (before : List Char) : List Char → List Char
  | [] => []
  | c :: rest =>
    let lower :=
      if c = 'Σ' then
        [if meetsCased before && !meetsCased rest then 'ς' else 'σ']
      else if c = 'İ' then ['i', '\u0307']
      else [lowercaseChar c]
    lower ++ lowercaseAfter (c :: before) rest

def lowercase (s : String) : String :=
  String.ofList (lowercaseAfter [] s.toList)

end AppSpec.Text
