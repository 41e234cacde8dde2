/-!
# Dates and times

A date, a time, or both with an optional offset. Only whether a text is one, and what is wrong with
it, is of use here.
-/

namespace AppSpec.Toml.Datetime

/-- What a text was taken for and what it should have held. -/
structure Fault where
  what : Option String := none
  expected : Option String := none
deriving DecidableEq, Repr

inductive Part where
  | digits (text : List Char)
  | mark (c : Char)
deriving DecidableEq, Repr

def parts : Nat → List Char → List Part
  | _, [] => []
  | 0, _ => []
  | fuel + 1, c :: rest =>
    if c.isDigit then
      .digits (c :: rest.takeWhile Char.isDigit) :: parts fuel (rest.dropWhile Char.isDigit)
    else .mark c :: parts fuel rest

def numberOf (ds : List Char) : Nat :=
  ds.foldl (fun n d => n * 10 + (d.toNat - '0'.toNat)) 0

def number (what expected : String) : List Part → Except Fault (List Char × List Part)
  | .digits ds :: rest => .ok (ds, rest)
  | _ => .error ⟨some what, some expected⟩

def mark (c : Char) (what expected : String) : List Part → Except Fault (List Part)
  | .mark d :: rest => if c = d then .ok rest else .error ⟨some what, some expected⟩
  | _ => .error ⟨some what, some expected⟩

def require (ok : Bool) (what expected : String) : Except Fault Unit :=
  if ok then .ok () else .error ⟨some what, some expected⟩

def isLeapYear (year : Nat) : Bool :=
  (year % 4 == 0 && year % 100 != 0) || year % 400 == 0

def monthLength (year month : Nat) : Nat :=
  if month == 2 then (if isLeapYear year then 29 else 28)
  else if month == 4 || month == 6 || month == 9 || month == 11 then 30
  else 31

/-- The month and day behind a year. -/
def dateTail (year : List Char) (ps : List Part) : Except Fault (List Part) := do
  let (month, ps) ← number "date" "month" ps
  let ps ← mark '-' "date" "\x60-\x60 (MM-DD)" ps
  let (day, ps) ← number "date" "day" ps
  require (year.length == 4) "date" "a four-digit year (YYYY)"
  require (month.length == 2) "date" "a two-digit month (MM)"
  require (day.length == 2) "date" "a two-digit day (DD)"
  let m := numberOf month
  require (1 ≤ m && m ≤ 12) "date" "month between 01 and 12"
  let last := monthLength (numberOf year) m
  require (1 ≤ numberOf day && numberOf day ≤ last) "date" ("day between 01 and " ++ toString last)
  return ps

def seconds (ps : List Part) : Except Fault (List Char × List Part) :=
  match ps with
  | .mark ':' :: rest => do
    let (s, ps) ← number "time" "second" rest
    match ps with
    | .mark '.' :: rest =>
      let (_, ps) ← number "time" "nanosecond" rest
      return (s, ps)
    | _ => return (s, ps)
  | _ => .ok (['0', '0'], ps)

def time (ps : List Part) : Except Fault (List Part) := do
  let (hour, ps) ← number "time" "hour" ps
  let ps ← mark ':' "time" "\x60:\x60 (HH:MM)" ps
  let (minute, ps) ← number "time" "minute" ps
  let (second, ps) ← seconds ps
  require (hour.length == 2) "time" "a two-digit hour (HH)"
  require (minute.length == 2) "time" "a two-digit minute (MM)"
  require (second.length == 2) "time" "a two-digit second (SS)"
  require (numberOf hour ≤ 23) "time" "hour between 00 and 23"
  require (numberOf minute ≤ 59) "time" "minute between 00 and 59"
  require (numberOf second ≤ 60) "time" "second between 00 and 60"
  return ps

def offset (ps : List Part) : Except Fault (List Part) :=
  match ps with
  | [] => .ok []
  | .mark c :: rest =>
    if c = 'Z' || c = 'z' then .ok rest
    else if c = '+' || c = '-' then do
      let (hours, ps) ← number "offset" "hour" rest
      let ps ← mark ':' "offset" "\x60:\x60 (HH:MM)" ps
      let (minutes, ps) ← number "offset" "minute" ps
      require (hours.length == 2) "offset" "a two-digit hour (HH)"
      require (minutes.length == 2) "offset" "a two-digit minute (MM)"
      require (numberOf hours ≤ 23) "offset" "hours between 00 and 23"
      require (numberOf minutes ≤ 59) "offset" "minutes between 00 and 59"
      return ps
    else .error ⟨some "offset", some "\x60Z\x60, +OFFSET, -OFFSET"⟩
  | _ => .error ⟨some "offset", some "\x60Z\x60, +OFFSET, -OFFSET"⟩

/-- Checks that a text is a date, a time or both. -/
def check (cs : List Char) : Except Fault Unit := do
  let all := parts cs.length cs
  let separator := "\x60-\x60 (YYYY-MM) or \x60:\x60 (HH:MM)"
  let rest ← match all with
    | .digits year :: .mark '-' :: rest => do
      let rest ← dateTail year rest
      match rest with
      | [] => pure []
      | .mark c :: rest =>
        if c = 'T' || c = 't' || c = ' ' then do offset (← time rest)
        else throw ⟨some "date-time", some "\x60T\x60 between date and time"⟩
      | _ => throw ⟨some "date-time", some "\x60T\x60 between date and time"⟩
    | .digits _ :: .mark ':' :: _ => time all
    | .digits _ :: _ => throw ⟨none, some separator⟩
    | _ => throw ⟨none, some "year or hour"⟩
  if !rest.isEmpty then throw {}

end AppSpec.Toml.Datetime
