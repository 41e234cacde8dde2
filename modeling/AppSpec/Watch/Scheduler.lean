import AppSpec.Build.Generator

/-!
# The rebuild scheduler

A rebuild starts only when the scheduler is idle and the debounce window since the last start is
over; other changes are dropped. After a rebuild the scheduler cools down until it is settled. Times
and windows are ticks of a clock.
-/

namespace AppSpec.Watch

inductive State where
  | idle
  | building
  | cooldown
deriving DecidableEq, Repr, Inhabited

def State.name : State → String
  | .idle => "idle"
  | .building => "building"
  | .cooldown => "cooldown"

/-- How a rebuild ended, as far as the scheduler can see. -/
inductive Build where
  | succeeded
  | failed (reason : String)
  | crashed (message : Option String)
deriving DecidableEq, Repr, Inhabited

/-- How a cycle ended. -/
inductive CycleEnd where
  | succeeded
  | failed (reason : String)
deriving DecidableEq, Repr, Inhabited

namespace CycleEnd

def ofBuild : Build → CycleEnd
  | .succeeded => .succeeded
  | .failed reason => .failed reason
  | .crashed message => .failed ("panicked: " ++ crashText message)

def isFailed : CycleEnd → Bool
  | .succeeded => false
  | .failed _ => true

end CycleEnd

/-- A clock, by how many of its ticks make a millisecond. -/
structure Clock where
  ticks : Nat := 1
  pos : 0 < ticks := by decide
deriving DecidableEq, Repr

/-- The shortest debounce window, a second; shorter ones are raised to it. -/
def minDebounce (clock : Clock) : Nat := 1000 * clock.ticks

structure Scheduler where
  debounce : Nat
  state : State := .idle
  last : Option Nat := none
  cycles : Nat := 0
  failures : Nat := 0
deriving DecidableEq, Repr, Inhabited

namespace Scheduler

def ofDebounce (window : Nat) (clock : Clock := {}) : Scheduler :=
  { debounce := max window (minDebounce clock) }

/-- A change is accepted when the window since the last accepted one is over. -/
def accepts (s : Scheduler) (time : Nat) : Bool :=
  s.state == .idle &&
    match s.last with
    | some last => !decide (time - last < s.debounce)
    | none => true

def offer (s : Scheduler) (time : Nat) : Bool × Scheduler :=
  if s.accepts time then (true, { s with last := some time }) else (false, s)

/-- Counts a cycle and cools down. -/
def finish (s : Scheduler) (c : CycleEnd) : Scheduler :=
  { s with
    state := .cooldown
    cycles := s.cycles + 1
    failures := s.failures + if c.isFailed then 1 else 0 }

def run (s : Scheduler) (b : Build) : CycleEnd × Scheduler :=
  (CycleEnd.ofBuild b, s.finish (CycleEnd.ofBuild b))

def settle (s : Scheduler) : Scheduler :=
  if s.state = .cooldown then { s with state := .idle } else s

/-- Offers a change and, when it is accepted, runs a whole cycle. -/
def trigger (s : Scheduler) (time : Nat) (b : Build) : Option CycleEnd × Scheduler :=
  match s.offer time with
  | (false, s) => (none, s)
  | (true, s) =>
    let (c, s) := s.run b
    (some c, s.settle)

end Scheduler

end AppSpec.Watch
