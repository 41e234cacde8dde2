/-!
# Spans

A stretch of a text, counted in bytes.
-/

namespace AppSpec

structure Span where
  start : Nat
  length : Nat
deriving DecidableEq, Repr, Inhabited

namespace Span

def ofEnds (start stop : Nat) : Span :=
  ⟨start, stop - start⟩

def stop (s : Span) : Nat :=
  s.start + s.length

/-- The empty span in front. -/
def before (s : Span) : Span :=
  ⟨s.start, 0⟩

/-- The empty span behind. -/
def after (s : Span) : Span :=
  ⟨s.stop, 0⟩

def append (s t : Span) : Span :=
  ofEnds s.start t.stop

def shift (s : Span) (offset : Nat) : Span :=
  ⟨s.start + offset, s.length⟩

end Span

/-- How many bytes a text takes. -/
def Text.byteLength (cs : List Char) : Nat :=
  cs.foldr (fun c n => c.utf8Size + n) 0

end AppSpec
