import AppSpec.Dialect
import AppSpec.Document.Comments
import AppSpec.Text.Span
import AppSpec.Value.Mapping
import AppSpec.Yaml.Node

/-!
# Documents

A document is the mapping that one specification file holds, with its dialect and the stem of its
name. An empty file is an empty document; a file that holds anything but a mapping is none.
-/

namespace AppSpec

structure Document where
  dialect : Dialect
  stem : String
  path : String
  body : Value.Mapping
deriving Repr, Inhabited

namespace Document

/-- Why a text is no document. -/
inductive Fault where
  | malformed (span : Option Span) (cause : Yaml.ReadError)
  | notAMapping (span : Option Span) (found : Value)
deriving Repr, Inhabited

/-- The place of a fault in the file, where the text read lacks the comment lines. -/
def spanOf (cs : List Char) (e : Yaml.ReadError) : Option Span := do
  let m ← e.mark?
  let offset ← fileOffset cs (m.line + 1) (m.column + 1)
  return ⟨offset, 0⟩

def parseBody (text : String) : Except Fault Value.Mapping :=
  match Yaml.read (stripComments text) with
  | .error e => .error (.malformed (spanOf text.toList e) e)
  | .ok (.map body) => .ok body
  | .ok .null => .ok []
  | .ok other =>
    .error (.notAMapping ((survivingLines text.toList).head?.map fun l => ⟨l.1, 0⟩) other)

def parse (text path : String) (dialect : Dialect) : Except Fault Document :=
  (parseBody text).map fun body => ⟨dialect, FilePath.stem path, path, body⟩

/-- Top-level keys that are text, in authored order. -/
def sectionKeys (d : Document) : List String :=
  d.body.filterMap fun e => e.1.asString?

end Document

end AppSpec
