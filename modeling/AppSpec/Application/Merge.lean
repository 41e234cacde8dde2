import AppSpec.Application.Basic
import AppSpec.Application.Definition

/-!
# Merging

The definitions of all documents are applied in order. A later definition of a key takes the place of
the earlier one as a whole, which is recorded and never an error. A model is either an ordinary one or
one of the local vector database, whichever its last definition says.
-/

namespace AppSpec

/-- A key was defined again; the file is the one whose definition stands. -/
structure Conflict where
  category : Category
  key : String
  file : String
deriving DecidableEq, Repr, Inhabited

def Conflict.text (c : Conflict) : String :=
  c.category.name ++ " '" ++ c.key ++ "' redefined by " ++ c.file

/-- A part of a file was skipped. -/
structure Notice where
  file : String
  why : Skipped
deriving DecidableEq, Repr, Inhabited

def Notice.text (n : Notice) : String :=
  n.file ++ ": " ++ n.why.text

structure Merge where
  application : Application := {}
  conflicts : List Conflict := []
  notices : List Notice := []
deriving Inhabited

namespace Merge

def empty : Merge := {}

/-- Puts an entity under its key and records that the key was taken, if it was. -/
def put (m : Merge) (file : String) (c : Category) (key : String) (v : Value) : Merge :=
  { m with
    application := m.application.put c key v
    conflicts :=
      if (m.application.entities c).contains key then m.conflicts ++ [⟨c, key, file⟩]
      else m.conflicts }

def localVectorDb : String := "local_vector_db"

/-- The category that a model's connection puts it into. -/
def modelCategory (body : Value.Mapping) : Category :=
  if (body.get? "connection").bind Value.asString? == some localVectorDb then .vectorDatabases
  else .models

def otherModelCategory : Category → Category
  | .models => .vectorDatabases
  | _ => .models

/-- A model's body with its name filled in. -/
def namedBody (name : String) (body : Value.Mapping) : Value.Mapping :=
  body.put "name" (.string name)

def placeModel (m : Merge) (file name : String) (body : Value.Mapping) : Merge :=
  let body := namedBody name body
  let c := modelCategory body
  { m with application := m.application.erase (otherModelCategory c) name }.put file c name (.map body)

/-- A stream without an id is numbered by how many streams there are. -/
def streamKey (a : Application) (id : Option String) : String :=
  id.getD ("webrtc_stream_" ++ toString (a.entities .webrtcStreams).size)

def socialLogin? (auth : Value.Mapping) : Option Value.Mapping :=
  (auth.get? "social_login").bind Value.asMap?

def setAuthentication (a : Application) (auth : Value.Mapping) : Application :=
  { a with
    auth := auth
    socialAuth := (socialLogin? auth).map (Setting.readAll SocialAuth.settings)
    socialProviders :=
      match socialLogin? auth with
      | some m => Section.providerConfigs SocialAuth.providers m
      | none => Entries.empty }

def setIntegration (a : Application) (kind : SectionKind) (body : Value.Mapping) : Application :=
  let a := a.setSection kind (Section.read kind body)
  if kind = .payments then
    { a with customProviders := a.customProviders ++ CustomProvider.ofSection body }
  else a

def apply (file : String) (m : Merge) : Definition → Merge
  | .entity c key v => m.put file c key v
  | .model name body => m.placeModel file name body
  | .stream id config => m.put file .webrtcStreams (streamKey m.application id) (.map config)
  | .authentication body => { m with application := setAuthentication m.application body }
  | .theme body => { m with application := { m.application with theme := body } }
  | .integration kind body => { m with application := setIntegration m.application kind body }
  | .form config =>
    { m with application :=
        { m.application with smartForms := m.application.smartForms ++ [SmartForm.read config] } }
  | .skipped why => { m with notices := m.notices ++ [⟨file, why⟩] }

/-- Applies what a document defines. -/
def add (m : Merge) (d : Document) : Merge :=
  d.definitions.foldl (apply d.path) m

def ofDocuments (ds : List Document) : Merge :=
  ds.foldl add empty

/-- What one document does to an application. -/
def step (a : Application) (d : Document) : Merge :=
  add { application := a } d

end Merge

end AppSpec
