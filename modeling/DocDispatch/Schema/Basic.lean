import DocDispatch.Json.Printer
import DocDispatch.Fault
import DocDispatch.Snapshot.Basic
import DocDispatch.Text.Quoted

/-!
# Schema/Basic — how entities are named, keyed and reshaped

A schema names the collection its entities belong to, the field that holds their ids, and possibly a
transform that reshapes each entity before it is keyed.
-/

namespace DocDispatch

open Json (Kind Value)

/-- What a transform makes of an entity. -/
inductive Transformed where
  | entity (v : Value)
  | refused (message : String)
  | panicked

/-- A reshaping of entities. -/
abbrev Transform := Value → Transformed

/-- How the entities of a response are kept. -/
structure Schema where
  name : String
  /-- The field with the id, where it is not the default. -/
  ownKey : Option String
  /-- A transform, with the name it is reported by. -/
  transform : Option (String × Transform)

namespace Schema

def defaultKey : String := "id"

/-- The field with the id. -/
def key (s : Schema) : String := s.ownKey.getD defaultKey

/-- A schema for diagnostics. -/
def debug (s : Schema) : String :=
  let transform := match s.transform with
    | none => "None"
    | some (name, _) => "Some(" ++ Text.quoted name ++ ")"
  "EntitySchema \x7b name: " ++ Text.quoted s.name ++ ", key: " ++ Text.quoted s.key ++
    ", transform: " ++ transform ++ " \x7d"

end Schema

/-- Why a response does not fit a schema. -/
inductive SchemaError where
  | missingKey (key : String) (index : Nat)
  | invalidKey (key : String) (index : Nat) (kind : Kind)
  | transform (name : String) (message : String)
  | notObject (kind : Kind)
deriving DecidableEq

def SchemaError.message : SchemaError → String
  | .missingKey key index => s!"entity {index} has no '{key}' field"
  | .invalidKey key index kind =>
    s!"entity {index} has a {kind.text} under '{key}', expected a string, number or boolean"
  | .transform name message => s!"transform '{name}' failed: {message}"
  | .notObject kind => s!"expected an entity object, got a {kind.text}"

/-- What can be read as an entity. -/
class AsEntity (D : Type) where
  entity : D → Except SchemaError Fields

instance : AsEntity Snapshot := ⟨fun s => .ok s.entity⟩

instance : AsEntity Fields := ⟨.ok⟩

instance : AsEntity Value :=
  ⟨fun v => match v with
    | .object fields => .ok fields
    | v => .error (.notObject v.kind)⟩

end DocDispatch
