import DocDispatch.Json.Record
import DocDispatch.Schema.Basic
import DocDispatch.Snapshot.Codec

/-!
# Schema/Normalize — from a response to entities by id

Every document becomes an entity, is transformed and is then filed under the text of its id.  `ids`
lists the ids in response order, one for each document; of two entities with the same id text the
later one is kept.  The first document that cannot be filed makes the whole response fail.
-/

namespace DocDispatch

open Json (Tree Value Record)

/-- Entities by collection and id, with the ids in order. -/
structure Normalized where
  entities : OrderedMap (OrderedMap Value)
  ids : List Value
deriving DecidableEq

namespace Normalized

/-- The entity of a collection under an id. -/
def entity? (n : Normalized) (collection id : String) : Option Value :=
  (n.entities.get? collection).bind (·.get? id)

def toJson (n : Normalized) : Value :=
  .object [
    ("entities", .object (n.entities.members.map fun p => (p.1, .object p.2.members))),
    ("ids", .array n.ids)]

def ofTree? (t : Tree) : Option Normalized := do
  let r ← Record.ofTree? ["entities", "ids"] t
  some {
    entities := ← r.required? "entities" (Tree.toMap? (Tree.toMap? Tree.toValue?))
    ids := ← r.required? "ids" (Tree.toList? Tree.toValue?)
  }

end Normalized

namespace Schema

/-- An entity with its id, and the id's text. -/
structure Filed where
  id : Value
  text : String
  entity : Value

/-- The text an id is filed under. -/
def idText? : Value → Option String
  | .string s => some s
  | .number n => some (String.ofList n.chars)
  | .bool b => some (if b then "true" else "false")
  | _ => none

/-- The entity after the schema's transform, if there is one. -/
def transformed (s : Schema) (entity : Value) : Except (Fault SchemaError) Value :=
  match s.transform with
  | none => .ok entity
  | some (name, transform) =>
    match transform entity with
    | .entity v => .ok v
    | .refused message => .error (.error (.transform name message))
    | .panicked => .error .panic

/-- An entity filed under its id; `index` is its place in the response. -/
def file (s : Schema) (index : Nat) (entity : Value) : Except SchemaError Filed :=
  match entity with
  | .object fields =>
    match Assoc.get? fields s.key with
    | none | some .null => .error (.missingKey s.key index)
    | some id =>
      match idText? id with
      | some text => .ok ⟨id, text, .object fields⟩
      | none => .error (.invalidKey s.key index id.kind)
  | v => .error (.notObject v.kind)

/-- A document filed under the id of its entity. -/
def fileDocument {D : Type} [AsEntity D] (s : Schema) (index : Nat) (doc : D) :
    Except (Fault SchemaError) Filed := do
  let fields ← (AsEntity.entity doc).mapError Fault.error
  let entity ← s.transformed (.object fields)
  (s.file index entity).mapError Fault.error

/-- The documents filed in order, the first of them having place `index`. -/
def fileAll {D : Type} [AsEntity D] (s : Schema) (index : Nat) :
    List D → Except (Fault SchemaError) (List Filed)
  | [] => .ok []
  | doc :: docs => do
    let filed ← s.fileDocument index doc
    let rest ← s.fileAll (index + 1) docs
    pure (filed :: rest)

/-- **The entities of a response.** -/
def normalize {D : Type} [AsEntity D] (s : Schema) (response : Response D) :
    Except (Fault SchemaError) Normalized := do
  let filed ← s.fileAll 0 response.toList
  let byText := OrderedMap.ofList (filed.map fun f => (f.text, f.entity))
  pure {
    entities := OrderedMap.ofList [(s.name, byText)]
    ids := filed.map Filed.id
  }

end Schema

/-! ## Payloads -/

/-- What a success carries: the response as it is, or its entities. -/
inductive Payload (D : Type) where
  | raw (response : Response D)
  | normalized (n : Normalized)

namespace Payload

variable {D : Type}

def toJson (doc : D → Value) : Payload D → Value
  | .raw response => response.toJson doc
  | .normalized n => n.toJson

/-- Normalizes with a schema, and passes the response on without one. -/
def ofResponse [AsEntity D] (schema : Option Schema) (response : Response D) :
    Except (Fault SchemaError) (Payload D) :=
  match schema with
  | none => .ok (.raw response)
  | some s => (s.normalize response).map .normalized

end Payload

end DocDispatch
