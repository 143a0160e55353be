import DocDispatch.Json.Tree

/-!
# Action — what flows through a pipeline

An action is an open object.  Its `type`, `payload` and `meta` mean something to the pipeline; under
another property, the marker, it may carry a store call.
-/

namespace DocDispatch

open Json (Tree Value)

/-- An action: an object of any properties. -/
structure Action where
  fields : Fields
deriving DecidableEq

namespace Action

def typeKey : String := "type"
def payloadKey : String := "payload"
def metaKey : String := "meta"

/-- An action with a type and nothing else. -/
def ofType (type : String) : Action := ⟨[(typeKey, .string type)]⟩

/-- Only objects are actions; of any other value the kind is told. -/
def ofJson : Value → Except Json.Kind Action
  | .object fields => .ok ⟨fields⟩
  | v => .error v.kind

def ofTree? (t : Tree) : Option Action := t.toFields?.map Action.mk

def toJson (a : Action) : Value := .object a.fields

def get? (a : Action) (key : String) : Option Value := a.fields.get? key

def contains (a : Action) (key : String) : Bool := a.fields.contains key

def insert (a : Action) (key : String) (v : Value) : Action := ⟨a.fields.insert key v⟩

def erase (a : Action) (key : String) : Action := ⟨a.fields.erase key⟩

/-- The type, if it is a text. -/
def type? (a : Action) : Option String := (a.get? typeKey).bind Value.asString?

def withType (a : Action) (type : String) : Action := a.insert typeKey (.string type)

/-- Sets a property, or drops it: what the action carried there never stays. -/
def setOptional (a : Action) (key : String) : Option Value → Action
  | some v => a.insert key v
  | none => a.erase key

/-- The action without its store call. -/
def stripped (a : Action) (marker : String) : Action := a.erase marker

end Action

/-- The message for a value that was to be an action. -/
def Json.Kind.notObjectMessage (kind : Json.Kind) : String :=
  s!"expected a JSON object, got {kind.text}"

end DocDispatch
