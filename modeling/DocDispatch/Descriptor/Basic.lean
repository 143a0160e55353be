import DocDispatch.Filter.Parser
import DocDispatch.Reference.Basic

/-!
# Descriptor/Basic — store calls as data

A descriptor says which three actions a store call announces itself by, what it reads or writes, and
how its response is shaped.  `Query.compile` turns the query into a reference: the path is the
top-level step followed by the subcollections, each a collection and, where it names one, a document
in it.
-/

namespace DocDispatch

/-- The types of the actions a call emits: before it, on success, on failure. -/
structure ActionTypes where
  request : String
  success : String
  failure : String
deriving DecidableEq

/-- How entities are keyed, by name only: a transform is named, not given. -/
structure SchemaDescriptor where
  name : String
  key : Option String
  transform : Option String
deriving DecidableEq

/-- How a document is set. -/
structure SetOptions where
  /-- Merge into the document that is there instead of replacing it. -/
  merge : Bool
deriving DecidableEq

namespace SetOptions

def default : SetOptions := ⟨false⟩

/-- The options in an object; anything but `true` under `merge` is false. -/
def ofFields (options : Fields) : SetOptions :=
  ⟨((options.get? "merge").bind Json.Value.asBool?).getD false⟩

end SetOptions

/-- The operation of a call, with what it needs. -/
inductive Method where
  | subscribe
  | get
  | set (data : Fields) (options : SetOptions)
  | add (data : Fields)
  | update (data : Fields)
deriving DecidableEq

namespace Method

/-- The names a method can be given by. -/
def names : List String := ["onSnapshot", "get", "set", "update", "add"]

def name : Method → String
  | .subscribe => "onSnapshot"
  | .get => "get"
  | .set .. => "set"
  | .add _ => "add"
  | .update _ => "update"

/-- The method with a name, taking the data and options it needs. -/
def ofName? (name : String) (data : Fields) (options : SetOptions) : Option Method :=
  match name with
  | "onSnapshot" => some .subscribe
  | "get" => some .get
  | "set" => some (.set data options)
  | "add" => some (.add data)
  | "update" => some (.update data)
  | _ => none

end Method

/-- A collection on a path, and the document in it where the path goes on or ends there. -/
structure PathStep where
  collection : String
  doc : Option String
deriving DecidableEq

/-- The segments of a step. -/
def PathStep.segments (s : PathStep) : List Segment :=
  .collection s.collection :: (s.doc.map Segment.doc).toList

/-- What to read or write, and where. -/
structure Query where
  collection : String
  doc : Option String
  subcollections : List PathStep
  filters : List String
  method : Method
deriving DecidableEq

namespace Query

/-- The whole path: the top-level step, then the subcollections. -/
def path (q : Query) : List PathStep := ⟨q.collection, q.doc⟩ :: q.subcollections

/-- **The reference a query runs against.**  Only a filter that does not parse makes it fail. -/
def compile (q : Query) : Except Filter.ParseError Reference :=
  (Filter.parseAll q.filters).map (Reference.of (q.path.flatMap PathStep.segments))

end Query

/-- **A store call as data.** -/
structure Descriptor where
  types : ActionTypes
  schema : Option SchemaDescriptor
  payload : Option Json.Value
  metadata : Option Json.Value
  /-- The name of a predicate that can cancel the call. -/
  bailout : Option String
  query : Query
deriving DecidableEq

end DocDispatch
