import DocDispatch.Descriptor.Basic
import DocDispatch.Json.Record

/-!
# Descriptor/Codec — the parts of a descriptor as records

The parts of a descriptor that are records of their own.  A field that is absent stays unwritten.
-/

namespace DocDispatch

open Json

/-- A member that is written only if there is something to write. -/
def optionalMember (key : String) (text : Option String) : List (String × Value) :=
  (text.map fun s => (key, Value.string s)).toList

namespace ActionTypes

def toJson (t : ActionTypes) : Value :=
  .ofMembers [
    ("request", .string t.request), ("success", .string t.success), ("failure", .string t.failure)]

def ofTree? (t : Tree) : Option ActionTypes := do
  let r ← Record.ofTree? ["request", "success", "failure"] t
  some {
    request := ← r.required? "request" Tree.toString?
    success := ← r.required? "success" Tree.toString?
    failure := ← r.required? "failure" Tree.toString?
  }

end ActionTypes

namespace SchemaDescriptor

def toJson (s : SchemaDescriptor) : Value :=
  .ofMembers
    (("name", .string s.name) :: optionalMember "key" s.key ++
      optionalMember "transform" s.transform)

def ofTree? (t : Tree) : Option SchemaDescriptor := do
  let r ← Record.ofTree? ["name", "key", "transform"] t
  some {
    name := ← r.required? "name" Tree.toString?
    key := ← r.defaulted? "key" none (Tree.toOption? Tree.toString?)
    transform := ← r.defaulted? "transform" none (Tree.toOption? Tree.toString?)
  }

end SchemaDescriptor

namespace SetOptions

def toJson (o : SetOptions) : Value := .object [("merge", .bool o.merge)]

def ofTree? (t : Tree) : Option SetOptions := do
  let r ← Record.ofTree? ["merge"] t
  some ⟨← r.defaulted? "merge" false Tree.toBool?⟩

end SetOptions

namespace PathStep

def toJson (s : PathStep) : Value :=
  .ofMembers (("collection", .string s.collection) :: optionalMember "doc" s.doc)

def ofTree? (t : Tree) : Option PathStep := do
  let r ← Record.ofTree? ["collection", "doc"] t
  some {
    collection := ← r.required? "collection" Tree.toString?
    doc := ← r.defaulted? "doc" none (Tree.toOption? Tree.toString?)
  }

end PathStep

end DocDispatch
