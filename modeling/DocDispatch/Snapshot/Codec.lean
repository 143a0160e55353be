import DocDispatch.Json.Record
import DocDispatch.Snapshot.Basic

/-!
# Snapshot/Codec — snapshots and responses as JSON

A response is written as its one document or as a plain array.  A list of snapshots is tried first
when it is read back: an array of three fields is a single snapshot only where it is no list of
snapshots.
-/

namespace DocDispatch

open Json

namespace Snapshot

def toJson (s : Snapshot) : Value :=
  .ofMembers [
    ("id", .string s.id), ("path", .string s.path), ("data", Value.ofOption .object s.data)]

def ofTree? (t : Tree) : Option Snapshot := do
  let r ← Record.ofTree? ["id", "path", "data"] t
  some {
    id := ← r.required? "id" Tree.toString?
    path := ← r.required? "path" Tree.toString?
    data := ← r.nullable? "data" Tree.toFields?
  }

end Snapshot

namespace QuerySnapshot

def toJson (q : QuerySnapshot) : Value := .object [("docs", .array (q.docs.map Snapshot.toJson))]

def ofTree? (t : Tree) : Option QuerySnapshot := do
  let r ← Record.ofTree? ["docs"] t
  some ⟨← r.required? "docs" (Tree.toList? Snapshot.ofTree?)⟩

end QuerySnapshot

namespace Response

/-- A response, given how its documents are written. -/
def toJson {D : Type} (doc : D → Value) : Response D → Value
  | .many docs => .array (docs.map doc)
  | .one d => doc d

/-- A response of snapshots.  Both forms are tried on a value that has been read as a whole, so that
nothing in it may be unreadable. -/
def ofTree? (t : Tree) : Option (Response Snapshot) :=
  if t.isReadable then
    match t.toList? Snapshot.ofTree? with
    | some docs => some (.many docs)
    | none => (Snapshot.ofTree? t).map .one
  else none

end Response

end DocDispatch
