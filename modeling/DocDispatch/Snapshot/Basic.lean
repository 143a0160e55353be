import DocDispatch.Json.Value
import DocDispatch.Text.Pieces

/-!
# Snapshot/Basic — what a store answers

A snapshot is one document at one moment; a document that does not exist has one too, without data.
A response is one snapshot or an ordered list of them, and normalization sees responses of other
documents as well, so the type of documents is a parameter.
-/

namespace DocDispatch

/-- A document as it read at some moment. -/
structure Snapshot where
  id : String
  path : String
  /-- The fields, `none` if there is no such document. -/
  data : Option Fields
deriving DecidableEq

namespace Snapshot

/-- The snapshot under a path, whose last segment is the document's id. -/
def ofPath (path : String) (data : Option Fields) : Snapshot := ⟨Text.lastSegment path, path, data⟩

/-- A document that is there. -/
def of (path : String) (data : Fields) : Snapshot := ofPath path (some data)

/-- A document that is not there. -/
def missing (path : String) : Snapshot := ofPath path none

def isPresent (s : Snapshot) : Bool := s.data.isSome

/-- A top-level field. -/
def get? (s : Snapshot) (field : String) : Option Json.Value := s.data.bind (Assoc.get? · field)

/-- The document as an entity: its id, under any field of that name in the document. -/
def entity (s : Snapshot) : Fields :=
  Assoc.merge [("id", .string s.id)] (s.data.getD [])

end Snapshot

/-- The documents a query found, in order. -/
structure QuerySnapshot where
  docs : List Snapshot
deriving DecidableEq

/-- **One document, or an ordered list of them.** -/
inductive Response (D : Type) where
  | many (docs : List D)
  | one (doc : D)
deriving DecidableEq

namespace Response

variable {D : Type}

def toList : Response D → List D
  | .many docs => docs
  | .one doc => [doc]

def size (r : Response D) : Nat := r.toList.length

end Response

end DocDispatch
