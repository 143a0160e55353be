import DocDispatch.Filter.Codec
import DocDispatch.Filter.Parser
import DocDispatch.Reference.Basic

/-!
# Reference/Codec — references as JSON

A reference is an object of one member, `Document` or `Query`, holding the segments and for a query
the filters.  A tagged path is taken as it stands: reading does not ask whether the tag is the one
that `Reference.of` would have chosen.
-/

namespace DocDispatch

open Json

namespace Segment

def toJson : Segment → Value
  | .collection name => .object [("Collection", .string name)]
  | .doc name => .object [("Doc", .string name)]

def ofTree? (t : Tree) : Option Segment :=
  match t.toChoice? with
  | some ("Collection", t) => t.toString?.map .collection
  | some ("Doc", t) => t.toString?.map .doc
  | _ => none

end Segment

namespace DocumentRef

def toJson (r : DocumentRef) : Value :=
  .object [("segments", .array (r.segments.map Segment.toJson))]

def ofTree? (t : Tree) : Option DocumentRef := do
  let r ← Record.ofTree? ["segments"] t
  some ⟨← r.required? "segments" (Tree.toList? Segment.ofTree?)⟩

end DocumentRef

namespace QueryRef

def toJson (r : QueryRef) : Value :=
  .object [
    ("filters", .array (r.filters.map Filter.toJson)),
    ("segments", .array (r.segments.map Segment.toJson))]

def ofTree? (t : Tree) : Option QueryRef := do
  let r ← Record.ofTree? ["segments", "filters"] t
  some {
    segments := ← r.required? "segments" (Tree.toList? Segment.ofTree?)
    filters := ← r.required? "filters" (Tree.toList? Filter.ofTree?)
  }

end QueryRef

namespace Reference

def toJson : Reference → Value
  | .document r => .object [("Document", r.toJson)]
  | .query r => .object [("Query", r.toJson)]

def ofTree? (t : Tree) : Option Reference :=
  match t.toChoice? with
  | some ("Document", t) => (DocumentRef.ofTree? t).map .document
  | some ("Query", t) => (QueryRef.ofTree? t).map .query
  | _ => none

/-- Why a value is no reference. -/
inductive Unreadable where
  | malformed
  | filter (e : Filter.ParseError)
deriving DecidableEq

namespace Step

/-- A narrowing step: a pair of what is narrowed to and its name or expression. -/
def ofJson : Value → Except Unreadable Step
  | .array [.string "collection", .string name] => .ok (.segment (.collection name))
  | .array [.string "doc", .string name] => .ok (.segment (.doc name))
  | .array [.string "where", .string expression] =>
    match Filter.parse expression with
    | .ok f => .ok (.filter f)
    | .error e => .error (.filter e)
  | _ => .error .malformed

end Step

/-- A reference given step by step or as it is written. -/
def ofJson : Value → Except Unreadable Reference
  | .array steps => (steps.mapM Step.ofJson).map build
  | v => match ofTree? v.toTree with
    | some r => .ok r
    | none => .error .malformed

end Reference

end DocDispatch
