import DocDispatch.Filter.Basic

/-!
# Reference/Basic — what a store call addresses

A reference is a path of named steps below the root of a store.  A path that ends on a document and
that nothing filters addresses that document; every other reference is a query.  `Reference.of`
decides between the two once, when the reference is made, and every operation later goes by the
constructor alone.
-/

namespace DocDispatch

/-- One step of a path. -/
inductive Segment where
  | collection (name : String)
  | doc (name : String)
deriving DecidableEq

namespace Segment

def name : Segment → String
  | .collection name => name
  | .doc name => name

def display : Segment → String
  | .collection name => s!".collection('{name}')"
  | .doc name => s!".doc('{name}')"

def isCollection : Segment → Bool
  | .collection _ => true
  | .doc _ => false

/-- The store path that segments spell. -/
def path (segments : List Segment) : String := Text.join "/" (segments.map name)

/-- The name of the root in a displayed chain. -/
def rootName : String := "db"

/-- The chain of calls that narrows the root by the segments. -/
def chain (segments : List Segment) : String := String.join (rootName :: segments.map display)

end Segment

/-- A reference to one document. -/
structure DocumentRef where
  segments : List Segment
deriving DecidableEq

namespace DocumentRef

def path (r : DocumentRef) : String := Segment.path r.segments

/-- The document's own id. -/
def id (r : DocumentRef) : String := (r.segments.getLast?.map Segment.name).getD ""

/-- The path of the collection that holds the document. -/
def parentPath (r : DocumentRef) : String := Segment.path r.segments.dropLast

end DocumentRef

/-- A reference to the documents of a collection that satisfy some filters. -/
structure QueryRef where
  segments : List Segment
  filters : List Filter
deriving DecidableEq

namespace QueryRef

def path (r : QueryRef) : String := Segment.path r.segments

/-- Whether the path ends on a collection.  Only such queries can be run; a filtered document can be
written but not executed. -/
def targetsCollection (r : QueryRef) : Bool :=
  (r.segments.getLast?.map Segment.isCollection).getD false

end QueryRef

/-- What a reference addresses. -/
inductive Target where
  | document
  | collection
deriving DecidableEq

/-- **A path with filters, decided as a document or a query.** -/
inductive Reference where
  | document (r : DocumentRef)
  | query (r : QueryRef)
deriving DecidableEq

namespace Reference

/-- The reference a path and filters make. -/
def of (segments : List Segment) (filters : List Filter) : Reference :=
  match segments.getLast?, filters with
  | some (.doc _), [] => .document ⟨segments⟩
  | _, _ => .query ⟨segments, filters⟩

def target : Reference → Target
  | .document _ => .document
  | .query _ => .collection

def segments : Reference → List Segment
  | .document r => r.segments
  | .query r => r.segments

/-- The filters; a document has none. -/
def filters : Reference → List Filter
  | .document _ => []
  | .query r => r.filters

def path (r : Reference) : String := Segment.path r.segments

/-- The chain of calls that builds the reference. -/
def display (r : Reference) : String :=
  Segment.chain r.segments ++ String.join (r.filters.map fun f => s!".where({f.display})")

theorem segments_of (segments : List Segment) (filters : List Filter) :
    (of segments filters).segments = segments := by
  unfold of
  split <;> rfl

theorem filters_of (segments : List Segment) (filters : List Filter) :
    (of segments filters).filters = filters := by
  unfold of
  split <;> rfl

/-! ## Step by step -/

/-- A step that narrows a reference under construction. -/
inductive Step where
  | segment (s : Segment)
  | filter (f : Filter)

namespace Step

def segment? : Step → Option Segment
  | .segment s => some s
  | .filter _ => none

def filter? : Step → Option Filter
  | .segment _ => none
  | .filter f => some f

end Step

/-- The reference that steps from the root build; filters and segments may come in any order. -/
def build (steps : List Step) : Reference :=
  of (steps.filterMap Step.segment?) (steps.filterMap Step.filter?)

end Reference

end DocDispatch
