import DocDispatch.FieldPath
import DocDispatch.Snapshot.Basic
import DocDispatch.Store.Error

/-!
# Store/Basic — documents, subscriptions and the deliveries owed

A store holds documents by path and two lists of subscriptions.  A write queues, in the same step,
one delivery for every subscription it concerns, so the queue always tells what listeners still have
to hear, in the order the store changed.  Who sends the queue, and when, is `Store/Machine`'s part;
here nothing is ever sent.
-/

namespace DocDispatch

/-- How an operation on a reference ends. -/
abbrev Outcome := Except StoreError (Response Snapshot)

/-- A listener's interest in a reference. -/
structure Subscription (R L : Type) where
  id : Nat
  reference : R
  listener : L

/-- Something a listener has yet to hear. -/
structure Delivery (L : Type) where
  listener : L
  outcome : Outcome

/-- **The state of a store** whose listeners are of type `L`. -/
structure Store (L : Type) where
  documents : OrderedMap Fields
  documentSubs : List (Subscription DocumentRef L)
  querySubs : List (Subscription QueryRef L)
  /-- The id of the next subscription. -/
  nextId : Nat
  /-- The error the next operation is to end in. -/
  pendingFailure : Option StoreError
  /-- The operations so far, failed ones included. -/
  operations : Nat
  /-- The document ids generated so far. -/
  generated : Nat
  queue : List (Delivery L)
  /-- Whether someone is sending the queue. -/
  draining : Bool

namespace Store

variable {L : Type}

/-- A store that holds some documents and has not been used. -/
def ofDocuments (documents : OrderedMap Fields) : Store L :=
  ⟨documents, [], [], 0, none, 0, 0, [], false⟩

/-- How many listeners are subscribed. -/
def listenerCount (s : Store L) : Nat := s.documentSubs.length + s.querySubs.length

/-- The document under a path as it reads now. -/
def snapshot (s : Store L) (path : String) : Snapshot :=
  Snapshot.ofPath path (s.documents.get? path)

/-! ## Queries -/

/-- Whether a document satisfies filters, tried from left to right up to the first that fails; an
operator that needs a list is an error where it is tried. -/
def satisfies (data : Fields) : List Filter → Except StoreError Bool
  | [] => .ok true
  | f :: fs =>
    match f.matches? (FieldPath.read data (FieldPath.steps f.field)) with
    | some true => satisfies data fs
    | some false => .ok false
    | none => .error (.invalidReference (.needsList f.operator))

/-- The path every document below a collection begins with. -/
def below (collection : String) : String := collection ++ "/"

/-- What follows `start` in `path`. -/
def rest? (start path : String) : Option (List Char) := start.toList.isPrefixOf? path.toList

/-- The documents directly in a collection, by path: of those below it, which stand together in path
order, the ones without another `/`. -/
def children (documents : Assoc Fields) (collection : String) : Assoc Fields :=
  let start := below collection
  let block := (documents.dropWhile fun p => p.1 < start).takeWhile fun p =>
    (rest? start p.1).isSome
  block.filter fun p => !(((rest? start p.1).getD []).contains '/')

/-- The documents among `members` that satisfy the filters, in order. -/
def select (filters : List Filter) : Assoc Fields → Except StoreError (List Snapshot)
  | [] => .ok []
  | (path, data) :: members => do
    let kept ← satisfies data filters
    let rest ← select filters members
    pure (if kept then Snapshot.of path data :: rest else rest)

/-- **The documents a query finds**, in order of their ids. -/
def runQuery (s : Store L) (q : QueryRef) : Except StoreError (List Snapshot) :=
  if q.targetsCollection then select q.filters (children s.documents.members q.path)
  else .error (.invalidReference (.notCollection (Reference.query q).display))

/-- What a subscription to a query hears of the present state. -/
def queryOutcome (s : Store L) (q : QueryRef) : Outcome := (s.runQuery q).map .many

/-- What a subscription to a document hears of the present state. -/
def documentOutcome (s : Store L) (path : String) : Outcome := .ok (.one (s.snapshot path))

/-! ## Changes and the deliveries they owe -/

/-- The deliveries owed after a write to `path`: to the document's own listeners, then to those of
the collection around it, each in the order they subscribed. -/
def owed (s : Store L) (path : String) : List (Delivery L) :=
  (s.documentSubs.filter fun sub => sub.reference.path = path).map (fun sub =>
    ⟨sub.listener, s.documentOutcome path⟩) ++
  (s.querySubs.filter fun sub => sub.reference.path = Text.parentPath path).map (fun sub =>
    ⟨sub.listener, s.queryOutcome sub.reference⟩)

def enqueue (s : Store L) (deliveries : List (Delivery L)) : Store L :=
  { s with queue := s.queue ++ deliveries }

/-- Puts a document in place and queues what is owed for it. -/
def write (s : Store L) (path : String) (data : Fields) : Store L :=
  let s := { s with documents := s.documents.insert path data }
  s.enqueue (s.owed path)

/-- Queues an error for every subscription. -/
def failAll (s : Store L) (e : StoreError) : Store L :=
  s.enqueue (s.documentSubs.map (fun sub => ⟨sub.listener, .error e⟩) ++
    s.querySubs.map (fun sub => ⟨sub.listener, .error e⟩))

/-- Drops the subscription with an id. -/
def unsubscribe (s : Store L) (id : Nat) : Store L :=
  { s with
    documentSubs := s.documentSubs.filter fun sub => sub.id ≠ id
    querySubs := s.querySubs.filter fun sub => sub.id ≠ id }

end Store

end DocDispatch
