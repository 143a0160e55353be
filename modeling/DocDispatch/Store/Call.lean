import DocDispatch.Descriptor.Basic
import DocDispatch.Store.Basic

/-!
# Store/Call — what a store can be asked

A call is data, and `Store.perform` says what it does to the store before anyone is told: the new
state, the reply, and whether the queue is to be sent next.  An operation counts, takes a pending
failure and then either changes the store or leaves it; one that its reference does not support does
not even count.
-/

namespace DocDispatch

/-- A call of a store whose listeners are of type `L`. -/
inductive Call (L : Type) where
  | put (path : String) (data : Fields)
  | document (path : String)
  | failNext (e : StoreError)
  | failListeners (e : StoreError)
  | get (r : Reference)
  | set (r : Reference) (data : Fields) (options : SetOptions)
  | update (r : Reference) (data : Fields)
  | add (r : Reference) (data : Fields)
  | listen (r : Reference) (listener : L)
  | remove (id : Nat)

/-- What a call is answered with. -/
abbrev Call.Reply {L : Type} : Call L → Type
  | .put .. | .failNext _ | .failListeners _ | .remove _ => Unit
  | .document _ => Option Fields
  | .get _ | .set .. | .update .. | .add .. => Outcome
  | .listen .. => Except StoreError Nat

/-- What a call does before its deliveries are sent. -/
structure Performed {L : Type} (c : Call L) where
  store : Store L
  reply : c.Reply
  /-- Whether the queue is sent before the reply is handed over. -/
  flushes : Bool

namespace Store

variable {L : Type}

/-- The store after one more operation that has met a pending failure, if there was one. -/
def charged (s : Store L) : Store L :=
  { s with operations := s.operations + 1, pendingFailure := none }

/-- Runs an operation, unless a failure is pending. -/
def attempt {α : Type} (s : Store L) (operation : Store L → Store L × Except StoreError α) :
    Store L × Except StoreError α :=
  match s.pendingFailure with
  | some e => (s.charged, .error e)
  | none => operation s.charged

/-! ## Operations on documents -/

/-- A write, answered with the document as it reads right after. -/
def written (s : Store L) (path : String) (data : Fields) : Store L × Snapshot :=
  let s := s.write path data
  (s, s.snapshot path)

def getDocument (s : Store L) (r : DocumentRef) : Store L × Outcome := (s, s.documentOutcome r.path)

/-- The data that setting a document leaves there. -/
def dataToSet (s : Store L) (path : String) (data : Fields) (options : SetOptions) : Fields :=
  match options.merge, s.documents.get? path with
  | true, some existing => Assoc.merge existing data
  | _, _ => data

def setDocument (s : Store L) (r : DocumentRef) (data : Fields) (options : SetOptions) :
    Store L × Outcome :=
  let (s, snapshot) := s.written r.path (s.dataToSet r.path data options)
  (s, .ok (.one snapshot))

/-- Writes dotted fields into a document that has to be there. -/
def updateDocument (s : Store L) (r : DocumentRef) (data : Fields) : Store L × Outcome :=
  match s.documents.get? r.path with
  | none => (s, .error (.notFound r.path))
  | some existing =>
    let (s, snapshot) := s.written r.path (FieldPath.update existing data)
    (s, .ok (.one snapshot))

/-! ## Operations on queries -/

def getQuery (s : Store L) (q : QueryRef) : Store L × Outcome := (s, s.queryOutcome q)

/-- Adds a document under the next generated id. -/
def addDocument (freshId : Nat → String) (s : Store L) (q : QueryRef) (data : Fields) :
    Store L × Outcome :=
  if q.targetsCollection ∧ q.filters = [] then
    let s := { s with generated := s.generated + 1 }
    let path := below q.path ++ freshId s.generated
    if s.documents.contains path then (s, .error (.alreadyExists path))
    else
      let (s, snapshot) := s.written path data
      (s, .ok (.many [snapshot]))
  else (s, .error (.invalidReference (.notAddable (Reference.query q).display)))

/-! ## Subscribing -/

/-- Subscribes a listener to a document; it is owed the document as it reads now. -/
def listenDocument (s : Store L) (r : DocumentRef) (listener : L) :
    Store L × Except StoreError Nat :=
  let subscribed : Store L := { s with
    nextId := s.nextId + 1
    documentSubs := s.documentSubs ++ [⟨s.nextId, r, listener⟩] }
  (subscribed.enqueue [⟨listener, s.documentOutcome r.path⟩], .ok s.nextId)

/-- Subscribes a listener to a query that can be run; it is owed what the query finds now. -/
def listenQuery (s : Store L) (q : QueryRef) (listener : L) : Store L × Except StoreError Nat :=
  match s.runQuery q with
  | .error e => (s, .error e)
  | .ok docs =>
    let subscribed : Store L := { s with
      nextId := s.nextId + 1
      querySubs := s.querySubs ++ [⟨s.nextId, q, listener⟩] }
    (subscribed.enqueue [⟨listener, .ok (.many docs)⟩], .ok s.nextId)

/-! ## Calls -/

/-- **What a call does before its deliveries are sent.**  Only a call that may have queued some asks
for the queue to be sent. -/
def perform (freshId : Nat → String) (s : Store L) : (c : Call L) → Performed c
  | .put path data => ⟨s.write path data, (), true⟩
  | .document path => ⟨s, s.documents.get? path, false⟩
  | .failNext e => ⟨{ s with pendingFailure := some e }, (), false⟩
  | .failListeners e => ⟨s.failAll e, (), true⟩
  | .get (.document r) =>
    let (s, outcome) := s.attempt (·.getDocument r)
    ⟨s, outcome, false⟩
  | .get (.query q) =>
    let (s, outcome) := s.attempt (·.getQuery q)
    ⟨s, outcome, false⟩
  | .set (.document r) data options =>
    let (s, outcome) := s.attempt (·.setDocument r data options)
    ⟨s, outcome, outcome.isOk⟩
  | .set (.query _) _ _ => ⟨s, .error (.unsupported "set" .collection), false⟩
  | .update (.document r) data =>
    let (s, outcome) := s.attempt (·.updateDocument r data)
    ⟨s, outcome, outcome.isOk⟩
  | .update (.query _) _ => ⟨s, .error (.unsupported "update" .collection), false⟩
  | .add (.document _) _ => ⟨s, .error (.unsupported "add" .document), false⟩
  | .add (.query q) data =>
    let (s, outcome) := s.attempt (addDocument freshId · q data)
    ⟨s, outcome, outcome.isOk⟩
  | .listen (.document r) listener =>
    let (s, reply) := s.attempt (·.listenDocument r listener)
    ⟨s, reply, reply.isOk⟩
  | .listen (.query q) listener =>
    let (s, reply) := s.attempt (·.listenQuery q listener)
    ⟨s, reply, reply.isOk⟩
  | .remove id => ⟨s.unsubscribe id, (), false⟩

end Store

end DocDispatch
