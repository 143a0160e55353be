import DocDispatch.Store.Call

/-!
# Proofs/Store/Effect — the six things a call can do to a store

    call ──effect──▸ nothing | write | failAll | subscribeDocument | subscribeQuery | unsubscribe

`Store.effect` reads off a call, before it is made, what it does to documents, subscriptions and
queue; `perform_store` says that it does that and, apart from it, only counts.  Every property of
stores that does not depend on the counters is proved of the six effects and of nothing else.

A delivery in the queue does not say which subscription it is for.  `Effect.notices` does: it lists
the deliveries an effect queues, each with its subscription and its occasion, and `apply_queue` says
that they are what the queue gains.
-/

namespace DocDispatch

/-- **What a call does to documents, subscriptions and queue.** -/
inductive Effect (L : Type) where
  | nothing
  | write (path : String) (data : Fields)
  | failAll (e : StoreError)
  | subscribeDocument (r : DocumentRef) (listener : L)
  | subscribeQuery (q : QueryRef) (listener : L)
  | unsubscribe (id : Nat)

/-- **Why a delivery is owed.** -/
inductive Occasion where
  | subscribed
  | written (path : String)
  /-- An error that was injected, and not come upon in the store. -/
  | failed
deriving DecidableEq

/-- **A delivery as it was queued**: for which subscription, and why. -/
structure Notice (L : Type) where
  subscription : Nat
  occasion : Occasion
  delivery : Delivery L

namespace Store

variable {L : Type}

/-- The store with other counters. -/
def withCounts (s : Store L) (pendingFailure : Option StoreError) (operations generated : Nat) :
    Store L :=
  { s with pendingFailure, operations, generated }

/-- **The notices of a write to `path`, taken from the store after it.** -/
def noticesOf (s : Store L) (path : String) : List (Notice L) :=
  (s.documentSubs.filter fun sub => sub.reference.path = path).map (fun sub =>
    ⟨sub.id, .written path, sub.listener, s.documentOutcome path⟩) ++
  (s.querySubs.filter fun sub => sub.reference.path = Text.parentPath path).map (fun sub =>
    ⟨sub.id, .written path, sub.listener, s.queryOutcome sub.reference⟩)

theorem map_noticesOf (s : Store L) (path : String) :
    (s.noticesOf path).map Notice.delivery = s.owed path := by
  simp only [noticesOf, owed, List.map_append, List.map_map]
  rfl

/-- **A write owes at most one delivery to each listener.** -/
theorem length_owed_le (s : Store L) (path : String) : (s.owed path).length ≤ s.listenerCount := by
  rw [owed, List.length_append, List.length_map, List.length_map]
  exact Nat.add_le_add (List.length_filter_le ..) (List.length_filter_le ..)

/-! ## The effect of a call -/

/-- **What an operation does that meets no pending failure.** -/
def operationEffect (freshId : Nat → String) (s : Store L) : Call L → Effect L
  | .set (.document r) data options => .write r.path (s.dataToSet r.path data options)
  | .update (.document r) data =>
    match s.documents.get? r.path with
    | none => .nothing
    | some existing => .write r.path (FieldPath.update existing data)
  | .add (.query q) data =>
    let path := below q.path ++ freshId (s.generated + 1)
    if q.targetsCollection ∧ q.filters = [] then
      if s.documents.contains path then .nothing else .write path data
    else .nothing
  | .listen (.document r) listener => .subscribeDocument r listener
  | .listen (.query q) listener => .subscribeQuery q listener
  | _ => .nothing

/-- **What a call does to a store**, its counters apart. -/
def effect (freshId : Nat → String) (s : Store L) : Call L → Effect L
  | .put path data => .write path data
  | .failListeners e => .failAll e
  | .remove id => .unsubscribe id
  | c => if s.pendingFailure.isSome then .nothing else s.operationEffect freshId c

end Store

namespace Effect

variable {L : Type}

def apply : Effect L → Store L → Store L
  | nothing, s => s
  | write path data, s => s.write path data
  | failAll e, s => s.failAll e
  | subscribeDocument r listener, s => (s.listenDocument r listener).1
  | subscribeQuery q listener, s => (s.listenQuery q listener).1
  | unsubscribe id, s => s.unsubscribe id

/-- **The deliveries an effect queues, in queueing order.** -/
def notices : Effect L → Store L → List (Notice L)
  | nothing, _ | unsubscribe _, _ => []
  | write path data, s =>
    { s with documents := s.documents.insert path data : Store L }.noticesOf path
  | failAll e, s =>
    s.documentSubs.map (fun sub => ⟨sub.id, .failed, sub.listener, .error e⟩) ++
      s.querySubs.map (fun sub => ⟨sub.id, .failed, sub.listener, .error e⟩)
  | subscribeDocument r listener, s =>
    [⟨s.nextId, .subscribed, listener, s.documentOutcome r.path⟩]
  | subscribeQuery q listener, s =>
    match s.runQuery q with
    | .ok docs => [⟨s.nextId, .subscribed, listener, .ok (.many docs)⟩]
    | .error _ => []

/-- **The queue gains the notices of the effect**, at its end and in their order. -/
theorem apply_queue (e : Effect L) (s : Store L) :
    (e.apply s).queue = s.queue ++ (e.notices s).map Notice.delivery := by
  cases e with
  | nothing => simp [apply, notices]
  | write path data =>
    rw [notices, Store.map_noticesOf]
    rfl
  | failAll e =>
    simp only [apply, notices, Store.failAll, Store.enqueue, List.map_append, List.map_map]
    rfl
  | subscribeDocument r listener => rfl
  | subscribeQuery q listener =>
    simp only [apply, notices, Store.listenQuery]
    cases s.runQuery q with
    | ok docs => rfl
    | error e => simp
  | unsubscribe id => simp [apply, notices, Store.unsubscribe]

/-- **Whether the queue is being sent is nothing an effect changes.** -/
@[simp] theorem apply_draining (e : Effect L) (s : Store L) :
    (e.apply s).draining = s.draining := by
  cases e with
  | subscribeQuery q listener =>
    simp only [apply, Store.listenQuery]
    cases s.runQuery q <;> rfl
  | _ => rfl

end Effect

namespace Store

variable {L : Type}

/-! ## A call has its effect -/

theorem attempt_of_none {α : Type} {s : Store L} (h : s.pendingFailure = none)
    (operation : Store L → Store L × Except StoreError α) :
    s.attempt operation = operation s.charged := by
  rw [attempt, h]

theorem attempt_of_some {α : Type} {s : Store L} {e : StoreError} (h : s.pendingFailure = some e)
    (operation : Store L → Store L × Except StoreError α) :
    s.attempt operation = (s.charged, .error e) := by
  rw [attempt, h]

/-- What an operation leaves, given what it does when no failure is pending: with one pending it
only counts. -/
theorem attempt_fst {α : Type} (s : Store L) (operation : Store L → Store L × Except StoreError α)
    (e : Effect L) (generated : Nat)
    (h : (operation s.charged).1 = (e.apply s).withCounts none (s.operations + 1) generated) :
    ∃ pendingFailure operations generated, (s.attempt operation).1 =
      ((if s.pendingFailure.isSome then Effect.nothing else e).apply s).withCounts
        pendingFailure operations generated := by
  unfold attempt
  cases s.pendingFailure with
  | some _ => exact ⟨none, s.operations + 1, s.generated, rfl⟩
  | none => exact ⟨none, s.operations + 1, generated, h⟩

theorem updateDocument_fst (freshId : Nat → String) (s : Store L) (r : DocumentRef)
    (data : Fields) :
    (s.charged.updateDocument r data).1 =
      ((s.operationEffect freshId (.update (.document r) data)).apply s).withCounts
        none (s.operations + 1) s.generated := by
  simp only [updateDocument, operationEffect, charged]
  cases s.documents.get? r.path <;> rfl

theorem addDocument_fst (freshId : Nat → String) (s : Store L) (q : QueryRef) (data : Fields) :
    ∃ generated, (s.charged.addDocument freshId q data).1 =
      ((s.operationEffect freshId (.add (.query q) data)).apply s).withCounts
        none (s.operations + 1) generated := by
  unfold addDocument operationEffect
  by_cases h : q.targetsCollection ∧ q.filters = []
  · refine ⟨s.generated + 1, ?_⟩
    rw [if_pos h]
    dsimp only
    rw [if_pos h]
    have same : s.charged.documents = s.documents := rfl
    have next : s.charged.generated = s.generated := rfl
    rw [same, next]
    by_cases there : s.documents.contains (below q.path ++ freshId (s.generated + 1))
    · rw [if_pos there, if_pos there]
      rfl
    · rw [if_neg there, if_neg there]
      rfl
  · refine ⟨s.generated, ?_⟩
    rw [if_neg h]
    dsimp only
    rw [if_neg h]
    rfl

theorem listenQuery_fst (s : Store L) (q : QueryRef) (listener : L) :
    (s.charged.listenQuery q listener).1 =
      ((Effect.subscribeQuery q listener).apply s).withCounts
        none (s.operations + 1) s.generated := by
  have h : s.charged.runQuery q = s.runQuery q := rfl
  simp only [Effect.apply, listenQuery, h]
  cases s.runQuery q <;> rfl

/-- **A call has its effect**, and apart from it only counts. -/
theorem perform_store (freshId : Nat → String) (s : Store L) (c : Call L) :
    ∃ pendingFailure operations generated, (s.perform freshId c).store =
      ((s.effect freshId c).apply s).withCounts pendingFailure operations generated := by
  have same : ∃ pendingFailure operations generated,
      s = s.withCounts pendingFailure operations generated := ⟨_, _, _, rfl⟩
  have unsupported : ∃ pendingFailure operations generated,
      s = ((if s.pendingFailure.isSome then Effect.nothing else Effect.nothing).apply s).withCounts
        pendingFailure operations generated := by simpa [Effect.apply] using same
  cases c with
  | put path data => exact ⟨_, _, _, rfl⟩
  | document path => simpa [perform, effect, operationEffect, Effect.apply] using same
  | failNext e =>
    refine ⟨some e, s.operations, s.generated, ?_⟩
    simp [perform, effect, operationEffect, Effect.apply, withCounts]
  | failListeners e => exact ⟨_, _, _, rfl⟩
  | get r =>
    cases r with
    | document r => exact s.attempt_fst (·.getDocument r) .nothing s.generated rfl
    | query q => exact s.attempt_fst (·.getQuery q) .nothing s.generated rfl
  | set r data options =>
    cases r with
    | document r => exact s.attempt_fst (·.setDocument r data options) (.write ..) s.generated rfl
    | query q => exact unsupported
  | update r data =>
    cases r with
    | document r =>
      exact s.attempt_fst (·.updateDocument r data) _ s.generated
        (s.updateDocument_fst freshId r data)
    | query q => exact unsupported
  | add r data =>
    cases r with
    | document r => exact unsupported
    | query q =>
      obtain ⟨generated, h⟩ := s.addDocument_fst freshId q data
      exact s.attempt_fst (addDocument freshId · q data) _ generated h
  | listen r listener =>
    cases r with
    | document r =>
      exact s.attempt_fst (·.listenDocument r listener) (.subscribeDocument ..) s.generated rfl
    | query q =>
      exact s.attempt_fst (·.listenQuery q listener) _ s.generated (s.listenQuery_fst q listener)
  | remove id => exact ⟨_, _, _, rfl⟩

end Store

end DocDispatch
