import DocDispatch.Proofs.Dispatch.Soundness

/-!
# Proofs/Dispatch/Operating — what a call does to a store that no failure is pending in

    get                 reads what a subscription would hear now
    set, update, add    an error, and no document changed
                        or one document written, and the deliveries owed for it queued
    listen              the subscription made, and what it hears now queued
                        or the error of a query that cannot be run

An operation is one of four calls; `Operation.perform` is what that call does before its deliveries
are sent, and `perform_get`, `perform_write` and `perform_listen` say what that is.  Only a write
that took place and a subscription that was made send anything.
-/

namespace DocDispatch

variable {L : Type}

namespace Store

/-- **What a subscription to a reference would hear of the present state.** -/
def now (s : Store L) : Reference → Outcome
  | .document r => s.documentOutcome r.path
  | .query q => s.queryOutcome q

theorem eq_withCounts {s : Store L} (h : s.pendingFailure = none) :
    s = s.withCounts none s.operations s.generated := by
  rw [← h]
  rfl

/-- What is written is there… -/
theorem get?_write (s : Store L) (path : String) (data : Fields) :
    (s.write path data).documents.get? path = some data :=
  Assoc.get?_insert_self path data s.documents.members

/-- …and seen there. -/
theorem snapshot_write (s : Store L) (path : String) (data : Fields) :
    (s.write path data).snapshot path = .of path data :=
  congrArg (Snapshot.ofPath path) (get?_write s path data)

/-- **Setting a document stores it, answers with it and sends what is owed for it.** -/
theorem perform_set {freshId : Nat → String} {s : Store L} (h : s.pendingFailure = none)
    (r : DocumentRef) (data : Fields) (options : SetOptions) :
    s.perform freshId (.set (.document r) data options) =
      ⟨(s.write r.path (s.dataToSet r.path data options)).withCounts none (s.operations + 1)
        s.generated, .ok (.one (.of r.path (s.dataToSet r.path data options))), true⟩ := by
  rw [← snapshot_write]
  simp only [perform, attempt_of_none h]
  rfl

/-- **Updating a document that is there stores what the update leaves of it, and likewise.** -/
theorem perform_update {freshId : Nat → String} {s : Store L} (h : s.pendingFailure = none)
    {r : DocumentRef} {document : Fields} (there : s.documents.get? r.path = some document)
    (changes : Fields) :
    s.perform freshId (.update (.document r) changes) =
      ⟨(s.write r.path (FieldPath.update document changes)).withCounts none (s.operations + 1)
        s.generated, .ok (.one (.of r.path (FieldPath.update document changes))), true⟩ := by
  have there : s.charged.documents.get? r.path = some document := there
  rw [← snapshot_write]
  simp only [perform, attempt_of_none h, updateDocument, there]
  rfl

/-- A document is added under the next id, unless it is there or the query is no collection. -/
theorem addDocument_cases (freshId : Nat → String) (s : Store L) (q : QueryRef) (data : Fields) :
    (∃ e generated, s.charged.addDocument freshId q data =
      (s.withCounts none (s.operations + 1) generated, .error e)) ∨
    ∃ response generated, s.charged.addDocument freshId q data =
      ((s.write (below q.path ++ freshId (s.generated + 1)) data).withCounts none
        (s.operations + 1) generated, .ok response) := by
  unfold addDocument
  by_cases addable : q.targetsCollection ∧ q.filters = []
  · rw [if_pos addable]
    dsimp only
    split
    · exact Or.inl ⟨_, s.generated + 1, rfl⟩
    · exact Or.inr ⟨_, s.generated + 1, rfl⟩
  · rw [if_neg addable]
    exact Or.inl ⟨_, s.generated, rfl⟩

end Store

namespace Operation

/-- Whether an operation can change a document. -/
def writes : Operation → Bool
  | .get => false
  | _ => true

/-- The document an operation writes, if it writes one. -/
def path (freshId : Nat → String) (s : Store L) (r : Reference) : Operation → String
  | .add _ => Store.below r.path ++ freshId (s.generated + 1)
  | _ => r.path

/-- **What an operation does before its deliveries are sent, and how it ends.** -/
def perform (freshId : Nat → String) (s : Store L) (r : Reference) : Operation → Store L × Outcome
  | .get => ((s.perform freshId (.get r)).store, (s.perform freshId (.get r)).reply)
  | .set data options =>
    ((s.perform freshId (.set r data options)).store,
      (s.perform freshId (.set r data options)).reply)
  | .add data => ((s.perform freshId (.add r data)).store, (s.perform freshId (.add r data)).reply)
  | .update data =>
    ((s.perform freshId (.update r data)).store, (s.perform freshId (.update r data)).reply)

variable {freshId : Nat → String} {s : Store L}

/-- **Reading is one more operation, and hears what a subscription would.** -/
theorem perform_get (h : s.pendingFailure = none) (r : Reference) :
    get.perform freshId s r = (s.charged, s.now r) := by
  cases r with
  | document r => simp only [perform, Store.perform, Store.attempt_of_none h]; rfl
  | query q => simp only [perform, Store.perform, Store.attempt_of_none h]; rfl

/-- Setting a document writes it. -/
theorem perform_set (h : s.pendingFailure = none) (r : DocumentRef) (data : Fields)
    (options : SetOptions) :
    (set data options).perform freshId s (.document r) =
      ((s.write r.path (s.dataToSet r.path data options)).withCounts none (s.operations + 1)
        s.generated, .ok (.one ((s.write r.path (s.dataToSet r.path data options)).snapshot
          r.path))) := by
  rw [perform, Store.perform_set h, Store.snapshot_write]

/-- **A write takes place, or ends in an error and changes no document.** -/
theorem perform_write (h : s.pendingFailure = none) (r : Reference) {op : Operation}
    (hop : op.writes) :
    (∃ e operations generated,
      op.perform freshId s r = (s.withCounts none operations generated, .error e)) ∨
    ∃ response data operations generated, op.perform freshId s r =
      ((s.write (op.path freshId s r) data).withCounts none operations generated,
        .ok response) := by
  have unsupported : ∀ e, ∃ e' operations generated,
      (s, (.error e : Outcome)) = (s.withCounts none operations generated, .error e') :=
    fun e => ⟨e, s.operations, s.generated, congrArg (·, _) (s.eq_withCounts h)⟩
  cases op with
  | get => cases hop
  | set data options =>
    cases r with
    | document r => exact Or.inr ⟨_, _, _, _, perform_set h r data options⟩
    | query q => exact Or.inl (unsupported _)
  | update data =>
    cases r with
    | document r =>
      simp only [perform, Store.perform, Store.attempt_of_none h, Store.updateDocument]
      cases found : s.charged.documents.get? r.path with
      | none => exact Or.inl ⟨_, s.operations + 1, s.generated, rfl⟩
      | some existing => exact Or.inr ⟨_, _, s.operations + 1, s.generated, rfl⟩
    | query q => exact Or.inl (unsupported _)
  | add data =>
    cases r with
    | document r => exact Or.inl (unsupported _)
    | query q =>
      simp only [perform, Store.perform, Store.attempt_of_none h]
      rcases s.addDocument_cases freshId q data with ⟨e, generated, refused⟩ |
        ⟨response, generated, added⟩
      · rw [refused]
        exact Or.inl ⟨e, _, generated, rfl⟩
      · rw [added]
        exact Or.inr ⟨response, data, _, generated, rfl⟩

/-- An operation registers nobody. -/
theorem perform_hosts {ok : L → Prop} (h : s.Hosts ok) (freshId : Nat → String) (op : Operation)
    (r : Reference) :
    (op.perform freshId s r).1.Hosts ok := by
  cases op with
  | get => exact h.perform (c := .get r) trivial freshId
  | set data options => exact h.perform (c := .set r data options) trivial freshId
  | add data => exact h.perform (c := .add r data) trivial freshId
  | update data => exact h.perform (c := .update r data) trivial freshId

/-! ## Running an operation -/

/-- Whether an operation has anything to send: it has written. -/
def sends (op : Operation) (outcome : Outcome) : Bool := op.writes && outcome.isOk

/-- Deliveries are sent where a write is answered with what it wrote… -/
theorem flushes_set (r : Reference) (data : Fields) (options : SetOptions) :
    (s.perform freshId (.set r data options)).flushes =
      (s.perform freshId (.set r data options)).reply.isOk := by
  cases r <;> rfl

theorem flushes_update (r : Reference) (data : Fields) :
    (s.perform freshId (.update r data)).flushes =
      (s.perform freshId (.update r data)).reply.isOk := by
  cases r <;> rfl

theorem flushes_add (r : Reference) (data : Fields) :
    (s.perform freshId (.add r data)).flushes = (s.perform freshId (.add r data)).reply.isOk := by
  cases r <;> rfl

/-- …and reading never has any to send. -/
theorem flushes_get (r : Reference) : (s.perform freshId (.get r)).flushes = false := by
  cases r <;> rfl

section

variable {σ : Type} (env : Environment σ L) {w : World σ L} {r : Reference} {op : Operation}

/-- **An operation that has nothing to send is over at once.** -/
theorem completesIn_run (hd : w.store.draining = false)
    (idle : op.sends (op.perform env.freshId w.store r).2 = false) :
    CompletesIn env 1 w (op.run r) (op.perform env.freshId w.store r).2
      ⟨(op.perform env.freshId w.store r).1, w.host⟩ := by
  cases op with
  | get => exact completesIn_call (c := .get r) hd (flushes_get r)
  | set data options =>
    exact completesIn_call (c := .set r data options) hd ((flushes_set ..).trans idle)
  | add data => exact completesIn_call (c := .add r data) hd ((flushes_add ..).trans idle)
  | update data => exact completesIn_call (c := .update r data) hd ((flushes_update ..).trans idle)

/-- **One that has is over when its deliveries have been heard.** -/
theorem completesIn_run_heard (hd : w.store.draining = false)
    (sends : op.sends (op.perform env.freshId w.store r).2) {n : Nat} {h' : σ}
    (heard : Heard env n w.host (op.perform env.freshId w.store r).1.queue h') :
    CompletesIn env (n + 1) w (op.run r) (op.perform env.freshId w.store r).2
      ⟨(op.perform env.freshId w.store r).1.drained, h'⟩ := by
  cases op with
  | get => cases sends
  | set data options =>
    exact heard.completesIn_call (c := .set r data options) hd ((flushes_set ..).trans sends)
  | add data => exact heard.completesIn_call (c := .add r data) hd ((flushes_add ..).trans sends)
  | update data =>
    exact heard.completesIn_call (c := .update r data) hd ((flushes_update ..).trans sends)

end

end Operation

/-! ## Subscribing -/

namespace Store

/-- The store with one more subscription. -/
def subscribed (s : Store L) (listener : L) : Reference → Store L
  | .document r =>
    { s with nextId := s.nextId + 1, documentSubs := s.documentSubs ++ [⟨s.nextId, r, listener⟩] }
  | .query q =>
    { s with nextId := s.nextId + 1, querySubs := s.querySubs ++ [⟨s.nextId, q, listener⟩] }

end Store

end DocDispatch
