import DocDispatch.Proofs.Store.Order

/-!
# Proofs/Store/Atomicity — an operation does what it says, or nothing

    not supported                  nothing at all: it does not even count
    refused                        counted; nothing else has changed, and nobody is told
    read                           likewise, whatever it finds
    written                        one document, at the reference's path or below its collection
    subscribed                     a subscription, and the first delivery owed to it

`Store.Ends` lists how an operation can end *before* anyone is told, and `Store.ends` goes through
the operations once; the counters, the frame and the snapshot a write is answered with are read off
its cases.

Listeners are told after that, and they call the store as they like.  What they do cannot reach the
reply, which the caller's program was handed together with the change (`Unwinds.outer`), and it
counts for itself (`operations_after`).
-/

namespace DocDispatch

variable {σ L α : Type}

namespace Call

/-- **The reference of an operation**; calls of other kinds have none. -/
def reference? : Call L → Option Reference
  | get r | set r _ _ | update r _ | add r _ | listen r _ => some r
  | _ => none

/-- Whether the operation is one that its reference does not support. -/
def isUnsupported : Call L → Bool
  | set (.query _) _ _ | update (.query _) _ | add (.document _) _ => true
  | _ => false

/-- Whether a call counts as an operation. -/
def counts (c : Call L) : Bool := c.reference?.isSome && !c.isUnsupported

/-- Whether a call only reads. -/
def reads : Call L → Bool
  | get _ => true
  | _ => false

/-- Whether an operation is to write a document… -/
def writes : Call L → Bool
  | set .. | update .. | add .. => true
  | _ => false

/-- …and one that is not there yet. -/
def adds : Call L → Bool
  | add .. => true
  | _ => false

/-- Where an operation may write: at its reference's path, or below it if it adds a document. -/
def Addresses (path : String) : Call L → Prop
  | set r _ _ | update r _ => path = r.path
  | add r _ => ∃ id, path = Store.below r.path ++ id
  | _ => False

/-- The error that an operation is answered with. -/
def refusal? : (c : Call L) → c.Reply → Option StoreError
  | get _, .error e | set .., .error e | update .., .error e | add .., .error e
  | listen .., .error e => some e
  | _, _ => none

/-- The document that a write is answered with. -/
def written? : (c : Call L) → c.Reply → Option Snapshot
  | set .., .ok (.one d) | update .., .ok (.one d) | add .., .ok (.many [d]) => some d
  | _, _ => none

/-- No call does both. -/
theorem not_reads_of_writes {c : Call L} (h : c.writes) : ¬ c.reads := by
  cases c with
  | get => cases h
  | _ => exact nofun

end Call

namespace Store

/-! ## How an operation ends -/

/-- **How an operation ends**, before anyone is told. -/
inductive Ends (s : Store L) (c : Call L) (p : Performed c) : Prop
  | unsupported (unsupported : c.isUnsupported) (same : p.store = s)
      (refused : (c.refusal? p.reply).isSome) (silent : p.flushes = false)
  /-- It has met a pending failure… -/
  | injected {e : StoreError} (counts : c.counts) (pending : s.pendingFailure = some e)
      (store : p.store = s.charged) (refused : c.refusal? p.reply = some e)
      (silent : p.flushes = false)
  /-- …or an error of its own, perhaps after an id was generated. -/
  | refused (generated : Nat) {e : StoreError} (counts : c.counts)
      (unharmed : s.pendingFailure = none)
      (store : p.store = s.withCounts none (s.operations + 1) generated)
      (refused : c.refusal? p.reply = some e) (silent : p.flushes = false)
  | read (counts : c.counts) (unharmed : s.pendingFailure = none) (store : p.store = s.charged)
      (reads : c.reads) (silent : p.flushes = false)
  | written (path : String) (data : Fields) (generated : Nat) (counts : c.counts)
      (unharmed : s.pendingFailure = none)
      (store : p.store = (s.write path data).withCounts none (s.operations + 1) generated)
      (writes : c.writes) (addresses : c.Addresses path)
      (new : c.adds → s.documents.get? path = none)
      (answered : c.written? p.reply = some (p.store.snapshot path))
      (accepted : c.refusal? p.reply = none)
  | subscribed {r : Reference} {listener : L} (listens : c = .listen r listener)
      (unharmed : s.pendingFailure = none) (counted : p.store.operations = s.operations + 1)
      (consumed : p.store.pendingFailure = none) (accepted : c.refusal? p.reply = none)

section

variable (freshId : Nat → String) {s : Store L}

/-- **Every operation ends in one of the ways listed.**  One that its target does not support is
refused at once… -/
theorem ends_of_isUnsupported {c : Call L} (h : c.isUnsupported) :
    s.Ends c (s.perform freshId c) := by
  cases c with
  | set r data options =>
    cases r with
    | document r => cases h
    | query q => exact .unsupported rfl rfl rfl rfl
  | update r data =>
    cases r with
    | document r => cases h
    | query q => exact .unsupported rfl rfl rfl rfl
  | add r data =>
    cases r with
    | document r => exact .unsupported rfl rfl rfl rfl
    | query q => cases h
  | _ => cases h

/-- …one that meets an injected error ends with it… -/
theorem ends_of_pending {c : Call L} (counts : c.counts) {e : StoreError}
    (pending : s.pendingFailure = some e) : s.Ends c (s.perform freshId c) := by
  cases c with
  | get r =>
    cases r <;> refine .injected counts pending ?_ ?_ rfl <;>
      simp only [perform, attempt_of_some pending] <;> rfl
  | set r data options =>
    cases r with
    | document r =>
      refine .injected counts pending ?_ ?_ ?_ <;>
        simp only [perform, attempt_of_some pending] <;> rfl
    | query q => cases counts
  | update r data =>
    cases r with
    | document r =>
      refine .injected counts pending ?_ ?_ ?_ <;>
        simp only [perform, attempt_of_some pending] <;> rfl
    | query q => cases counts
  | add r data =>
    cases r with
    | document r => cases counts
    | query q =>
      refine .injected counts pending ?_ ?_ ?_ <;>
        simp only [perform, attempt_of_some pending] <;> rfl
  | listen r listener =>
    cases r <;> refine .injected counts pending ?_ ?_ ?_ <;>
      simp only [perform, attempt_of_some pending] <;> rfl
  | _ => cases counts

/-- …and then it depends on the operation: reading leaves everything as it was… -/
theorem ends_get (unharmed : s.pendingFailure = none) (r : Reference) :
    s.Ends (.get r) (s.perform freshId (.get r)) := by
  cases r with
  | document r =>
    refine .read rfl unharmed ?_ rfl rfl
    simp only [perform, attempt_of_none unharmed]
    rfl
  | query q =>
    refine .read rfl unharmed ?_ rfl rfl
    simp only [perform, attempt_of_none unharmed]
    rfl

/-- …setting writes… -/
theorem ends_set (unharmed : s.pendingFailure = none) (r : DocumentRef) (data : Fields)
    (options : SetOptions) :
    s.Ends (.set (.document r) data options)
      (s.perform freshId (.set (.document r) data options)) := by
  refine .written r.path (s.dataToSet r.path data options) s.generated rfl unharmed ?_ rfl rfl
      (fun adds => absurd adds Bool.false_ne_true) ?_ ?_ <;>
    simp only [perform, attempt_of_none unharmed] <;> rfl

/-- …updating writes where there is something to update… -/
theorem ends_update (unharmed : s.pendingFailure = none) (r : DocumentRef) (data : Fields) :
    s.Ends (.update (.document r) data) (s.perform freshId (.update (.document r) data)) := by
  have same : s.charged.documents = s.documents := rfl
  cases found : s.documents.get? r.path with
  | none =>
    refine .refused (e := .notFound r.path) s.generated rfl unharmed ?_ ?_ ?_ <;>
      simp only [perform, attempt_of_none unharmed, updateDocument, same, found] <;> rfl
  | some existing =>
    refine .written r.path (FieldPath.update existing data) s.generated rfl unharmed ?_ rfl rfl
        (fun adds => absurd adds Bool.false_ne_true) ?_ ?_ <;>
      simp only [perform, attempt_of_none unharmed, updateDocument, same, found] <;> rfl

/-- …adding writes under a path that was free… -/
theorem ends_add (unharmed : s.pendingFailure = none) (q : QueryRef) (data : Fields) :
    s.Ends (.add (.query q) data) (s.perform freshId (.add (.query q) data)) := by
  have same : s.charged.documents = s.documents := rfl
  have next : s.charged.generated = s.generated := rfl
  by_cases addable : q.targetsCollection ∧ q.filters = []
  · by_cases there : s.documents.contains (below q.path ++ freshId (s.generated + 1))
    · refine .refused (e := .alreadyExists (below q.path ++ freshId (s.generated + 1)))
          (s.generated + 1) rfl unharmed ?_ ?_ ?_ <;>
        simp only [perform, attempt_of_none unharmed, addDocument, same, next, if_pos addable,
          if_pos there] <;> rfl
    · refine .written (below q.path ++ freshId (s.generated + 1)) data (s.generated + 1) rfl
          unharmed ?_ rfl ⟨_, rfl⟩ (fun _ => Option.not_isSome_iff_eq_none.mp there) ?_ ?_ <;>
        simp only [perform, attempt_of_none unharmed, addDocument, same, next, if_pos addable,
          if_neg there] <;> rfl
  · refine .refused (e := .invalidReference (.notAddable (Reference.query q).display))
        s.generated rfl unharmed ?_ ?_ ?_ <;>
      simp only [perform, attempt_of_none unharmed, addDocument, if_neg addable] <;> rfl

/-- …and listening registers, or is refused with the error of its query. -/
theorem ends_listen (unharmed : s.pendingFailure = none) (r : Reference) (listener : L) :
    s.Ends (.listen r listener) (s.perform freshId (.listen r listener)) := by
  cases r with
  | document r =>
    refine .subscribed rfl unharmed ?_ ?_ ?_ <;>
      simp only [perform, attempt_of_none unharmed] <;> rfl
  | query q =>
    have same : s.charged.runQuery q = s.runQuery q := rfl
    cases found : s.runQuery q with
    | ok docs =>
      refine .subscribed rfl unharmed ?_ ?_ ?_ <;>
        simp only [perform, attempt_of_none unharmed, listenQuery, same, found] <;> rfl
    | error e =>
      refine .refused (e := e) s.generated rfl unharmed ?_ ?_ ?_ <;>
        simp only [perform, attempt_of_none unharmed, listenQuery, same, found] <;> rfl

/-- **Every operation ends in one of these ways.** -/
theorem ends {c : Call L} (operation : c.reference?.isSome) : s.Ends c (s.perform freshId c) := by
  by_cases unsupported : c.isUnsupported
  · exact ends_of_isUnsupported freshId unsupported
  cases pending : s.pendingFailure with
  | some e => exact ends_of_pending freshId (by simp [Call.counts, operation, unsupported]) pending
  | none =>
    cases c with
    | get r => exact ends_get freshId pending r
    | set r data options =>
      cases r with
      | document r => exact ends_set freshId pending r data options
      | query q => exact absurd rfl unsupported
    | update r data =>
      cases r with
      | document r => exact ends_update freshId pending r data
      | query q => exact absurd rfl unsupported
    | add r data =>
      cases r with
      | document r => exact absurd rfl unsupported
      | query q => exact ends_add freshId pending q data
    | listen r listener => exact ends_listen freshId pending r listener
    | _ => cases operation

end

/-! ## What an operation leaves alone -/

/-- **What an operation that writes nothing leaves as it was**: all but the counters. -/
structure Untouched (s s' : Store L) : Prop where
  documents : s'.documents = s.documents
  documentSubs : s'.documentSubs = s.documentSubs
  querySubs : s'.querySubs = s.querySubs
  nextId : s'.nextId = s.nextId
  queue : s'.queue = s.queue

/-- Counting touches nothing. -/
theorem untouched_withCounts (s : Store L) (pendingFailure : Option StoreError)
    (operations generated : Nat) :
    s.Untouched (s.withCounts pendingFailure operations generated) :=
  ⟨rfl, rfl, rfl, rfl, rfl⟩

/-- **One document has been written**, and its deliveries queued: the document map differs only
where the operation may write, and there it holds the snapshot `d`. -/
structure Wrote (s : Store L) (c : Call L) (s' : Store L) (d : Snapshot) : Prop where
  addressed : c.Addresses d.path
  new : c.adds → s.documents.get? d.path = none
  others : ∀ path, path ≠ d.path → s'.documents.get? path = s.documents.get? path
  there : d.isPresent
  held : d = s'.snapshot d.path
  queued : s'.queue = s.queue ++ s'.owed d.path

theorem wrote_write {s : Store L} {c : Call L} {path : String} (addresses : c.Addresses path)
    (new : c.adds → s.documents.get? path = none) (data : Fields)
    (pendingFailure : Option StoreError) (operations generated : Nat) :
    s.Wrote c ((s.write path data).withCounts pendingFailure operations generated)
      ((s.write path data).snapshot path) where
  addressed := addresses
  new := new
  others := fun _ other => Assoc.get?_insert_of_ne other data _
  there := by
    change ((s.documents.insert path data).get? path).isSome
    rw [OrderedMap.get?, OrderedMap.insert, Assoc.get?_insert_self]
    rfl
  held := rfl
  queued := rfl

/-! ## What the endings have in common -/

namespace Ends

variable {s : Store L} {c : Call L} {p : Performed c}

theorem of_isUnsupported (h : s.Ends c p) (unsupported : c.isUnsupported) :
    p.store = s ∧ (c.refusal? p.reply).isSome ∧ p.flushes = false := by
  have uncounted : ¬ c.counts := by simp [Call.counts, unsupported]
  cases h with
  | unsupported _ same refused silent => exact ⟨same, refused, silent⟩
  | injected counts | refused _ counts | read counts | written _ _ _ counts =>
    exact absurd counts uncounted
  | subscribed listens =>
    rw [listens] at unsupported
    cases unsupported

/-- An operation counts once and takes a pending failure. -/
theorem counted (h : s.Ends c p) (counts : c.counts) :
    p.store.operations = s.operations + 1 ∧ p.store.pendingFailure = none := by
  cases h with
  | unsupported unsupported => simp [Call.counts, unsupported] at counts
  | subscribed _ _ counted consumed => exact ⟨counted, consumed⟩
  | injected _ _ store | refused _ _ _ store | read _ _ store | written _ _ _ _ _ store =>
    rw [store]
    exact ⟨rfl, rfl⟩

/-- The failure it takes is what it is answered with. -/
theorem refusal_eq_pendingFailure (h : s.Ends c p) (counts : c.counts) {e : StoreError}
    (pending : s.pendingFailure = some e) : c.refusal? p.reply = some e := by
  cases h with
  | unsupported unsupported => simp [Call.counts, unsupported] at counts
  | injected _ pending' _ refused => rw [refused, ← pending', pending]
  | refused _ _ unharmed | read _ unharmed | written _ _ _ _ unharmed | subscribed _ unharmed =>
    rw [unharmed] at pending
    cases pending

/-- **An operation that is refused, or only reads, touches nothing and has nothing to send.** -/
theorem untouched (h : s.Ends c p) (idle : c.reads ∨ (c.refusal? p.reply).isSome) :
    s.Untouched p.store ∧ p.flushes = false := by
  cases h with
  | unsupported _ same _ silent => exact ⟨same ▸ s.untouched_withCounts _ _ _, silent⟩
  | injected _ _ store _ silent | refused _ _ _ store _ silent | read _ _ store _ silent =>
    exact ⟨store ▸ s.untouched_withCounts _ _ _, silent⟩
  | written _ _ _ _ _ _ writes _ _ _ accepted =>
    rw [accepted] at idle
    rcases idle with reads | refused
    · exact absurd reads (Call.not_reads_of_writes writes)
    · cases refused
  | subscribed listens _ _ _ accepted =>
    rw [accepted, listens] at idle
    rcases idle with reads | refused
    · cases reads
    · cases refused

/-- A write that is not refused has written one document, and is answered with it. -/
theorem wrote (h : s.Ends c p) (writes : c.writes) (accepted : c.refusal? p.reply = none) :
    ∃ d, c.written? p.reply = some d ∧ s.Wrote c p.store d := by
  cases h with
  | unsupported _ _ refused =>
    rw [accepted] at refused
    cases refused
  | injected _ _ _ refused | refused _ _ _ _ refused =>
    rw [accepted] at refused
    cases refused
  | read _ _ _ reads => exact absurd reads (Call.not_reads_of_writes writes)
  | written _ _ _ _ _ store _ addresses new answered =>
    refine ⟨_, answered, ?_⟩
    rw [store]
    exact wrote_write addresses new _ _ _ _
  | subscribed listens =>
    rw [listens] at writes
    cases writes

end Ends

/-- **What an operation owes its caller before anyone is told.** -/
structure Atomic (freshId : Nat → String) (s : Store L) (c : Call L) : Prop where
  unsupported : c.isUnsupported → (s.perform freshId c).store = s ∧
    (c.refusal? (s.perform freshId c).reply).isSome ∧ (s.perform freshId c).flushes = false
  counted : c.counts → (s.perform freshId c).store.operations = s.operations + 1 ∧
    (s.perform freshId c).store.pendingFailure = none
  injected : c.counts → ∀ e, s.pendingFailure = some e →
    c.refusal? (s.perform freshId c).reply = some e
  untouched : c.reads ∨ (c.refusal? (s.perform freshId c).reply).isSome →
    s.Untouched (s.perform freshId c).store
  wrote : c.writes → c.refusal? (s.perform freshId c).reply = none →
    ∃ d, c.written? (s.perform freshId c).reply = some d ∧ s.Wrote c (s.perform freshId c).store d

/-- **An operation is atomic**: it has its whole effect, or none. -/
theorem atomic (freshId : Nat → String) {s : Store L} {c : Call L}
    (operation : c.reference?.isSome) : s.Atomic freshId c :=
  have ends := s.ends freshId operation
  { unsupported := ends.of_isUnsupported
    counted := ends.counted
    injected := fun counts _ => ends.refusal_eq_pendingFailure counts
    untouched := fun idle => (ends.untouched idle).1
    wrote := ends.wrote }

/-- Every call adds to the counter what it counts for. -/
theorem perform_operations (freshId : Nat → String) (s : Store L) (c : Call L) :
    (s.perform freshId c).store.operations = s.operations + c.counts.toNat := by
  by_cases operation : c.reference?.isSome
  · have ends := s.ends freshId operation
    cases counts : c.counts with
    | true => exact (ends.counted counts).1
    | false =>
      have unsupported : c.isUnsupported := by simpa [Call.counts, operation] using counts
      rw [(ends.of_isUnsupported unsupported).1]
      rfl
  · cases c with
    | get | set | update | add | listen => exact absurd rfl operation
    | _ => rfl

end Store

namespace Run

/-! ## Handing over the reply -/

/-- The run after the call of the next step has been made and answered, with nothing sent. -/
def answered (env : Environment σ L) (r : Run σ L α) : Run σ L α :=
  match r.stack, r.outer with
  | [], .call c next =>
    let p := r.store.perform env.freshId c
    { r with store := p.store, outer := next p.reply }
  | .listener (.call c next) :: below, _ =>
    let p := r.store.perform env.freshId c
    { r with store := p.store, stack := .listener (next p.reply) :: below }
  | _, _ => r

/-- **A step that makes a call hands over the reply, and only then sees to sending the queue.** -/
theorem step_of_calling (env : Environment σ L) {r : Run σ L α} {c : Call L}
    (calling : r.calling? = some c) :
    r.step env = (r.answered env).flush (r.store.perform env.freshId c).flushes ∧
      (r.answered env).store = (r.store.perform env.freshId c).store ∧ r.handed = [] := by
  obtain ⟨store, host, outer, stack⟩ := r
  cases stack with
  | nil =>
    cases outer with
    | call c next =>
      obtain rfl := Option.some.inj calling
      exact ⟨rfl, rfl, rfl⟩
    | _ => cases calling
  | cons top below =>
    cases top with
    | drain => cases calling
    | listener p =>
      cases p with
      | call c next =>
        obtain rfl := Option.some.inj calling
        exact ⟨rfl, rfl, rfl⟩
      | _ => cases calling

theorem flush_false (r : Run σ L α) : r.flush false = r := rfl

/-- Inside a drain no other is begun. -/
theorem flush_of_draining {r : Run σ L α} (h : r.store.draining) (wanted : Bool) :
    r.flush wanted = r := by
  simp [flush, h]

@[simp] theorem flush_outer (r : Run σ L α) (wanted : Bool) : (r.flush wanted).outer = r.outer := by
  unfold flush
  split <;> rfl

/-- **Above a caller that waits, anything may happen but that its program changes**: it is swept
away, or goes on as it was. -/
theorem step_outer_of_stack (env : Environment σ L) {r : Run σ L α} (h : r.stack ≠ []) :
    (r.step env).outer = r.outer ∨ (r.step env).outer = .panic := by
  obtain ⟨store, host, outer, stack⟩ := r
  cases stack with
  | nil => exact absurd rfl h
  | cons top below =>
    cases top with
    | drain => cases hq : store.queue <;> exact Or.inl (by simp [step, hq])
    | listener p =>
      cases p with
      | panic => exact Or.inr rfl
      | call c next => exact Or.inl (flush_outer _ _)
      | _ => exact Or.inl rfl

/-- A step adds to the counter what its call counts for. -/
theorem operations_step (env : Environment σ L) (r : Run σ L α) :
    (r.step env).store.operations =
      r.store.operations + r.calling?.toList.countP Call.counts := by
  obtain ⟨queue, draining, store⟩ := r.step_store env
  rw [store]
  change (r.called env).operations = _
  unfold called
  cases r.calling? with
  | none => rfl
  | some c =>
    refine (Store.perform_operations ..).trans ?_
    cases counts : c.counts <;> simp [counts]

end Run

namespace Audit

/-! ## Calls in a run -/

/-- The calls of the next `n` steps. -/
def calls (env : Environment σ L) : Nat → Audit σ L α → List (Call L)
  | 0, _ => []
  | n + 1, a => a.run.calling?.toList ++ calls env n (a.step env)

/-- **The counter counts operations**, however deep in a drain they are called. -/
theorem operations_after (env : Environment σ L) (n : Nat) (a : Audit σ L α) :
    (a.after env n).run.store.operations =
      a.run.store.operations + (a.calls env n).countP Call.counts := by
  induction n generalizing a with
  | zero => rfl
  | succ n ih =>
    rw [after, ih, calls, List.countP_append, ← Nat.add_assoc]
    exact congrArg (· + _) (a.run.operations_step env)

/-- **Unwinding may only panic the program that waits.** -/
theorem Unwinds.outer {env : Environment σ L} {a b : Audit σ L α} (h : a.Unwinds env b) :
    b.run.outer = a.run.outer ∨ b.run.outer = .panic := by
  induction h with
  | done _ => exact Or.inl rfl
  | step inside _ ih =>
    rcases ih with same | swept
    · rcases Run.step_outer_of_stack env inside with same' | swept
      · exact Or.inl (same.trans same')
      · exact Or.inr (same.trans swept)
    · exact Or.inr swept

/-- **A call that touches nothing and has nothing to send is answered, and that is all.** -/
theorem step_of_untouched {env : Environment σ L} {a : Audit σ L α} {c : Call L}
    (calling : a.run.calling? = some c)
    (untouched : a.run.store.Untouched (a.run.store.perform env.freshId c).store)
    (silent : (a.run.store.perform env.freshId c).flushes = false) :
    a.step env = { a with run := a.run.answered env } := by
  obtain ⟨step, -, handed⟩ := Run.step_of_calling env calling
  have unnoticed : a.run.noticed env = [] := by
    have queue := untouched.queue
    rw [Store.perform_queue, List.append_right_eq_self, List.map_eq_nil_iff] at queue
    rw [Run.noticed, calling]
    exact queue
  rw [silent, Run.flush_false] at step
  rw [Audit.step, step, handed, unnoticed, List.append_nil, List.append_nil]

/-- **Operations are atomic, and touch only what they name.**  Whatever state the store is in and
whoever makes the call, an operation counts once, takes a pending failure and is answered with it;
one that is refused or only reads touches nothing and calls nobody, so that the step which makes it
does no more than hand over the reply; a write changes one document, at its reference's path or, if
it adds one, at a path below it that held none; and one that is not supported does not even count.
A write is answered with the document as it is when its deliveries are queued: that is what the
caller goes on with, unless a listener's panic sweeps it away, and whatever listeners write in
between.  The counter grows by what that operation counts for and then by what each later call does,
those of listeners among them. -/
theorem operation_atomic (env : Environment σ L) (a : Audit σ L α) {c : Call L}
    (calling : a.run.calling? = some c) (operation : c.reference?.isSome) :
    a.run.store.Atomic env.freshId c ∧
    (∃ draining, (a.step env).run.store =
      { (a.run.store.perform env.freshId c).store with draining }) ∧
    (c.reads ∨ (c.refusal? (a.run.store.perform env.freshId c).reply).isSome →
      a.step env = { a with run := a.run.answered env }) ∧
    (∀ next b, a.run.stack = [] → a.run.outer = .call c next → (a.step env).Unwinds env b →
      b.run.outer = next (a.run.store.perform env.freshId c).reply ∨ b.run.outer = .panic) ∧
    (∀ next below, a.run.stack = .listener (.call c next) :: below → a.run.store.draining →
      (a.step env).run.stack =
        .listener (next (a.run.store.perform env.freshId c).reply) :: below) ∧
    ∀ n, ((a.step env).after env n).run.store.operations =
      a.run.store.operations + c.counts.toNat + ((a.step env).calls env n).countP Call.counts := by
  obtain ⟨step, store, -⟩ := Run.step_of_calling env calling
  have ends := a.run.store.ends env.freshId operation
  refine ⟨Store.atomic env.freshId operation, ?_, fun idle => ?_, fun next b hs ho hb => ?_,
    fun next below hs draining => ?_, fun n => ?_⟩
  · obtain ⟨draining, flushed⟩ :=
      (a.run.answered env).flush_store (a.run.store.perform env.freshId c).flushes
    exact ⟨draining, by rw [Audit.step, step, flushed, store]⟩
  · obtain ⟨untouched, silent⟩ := ends.untouched idle
    exact step_of_untouched calling untouched silent
  · have answered : (a.step env).run.outer = next (a.run.store.perform env.freshId c).reply := by
      rw [Audit.step, step, Run.flush_outer]
      simp only [Run.answered, hs, ho]
    rw [← answered]
    exact hb.outer
  · have draining : (a.run.answered env).store.draining := by
      rw [store, Store.perform_draining, draining]
    rw [Audit.step, step, Run.flush_of_draining draining]
    simp only [Run.answered, hs]
  · rw [operations_after]
    refine congrArg (· + _) ?_
    rw [Audit.step, Run.operations_step, calling]
    cases counts : c.counts <;> simp [counts]

/-- Listeners that put another text in place of any document that says "ours". -/
def usurping : Environment Unit Unit where
  respond _ outcome :=
    match outcome with
    | .ok (.one d) =>
      if d.get? "text" = some (.string "ours") then
        .perform (.put d.path [("text", .string "theirs")])
      else .done ()
    | _ => .done ()
  freshId _ := ""

/-- Someone sets a document that such a listener is subscribed to, and is about to make the call. -/
def contested : Audit Unit Unit Outcome :=
  let user : Reference := .document ⟨[.collection "users", .doc "a"]⟩
  let listening : Program Unit Unit (Except StoreError Nat) := .perform (.listen user ())
  ((start .empty () listening).after usurping 4).next
    (.perform (.set user [("text", .string "ours")] ⟨false⟩))

/-- The caller is answered with its own text, although the listener has put another one there. -/
theorem operation_atomic_contested :
    ∃ (d : Snapshot) (b : Audit Unit Unit Outcome), (contested.step usurping).Unwinds usurping b ∧
      b.run.outer = .done (.ok (.one d)) ∧ d.get? "text" = some (.string "ours") ∧
      (b.run.store.snapshot d.path).get? "text" = some (.string "theirs") := by
  have ended : (contested.step usurping).Unwinds usurping
      ((contested.step usurping).after usurping 6) :=
    .step nofun (.step nofun (.step nofun (.step nofun (.step nofun (.step nofun (.done rfl))))))
  have law := operation_atomic usurping contested (c := .set _ _ _) rfl rfl
  rcases law.2.2.2.1 _ _ rfl rfl ended with answered | swept
  · exact ⟨_, _, ended, answered, rfl, rfl⟩
  · exact absurd swept nofun

end Audit

end DocDispatch
