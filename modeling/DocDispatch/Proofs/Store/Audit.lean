import DocDispatch.Proofs.Store.Effect
import DocDispatch.Store.Machine

/-!
# Proofs/Store/Audit — runs with books

    queued :  n₁ n₂ n₃ n₄ n₅        every notice ever queued
    sent   :  d₁ d₂ d₃              what listeners have been handed
    queue  :           d₄ d₅        what the store still owes

An audit is a run of the machine beside which two books are kept.  `queued` grows by the notices of
the effect of each call, `sent` by the delivery that a drain takes to call its listener; neither
book is ever read by the run.  `Reachable` goes through all audits that begin with a fresh store:
programs run one after another on the store the one before left, whether it returned or panicked.
-/

namespace DocDispatch

variable {σ L α β : Type}

namespace Run

/-- **The call the next step makes, from outside or from a listener.** -/
def calling? (r : Run σ L α) : Option (Call L) :=
  match r.stack, r.outer with
  | [], .call c _ => some c
  | .listener (.call c _) :: _, _ => some c
  | _, _ => none

/-- **The notices the next step queues.** -/
def noticed (env : Environment σ L) (r : Run σ L α) : List (Notice L) :=
  match r.calling? with
  | some c => (r.store.effect env.freshId c).notices r.store
  | none => []

/-- **The store as the call of the next step leaves it, if that step makes one.** -/
def called (env : Environment σ L) (r : Run σ L α) : Store L :=
  match r.calling? with
  | some c => (r.store.perform env.freshId c).store
  | none => r.store

/-- **The delivery with which the next step calls a listener, if it calls one.** -/
def handed (r : Run σ L α) : List (Delivery L) :=
  match r.stack, r.store.queue with
  | .drain :: _, d :: _ => [d]
  | _, _ => []

/-- **Sending may begin or not**; nothing else of the store is changed by that. -/
theorem flush_store (r : Run σ L α) (wanted : Bool) :
    ∃ draining, (r.flush wanted).store = { r.store with draining } := by
  unfold flush
  split <;> exact ⟨_, rfl⟩

/-- **A step makes its call**; anything else it does to the store is about who sends the queue. -/
theorem step_store (env : Environment σ L) (r : Run σ L α) :
    ∃ queue draining, (r.step env).store = { r.called env with queue, draining } := by
  obtain ⟨store, host, outer, stack⟩ := r
  cases stack with
  | nil =>
    cases outer with
    | call c next =>
      obtain ⟨draining, h⟩ := flush_store
        (⟨(store.perform env.freshId c).store, host, next _, []⟩ : Run σ L α) _
      exact ⟨_, draining, h⟩
    | _ => exact ⟨store.queue, store.draining, rfl⟩
  | cons top below =>
    cases top with
    | drain =>
      cases hq : store.queue with
      | nil => exact ⟨store.queue, false, by simp [step, hq, called, calling?]⟩
      | cons d queue => exact ⟨queue, store.draining, by simp [step, hq, called, calling?]⟩
    | listener p =>
      cases p with
      | call c next =>
        obtain ⟨draining, h⟩ := flush_store
          (⟨(store.perform env.freshId c).store, host, outer, .listener (next _) :: below⟩ :
            Run σ L α) _
        exact ⟨_, draining, h⟩
      | panic => exact ⟨store.queue, _, rfl⟩
      | _ => exact ⟨store.queue, store.draining, rfl⟩

end Run

/-- **A run with its books.** -/
structure Audit (σ L α : Type) where
  run : Run σ L α
  /-- Every notice ever queued, the first one first. -/
  queued : List (Notice L)
  /-- Every delivery a listener was called with, the first one first. -/
  sent : List (Delivery L)

namespace Audit

/-- **A program on a fresh store.** -/
def start (documents : OrderedMap Fields) (host : σ) (p : Program σ L α) : Audit σ L α :=
  ⟨Run.start (.ofDocuments documents) host p, [], []⟩

/-- **One step, entered in the books.** -/
def step (env : Environment σ L) (a : Audit σ L α) : Audit σ L α :=
  ⟨a.run.step env, a.queued ++ a.run.noticed env, a.sent ++ a.run.handed⟩

/-- Some steps. -/
def after (env : Environment σ L) : Nat → Audit σ L α → Audit σ L α
  | 0, a => a
  | n + 1, a => after env n (a.step env)

/-- Steps add up. -/
theorem after_add (env : Environment σ L) (m n : Nat) (a : Audit σ L α) :
    a.after env (m + n) = (a.after env m).after env n := by
  induction m generalizing a with
  | zero => rw [Nat.zero_add, after]
  | succ m ih => rw [Nat.succ_add, after, after, ih]

/-- **The next program, on the store that the one before left.** -/
def next (a : Audit σ L α) (p : Program σ L β) : Audit σ L β :=
  ⟨Run.start a.run.store a.run.host p, a.queued, a.sent⟩

/-- **The audits of programs run one after another**, each from its start to its end, in which
listeners respond as `env` says. -/
inductive Reachable (env : Environment σ L) : ∀ {α : Type}, Audit σ L α → Prop
  | start {α : Type} (documents : OrderedMap Fields) (host : σ) (p : Program σ L α) :
      Reachable env (.start documents host p)
  | step {α : Type} {a : Audit σ L α} (h : Reachable env a) : Reachable env (a.step env)
  | next {α β : Type} {a : Audit σ L α} (h : Reachable env a) (ended : a.run.isOver)
      (p : Program σ L β) : Reachable env (a.next p)

/-- **What is reached from a reachable audit is reachable.** -/
theorem Reachable.after {env : Environment σ L} :
    ∀ (n : Nat) {a : Audit σ L α}, a.Reachable env → (a.after env n).Reachable env
  | 0, _, h => h
  | n + 1, _, h => Reachable.after n h.step

/-- **From an audit inside a call to the one where nothing above the outermost program is active**:
the call has returned or has been swept away by a panic. -/
inductive Unwinds (env : Environment σ L) : Audit σ L α → Audit σ L α → Prop
  | done {a : Audit σ L α} (h : a.run.stack = []) : Unwinds env a a
  | step {a b : Audit σ L α} (h : a.run.stack ≠ []) (rest : Unwinds env (a.step env) b) :
      Unwinds env a b

/-- **The notices of the deliveries sent so far**: deliveries leave the queue as they entered it. -/
def delivered (a : Audit σ L α) : List (Notice L) := a.queued.take a.sent.length

/-! ## What effects keep, every run keeps -/

/-- **A property of a store and its notices that every effect keeps**, and that the counters, the
queue and the flag do not matter to. -/
structure Kept (P : Store L → List (Notice L) → Prop) : Prop where
  start : ∀ documents, P (.ofDocuments documents) []
  apply : ∀ {s notices} (e : Effect L), P s notices → P (e.apply s) (notices ++ e.notices s)
  counts : ∀ {s notices} pendingFailure operations generated, P s notices →
    P (s.withCounts pendingFailure operations generated) notices
  queue : ∀ {s notices} queue draining, P s notices → P { s with queue, draining } notices

/-- **What is kept by every effect is kept by every step.** -/
theorem Kept.step {P : Store L → List (Notice L) → Prop} (hP : Kept P) {env : Environment σ L}
    {a : Audit σ L α} (h : P a.run.store a.queued) :
    P (a.step env).run.store (a.step env).queued := by
  have called : P (a.run.called env) (a.queued ++ a.run.noticed env) := by
    unfold Run.called Run.noticed
    cases a.run.calling? with
    | none => simpa using h
    | some c =>
      obtain ⟨pendingFailure, operations, generated, store⟩ :=
        a.run.store.perform_store env.freshId c
      simp only [store]
      exact hP.counts _ _ _ (hP.apply _ h)
  obtain ⟨queue, draining, store⟩ := a.run.step_store env
  change P (a.run.step env).store _
  rw [store]
  exact hP.queue _ _ called

/-- **Every reachable audit has it.** -/
theorem Reachable.kept {P : Store L → List (Notice L) → Prop} (hP : Kept P)
    {env : Environment σ L} {a : Audit σ L α} (h : a.Reachable env) :
    P a.run.store a.queued := by
  induction h with
  | start documents _ _ => exact hP.start documents
  | step _ ih => exact hP.step ih
  | next _ _ _ ih => exact ih

end Audit

end DocDispatch
