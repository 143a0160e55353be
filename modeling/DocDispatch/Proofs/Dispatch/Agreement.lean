import DocDispatch.Proofs.Descriptor.Method
import DocDispatch.Proofs.Dispatch.Content
import DocDispatch.Proofs.Dispatch.Operating
import DocDispatch.Proofs.Dispatch.Recording
import DocDispatch.Proofs.Store.Calm
import DocDispatch.Proofs.Store.Chronicle

/-!
# Proofs/Dispatch/Agreement — a subscription has told what reading would tell

    write ─▸ notice ─▸ delivery ─▸ outcome ─┐
                                            ├─▸ verdict ─▸ action
    get ─────────────────────────▸ outcome ─┘

Pushed or pulled, an outcome ends in the same exchange, and what that makes of it depends on nothing
else.  Once everything queued has been sent, the outcome that a subscription has heard last is the
one its reference reads now (`Current`), and that is what an operation that reads is answered with.
In a calm run that outcome has been heard out, so it has a verdict, and the two actions are one.
-/

namespace DocDispatch

open Json (Value)

variable {σ L α : Type}

/-! ## What was heard last -/

/-- The last notice to a subscription is of how its reference reads now, if none is of an injected
error. -/
theorem Current.exists_last {s : Store L} {notices : List (Notice L)} (h : Current s notices)
    (natural : ∀ n ∈ notices, n.occasion ≠ .failed) {sub : Subscription Reference L}
    (active : sub ∈ s.subscriptions) :
    ∃ before n after, notices = before ++ n :: after ∧ n.subscription = sub.id ∧
      (∀ n' ∈ after, n'.subscription ≠ sub.id) ∧
      n.delivery = ⟨sub.listener, s.now sub.reference⟩ := by
  have heard : lastHeard notices sub.id = some ⟨sub.listener, s.now sub.reference⟩ := by
    rcases List.mem_append.mp active with there | there
    · obtain ⟨document, mem, rfl⟩ := List.mem_map.mp there
      exact h.document document mem
    · obtain ⟨query, mem, rfl⟩ := List.mem_map.mp there
      exact h.query query mem
  have all : notices.filter (fun n => n.subscription = sub.id ∧ n.occasion ≠ .failed) =
      notices.filter (·.subscription = sub.id) :=
    List.filter_congr fun n mem => by simp [natural n mem]
  rw [lastHeard, all] at heard
  obtain ⟨n, last, delivery⟩ := Option.map_eq_some_iff.mp heard
  obtain ⟨earlier, split⟩ := List.getLast?_eq_some_iff.mp last
  obtain ⟨before, rest, rfl, -, own⟩ := List.filter_eq_append_iff.mp split
  obtain ⟨between, after, rfl, -, same, none⟩ := List.filter_eq_cons_iff.mp own
  refine ⟨before ++ between, n, after, (List.append_assoc ..).symm, of_decide_eq_true same,
    fun n' mem other => ?_, delivery⟩
  exact List.filter_eq_nil_iff.mp none n' mem (decide_eq_true other)

/-! ## What is sent for it -/

namespace Exchange

variable {x : Exchange} {P : Pipeline σ} {outcome : Outcome}

/-- An outcome that has been heard out has a verdict. -/
theorem exists_verdict_of_completes {freshId : Nat → String} {w w' : World σ Exchange}
    (h : Completes ⟨respond P, freshId⟩ w (respond P x outcome) () w') :
    ∃ r, x.verdict outcome = some r := by
  refine Option.ne_none_iff_exists'.mp fun none => ?_
  rw [respond_of_none P none] at h
  exact not_completes_panic h

end Exchange

/-- A call that reads is answered with what its reference reads now, and left to conclude it. -/
theorem PendingCall.step_run_get (env : Environment σ Exchange) {s : Store Exchange}
    (unharmed : s.pendingFailure = none) (host : σ) (x : Exchange) (r : Reference)
    (P : Pipeline σ) :
    (Run.start s host (run ⟨x, r, .get⟩ P)).step env =
      .start s.charged host (x.conclude P (s.now r)) := by
  have answered : Operation.get.perform env.freshId s r = (s.charged, s.now r) :=
    Operation.perform_get unharmed r
  rw [Operation.perform, Prod.mk.injEq] at answered
  change Run.flush ⟨(s.perform env.freshId (.get r)).store, host,
    x.conclude P (s.perform env.freshId (.get r)).reply, []⟩
    (s.perform env.freshId (.get r)).flushes = _
  rw [Operation.flushes_get, answered.1, answered.2]
  rfl

namespace Dispatcher

variable {d : Dispatcher σ}

/-- **What an action asks for by the method for reading.**  Where the predicate does not hold, an
action whose call was launched leaves a call pending that reads the same reference for the same
exchange. -/
theorem handle_withMethod_get {state : Value} {canRun : Bool} {action : Action} {l : Launch}
    (plan : d.plan state canRun action = .ok (.launch l)) {raw : Value}
    (marked : action.get? d.marker = some raw) {descriptor : Descriptor}
    (read : Descriptor.ofJson raw = .ok descriptor) {predicate : Option (Value → Bool)}
    (bailout : d.bailout descriptor.bailout = .ok predicate) {state' : Value}
    (free : holds predicate state' = false) :
    d.handle state' true (action.withMethod d.marker Method.get.name) =
      (l.exchange.request d.pipeline l.payload).bind fun _ =>
        .done (.ok (.pending ⟨l.exchange, l.reference, .get⟩)) := by
  have planned := d.planned state canRun action
  rw [plan] at planned
  cases planned with
  | @launch raw' marked' descriptor' read' schema resolved reference compiled runs =>
    obtain rfl : raw = raw' := Option.some.inj (marked.symm.trans marked')
    obtain rfl : descriptor = descriptor' := Except.ok.inj (read.symm.trans read')
    have marked' := Action.get?_withMethod marked Method.get.name
    have read' := Descriptor.ofJson_withMethod_get read
    have plan' := plan_eq_launch marked' read' bailout free resolved compiled
    rw [handle, plan']
    simp only [start, launch, Descriptor.get, Method.operation?, Action.stripped_withMethod]
    rfl

/-- **Subscribing agrees with reading.**  Take any run in which no listener panics and no error has
been injected into listeners, at a moment when the queue is empty and no listener is at work.  The
last delivery to an active subscription has been heard out, and by it one action, `said`, has been
emitted, after the report of its error if it is a failure.  Handling the action that the
subscription was made for by the method for reading, in any state its predicate does not hold in,
emits the request and leaves a call pending; and once that call has read the present documents, with
no failure pending, what is left of it is to emit the same action after the same report. -/
theorem agrees_with_get {freshId : Nat → String} {a : Audit σ Exchange α}
    (calm : a.Calm (d.environment freshId)) (natural : ∀ n ∈ a.queued, n.occasion ≠ .failed)
    (settled : a.run.store.queue = []) (idle : ∀ p, .listener p ∉ a.run.stack)
    (unharmed : a.run.store.pendingFailure = none)
    {state : Value} {canRun : Bool} {action : Action} {l : Launch}
    (plan : d.plan state canRun action = .ok (.launch l)) {id : Nat}
    (active : ⟨id, l.reference, l.exchange⟩ ∈ a.run.store.subscriptions)
    {raw : Value} (marked : action.get? d.marker = some raw) {descriptor : Descriptor}
    (read : Descriptor.ofJson raw = .ok descriptor) {predicate : Option (Value → Bool)}
    (bailout : d.bailout descriptor.bailout = .ok predicate) {state' : Value}
    (free : holds predicate state' = false) :
    ∃ before n after, a.delivered = before ++ n :: after ∧ n.subscription = id ∧
      (∀ n' ∈ after, n'.subscription ≠ id) ∧
      a.HeardOut (d.environment freshId) (before.map Notice.delivery) n.delivery ∧
    ∃ (r : Except CallError Action) (said : Action),
      (∀ P : Pipeline σ, Exchange.respond P n.delivery.listener n.delivery.outcome =
        (P.tell r said).bind fun _ => .done ()) ∧
      d.handle state' true (action.withMethod d.marker Method.get.name) =
        (l.exchange.request d.pipeline l.payload).bind (fun _ =>
          .done (.ok (.pending ⟨l.exchange, l.reference, .get⟩))) ∧
      ∀ (P : Pipeline σ) (host : σ), (Run.start a.run.store host
          (PendingCall.run ⟨l.exchange, l.reference, .get⟩ P)).step (d.environment freshId) =
        .start a.run.store.charged host (P.tell r said) := by
  have current := calm.reachable.kept Current.kept
  have balanced := calm.reachable.balanced
  obtain ⟨before, n, after, queued, own, last, delivery⟩ := current.exists_last natural active
  have delivered : a.delivered = before ++ n :: after :=
    (balanced.delivered_eq_queued settled).trans queued
  have sent : a.sent = before.map Notice.delivery ++ n.delivery :: after.map Notice.delivery := by
    rw [← balanced.map_delivered, delivered, List.map_append, List.map_cons]
  have heard := calm.heardOut idle _ _ _ sent
  obtain ⟨r, verdict⟩ : ∃ r, n.delivery.listener.verdict n.delivery.outcome = some r := by
    obtain ⟨_, _, _, _, completes, _⟩ := heard
    exact Exchange.exists_verdict_of_completes completes
  refine ⟨before, n, after, delivered, own, last, heard, r, l.exchange.announced r, fun P => ?_,
    handle_withMethod_get plan marked read bailout free, fun P host => ?_⟩
  · rw [Exchange.respond_of_verdict P verdict, delivery]
  · rw [delivery] at verdict
    rw [PendingCall.step_run_get _ unharmed, Exchange.conclude_of_verdict P verdict]

/-- The subscription to an empty collection has been made and told so; then a document is put in it
and told of. -/
def rewatched : Audit Recorder Exchange Unit :=
  let env : Environment Recorder Exchange := History.keeping.environment fun _ => ""
  let made := (Audit.start .empty .empty (History.keeping.handle .null true watch)).after env 6
  (made.next (.perform (.put "users/a" []))).after env 5

/-- There the last delivery is the same success that reading the collection ends with. -/
theorem agrees_with_get_rewatched :
    rewatched.queued.length = 2 ∧ rewatched.run.store.queue = [] ∧
    ∃ before n after, rewatched.delivered = before ++ n :: after ∧ n.subscription = 0 ∧
      (∀ n' ∈ after, n'.subscription ≠ 0) ∧
    ∃ (r : Except CallError Action) (said : Action),
      (∀ P : Pipeline Recorder, Exchange.respond P n.delivery.listener n.delivery.outcome =
        (P.tell r said).bind fun _ => .done ()) ∧
      ∀ (P : Pipeline Recorder) (host : Recorder), (Run.start rewatched.run.store host
          (PendingCall.run ⟨watcher, .query ⟨[.collection "users"], []⟩, .get⟩ P)).step
            (History.keeping.environment fun _ => "") =
        .start rewatched.run.store.charged host (P.tell r said) := by
  have calm : rewatched.Calm (History.keeping.environment fun _ => "") :=
    .after 5 (.next (.after 6 (.start _ _ _) rfl) rfl _) rfl
  have natural : ∀ n ∈ rewatched.queued, n.occasion ≠ .failed :=
    List.forall_mem_cons.mpr ⟨nofun, List.forall_mem_singleton.mpr nofun⟩
  have plan : History.keeping.plan .null true watch =
      .ok (.launch ⟨watcher, none, .query ⟨[.collection "users"], []⟩, none⟩) := rfl
  have named : History.keeping.bailout none = .ok none := rfl
  obtain ⟨before, n, after, delivered, own, last, -, r, said, hears, -, reads⟩ :=
    agrees_with_get calm natural rfl (fun _ => List.not_mem_nil) rfl plan
      (List.mem_singleton_self _) rfl rfl named (rfl : holds none .null = false)
  exact ⟨rfl, rfl, before, n, after, delivered, own, last, r, said, hears, reads⟩

end Dispatcher

end DocDispatch
