import DocDispatch.Proofs.Dispatch.Lifecycle
import DocDispatch.Proofs.Store.Shapes

/-!
# Proofs/Dispatch/Content — what the actions of an invocation hold

                type      payload                 meta
    request     request   the descriptor's        the descriptor's
    success     success   the shaped response     the descriptor's
    failure     failure   the triggering action's  code and message of the error

and everything else as the triggering action has it, its marker apart.  A request is sent before
the store has answered; from then on each action is for one outcome, and which of the other two it
is depends on that outcome alone: it is the very action `Trigger.Says`, which fits the trigger
(`Trigger.Fits`).  A program that sends nothing but fitting actions
`Emits` them; handling the action, running its pending call and responding to each of its deliveries
are such programs.
-/

namespace DocDispatch

open Change (made)
open Json (Value)

variable {σ : Type}

/-! ## Properties of actions -/

namespace Action

variable (a : Action)

theorem get?_insert_self (key : String) (v : Value) : (a.insert key v).get? key = some v :=
  Assoc.get?_insert_self key v _

theorem get?_insert_of_ne {key key' : String} (h : key ≠ key') (v : Value) :
    (a.insert key' v).get? key = a.get? key :=
  Assoc.get?_insert_of_ne h v _

/-- **Setting a property optionally leaves there what it was set to**, nothing included… -/
theorem get?_setOptional_self (key : String) (v : Option Value) :
    (a.setOptional key v).get? key = v := by
  cases v with
  | none => exact Assoc.get?_erase_self _ key
  | some v => exact Assoc.get?_insert_self key v _

/-- …and every other property as it was. -/
theorem get?_setOptional_of_ne {key key' : String} (h : key ≠ key') (v : Option Value) :
    (a.setOptional key' v).get? key = a.get? key := by
  cases v with
  | none => exact Assoc.get?_erase_of_ne _ h
  | some v => exact Assoc.get?_insert_of_ne h v _

/-- Without its call an action keeps everything but the marker. -/
theorem get?_stripped_of_ne {key marker : String} (h : key ≠ marker) :
    (a.stripped marker).get? key = a.get? key :=
  Assoc.get?_erase_of_ne _ h

end Action

/-! ## What is to be in them -/

/-- **What the actions of an invocation are made of**: the action that asked for a store call, and
what is read off it. -/
structure Trigger where
  marker : String
  action : Action
  descriptor : Descriptor
  schema : Option Schema
  reference : Reference

namespace Trigger

/-- What is common to the actions of an invocation. -/
def exchange (t : Trigger) : Exchange :=
  ⟨t.action.stripped t.marker, t.descriptor.types, t.descriptor.metadata, t.schema⟩

/-- An action that has the triggering action's properties, and no others; but its type, its payload
and its metadata are its own. -/
def Keeps (t : Trigger) (a : Action) : Prop :=
  ∀ key, key ≠ t.marker → key ≠ Action.typeKey → key ≠ Action.payloadKey →
    key ≠ Action.metaKey → a.get? key = t.action.get? key

/-- **The request of a call**: the descriptor's type, payload and metadata, absent where it has
none. -/
structure Request (t : Trigger) (a : Action) : Prop where
  keeps : t.Keeps a
  type : a.get? Action.typeKey = some (.string t.descriptor.types.request)
  payload : a.get? Action.payloadKey = t.descriptor.payload
  metadata : a.get? Action.metaKey = t.descriptor.metadata

/-- The kind of value that a response is without a schema. -/
def responseKind (t : Trigger) : Json.Kind :=
  match t.reference with
  | .document _ => .object
  | .query _ => .array

/-- **A success**: the descriptor's type and metadata, and the response as it was shaped. -/
structure Success (t : Trigger) (shaped : Payload Snapshot) (a : Action) : Prop where
  keeps : t.Keeps a
  type : a.get? Action.typeKey = some (.string t.descriptor.types.success)
  payload : a.get? Action.payloadKey = some (shaped.toJson Snapshot.toJson)
  shape : t.schema = none → (shaped.toJson Snapshot.toJson).kind = t.responseKind
  metadata : a.get? Action.metaKey = t.descriptor.metadata

/-- **A failure**: the descriptor's type, the action's own payload, and the error in place of the
metadata. -/
structure Failure (t : Trigger) (e : CallError) (a : Action) : Prop where
  keeps : t.Keeps a
  type : a.get? Action.typeKey = some (.string t.descriptor.types.failure)
  payload : a.get? Action.payloadKey = (t.action.stripped t.marker).get? Action.payloadKey
  metadata : a.get? Action.metaKey =
    some (.object [("code", .string e.code), ("message", .string e.message)])

/-- **The actions that may be sent**, given what the store has last answered. -/
def Fits (t : Trigger) : Option Outcome → Action → Prop
  | none, a => t.Request a
  | some (.error e), a => t.Failure (.storage e) a
  | some (.ok response), a =>
    match Payload.ofResponse t.schema response with
    | .ok shaped => t.Success shaped a
    | .error (.error e) => t.Failure (.schema e) a
    | .error .panic => False

/-- **The very actions that are sent**, given what the store has last answered. -/
def Says (t : Trigger) : Option Outcome → Action → Prop
  | none, a => a = t.exchange.requestAction t.descriptor.payload
  | some outcome, a =>
    t.reference.Yields outcome ∧
      ∃ r, t.exchange.verdict outcome = some r ∧ a = t.exchange.announced r

/-! ## What is in them -/

variable (t : Trigger)

theorem keeps_base {a : Action}
    (h : ∀ key, key ≠ Action.typeKey → key ≠ Action.payloadKey → key ≠ Action.metaKey →
      a.get? key = t.exchange.base.get? key) : t.Keeps a :=
  fun key marker type payload metadata =>
    (h key type payload metadata).trans (t.action.get?_stripped_of_ne marker)

/-- What is sent as a request is one… -/
theorem request_requestAction :
    t.Request (t.exchange.requestAction t.descriptor.payload) where
  keeps := t.keeps_base fun key type payload metadata => by
    rw [Exchange.requestAction, Action.get?_setOptional_of_ne _ metadata,
      Action.get?_setOptional_of_ne _ payload, Action.withType, Action.get?_insert_of_ne _ type]
  type := by
    rw [Exchange.requestAction, Action.get?_setOptional_of_ne _ (by decide),
      Action.get?_setOptional_of_ne _ (by decide)]
    exact Action.get?_insert_self _ _ _
  payload := by
    rw [Exchange.requestAction, Action.get?_setOptional_of_ne _ (by decide)]
    exact Action.get?_setOptional_self _ _ _
  metadata := Action.get?_setOptional_self _ _ _

/-- A document is answered by an object, a collection by a list. -/
theorem kind_toJson {response : Response Snapshot}
    (yields : t.reference.Yields (.ok response)) :
    (response.toJson Snapshot.toJson).kind = t.responseKind := by
  unfold responseKind
  cases response with
  | one doc =>
    cases reference : t.reference with
    | document r => rfl
    | query q =>
      rw [reference] at yields
      cases yields
  | many docs =>
    cases reference : t.reference with
    | document r =>
      rw [reference] at yields
      cases yields
    | query q => rfl

/-- …what is sent for a response that fits is a success… -/
theorem success_successAction {response : Response Snapshot}
    (yields : t.reference.Yields (.ok response)) {shaped : Payload Snapshot}
    (fits : Payload.ofResponse t.schema response = .ok shaped) :
    t.Success shaped (t.exchange.successAction (shaped.toJson Snapshot.toJson)) where
  keeps := t.keeps_base fun key type payload metadata => by
    rw [Exchange.successAction, Action.get?_setOptional_of_ne _ metadata,
      Action.get?_insert_of_ne _ payload, Action.withType, Action.get?_insert_of_ne _ type]
  type := by
    rw [Exchange.successAction, Action.get?_setOptional_of_ne _ (by decide),
      Action.get?_insert_of_ne _ (by decide)]
    exact Action.get?_insert_self _ _ _
  payload := by
    rw [Exchange.successAction, Action.get?_setOptional_of_ne _ (by decide)]
    exact Action.get?_insert_self _ _ _
  shape := fun bare => by
    rw [bare] at fits
    obtain rfl := Except.ok.inj fits
    exact t.kind_toJson yields
  metadata := Action.get?_setOptional_self _ _ _

/-- …and what is sent for an error is a failure of it. -/
theorem failure_failureAction (e : CallError) :
    t.Failure e (t.exchange.failureAction e) where
  keeps := t.keeps_base fun key type _ metadata => by
    rw [Exchange.failureAction, Action.get?_insert_of_ne _ metadata, Action.withType,
      Action.get?_insert_of_ne _ type]
  type := by
    rw [Exchange.failureAction, Action.get?_insert_of_ne _ (by decide)]
    exact Action.get?_insert_self _ _ _
  payload := by
    rw [Exchange.failureAction, Action.get?_insert_of_ne _ (by decide), Action.withType,
      Action.get?_insert_of_ne _ (by decide)]
    rfl
  metadata := Action.get?_insert_self _ _ _

/-- The actions that are sent hold what they are to hold. -/
theorem fits_of_says : ∀ {last : Option Outcome} {a : Action}, t.Says last a → t.Fits last a
  | none, _, rfl => t.request_requestAction
  | some (.error e), _, ⟨_, _, rfl, rfl⟩ => t.failure_failureAction (.storage e)
  | some (.ok response), a, ⟨yields, r, verdict, said⟩ => by
      have fits : t.Fits (some (.ok response)) a =
        match Payload.ofResponse t.schema response with
        | .ok shaped => t.Success shaped a
        | .error (.error e) => t.Failure (.schema e) a
        | .error .panic => False := rfl
      have schema : t.exchange.schema = t.schema := rfl
      simp only [Exchange.verdict, Exchange.payload, schema] at verdict
      cases shaping : Payload.ofResponse t.schema response with
      | ok shaped =>
        rw [shaping] at verdict
        obtain rfl := Option.some.inj verdict
        rw [fits, shaping, said]
        exact t.success_successAction yields shaping
      | error fault =>
        rw [shaping] at verdict
        cases fault with
        | panic => cases verdict
        | error e =>
          obtain rfl := Option.some.inj verdict
          rw [fits, shaping, said]
          exact t.failure_failureAction _

end Trigger

/-! ## Programs that send them -/

/-- Sequences of programs may be regrouped. -/
theorem Program.bind_assoc {L α β γ : Type} (p : Program σ L α) (f : α → Program σ L β)
    (g : β → Program σ L γ) : (p.bind f).bind g = p.bind fun a => (f a).bind g := by
  induction p with
  | done a => rfl
  | panic => rfl
  | host change next ih => exact congrArg (Program.host change) (funext ih)
  | call c next ih => exact congrArg (Program.call c) (funext ih)

/-- **A program for any pipeline that sends it nothing but fitting actions.**  What fits depends on
what the store has answered last; the store may be in any state when it is asked, and what a
pipeline does with an action is its own affair. -/
inductive Emits {α : Type} (fits : Option Outcome → Action → Prop) :
    Option Outcome → (Pipeline σ → Program σ Exchange α) → Prop
  | done (last : Option Outcome) (a : α) : Emits fits last fun _ => .done a
  | panic (last : Option Outcome) : Emits fits last fun _ => .panic
  | next {last : Option Outcome} {a : Action} {rest : Unit → Pipeline σ → Program σ Exchange α}
      (fit : fits last a) (after : ∀ u, Emits fits last (rest u)) :
      Emits fits last fun P => (P.next a).bind fun u => rest u P
  | report {last : Option Outcome} (e : CallError)
      {rest : Unit → Pipeline σ → Program σ Exchange α}
      (after : ∀ u, Emits fits last (rest u)) :
      Emits fits last fun P => (P.report e).bind fun u => rest u P
  | call {last : Option Outcome} {c : Call Exchange}
      {next : c.Reply → Pipeline σ → Program σ Exchange α}
      (after : ∀ freshId s, Emits fits (c.outcome? (Store.perform freshId s c).reply)
        (next (Store.perform freshId s c).reply)) :
      Emits fits last fun P => .call c fun reply => next reply P

/-- **What is said of every action may be weakened.** -/
theorem Emits.mono {α : Type} {fits fits' : Option Outcome → Action → Prop}
    (weaker : ∀ last a, fits last a → fits' last a) {last : Option Outcome}
    {p : Pipeline σ → Program σ Exchange α} (h : Emits fits last p) : Emits fits' last p := by
  induction h with
  | done last a => exact .done last a
  | panic last => exact .panic last
  | next fit _ ih => exact .next (weaker _ _ fit) ih
  | report e _ ih => exact .report e ih
  | call _ ih => exact .call ih

/-- What follows a program that emits may have been answered anything. -/
theorem Emits.bind {α β : Type} {fits : Option Outcome → Action → Prop} {last : Option Outcome}
    {p : Pipeline σ → Program σ Exchange α} (h : Emits fits last p)
    {f : α → Pipeline σ → Program σ Exchange β} (hf : ∀ a last, Emits fits last (f a)) :
    Emits fits last fun P => (p P).bind fun a => f a P := by
  induction h with
  | done last a => exact hf a last
  | panic last => exact .panic last
  | next fit _ ih =>
    simp only [Program.bind_assoc]
    exact .next fit ih
  | report e _ ih =>
    simp only [Program.bind_assoc]
    exact .report e ih
  | call _ ih => exact .call ih

namespace Trigger

variable (t : Trigger)

/-- **A call is concluded by telling its verdict**, if it has one. -/
theorem emits_conclude {outcome : Outcome} (yields : t.reference.Yields outcome) :
    Emits t.Says (some outcome) fun P : Pipeline σ => t.exchange.conclude P outcome := by
  simp only [Exchange.conclude_eq]
  cases verdict : t.exchange.verdict outcome with
  | none => exact .panic _
  | some r =>
    have said : t.Says (some outcome) (t.exchange.announced r) := ⟨yields, r, verdict, rfl⟩
    cases r with
    | ok a => exact .next said fun _ => .done _ _
    | error e => exact .report e fun _ => .next said fun _ => .done _ _

/-- **A listener says what its outcome says**, and emits nothing else. -/
theorem emits_respond {outcome : Outcome} (yields : t.reference.Yields outcome) :
    Emits t.Says (some outcome) fun P : Pipeline σ => Exchange.respond P t.exchange outcome :=
  (t.emits_conclude yields).bind fun _ last => .done last ()

/-- Running a pending call asks the store once, and concludes what it answers. -/
theorem emits_run (op : Operation) :
    Emits t.Says none fun P : Pipeline σ => PendingCall.run ⟨t.exchange, t.reference, op⟩ P := by
  have answered {c : Call Exchange} (hr : c.reference? = some t.reference) (freshId : Nat → String)
      (s : Store Exchange) {outcome : Outcome}
      (ho : c.outcome? (s.perform freshId c).reply = some outcome) :
      Emits t.Says (some outcome) fun P : Pipeline σ => t.exchange.conclude P outcome :=
    t.emits_conclude (s.perform_yields freshId hr ho)
  cases op with
  | get => exact .call fun freshId s => answered (c := .get t.reference) rfl freshId s rfl
  | set data options =>
    exact .call fun freshId s => answered (c := .set t.reference data options) rfl freshId s rfl
  | add data => exact .call fun freshId s => answered (c := .add t.reference data) rfl freshId s rfl
  | update data =>
    exact .call fun freshId s => answered (c := .update t.reference data) rfl freshId s rfl

/-- The call that a trigger asks for. -/
def launch : Launch :=
  ⟨t.exchange, t.descriptor.payload, t.reference, t.descriptor.query.method.operation?⟩

/-- Starting the call sends the request, and a failure if a subscription cannot be made. -/
theorem emits_start (d : Dispatcher σ) :
    Emits t.Says none fun P : Pipeline σ => ({ d with pipeline := P }).start t.launch := by
  refine .next rfl fun _ => ?_
  cases operation : t.descriptor.query.method.operation? with
  | some op =>
    simp only [launch, operation]
    exact .done _ _
  | none =>
    simp only [launch, operation]
    refine .call fun freshId s => ?_
    cases (s.perform freshId (.listen t.reference t.exchange)).reply with
    | ok id => exact .done _ _
    | error e =>
      have failed : Emits t.Says (some (.error e)) fun P : Pipeline σ =>
          t.exchange.fail P (.storage e) :=
        t.emits_conclude (Store.yields_error t.reference e)
      exact failed.bind fun _ last => .done last _

/-- **What is sent for a trigger**: when its action is handled, when the pending call is run, and
whenever a subscription made for it hears of something. -/
structure Sends (t : Trigger) (d : Dispatcher σ) (state : Value) (canRun : Bool)
    (allowed : Option Outcome → Action → Prop) : Prop where
  handle : Emits allowed none fun P : Pipeline σ =>
    ({ d with pipeline := P }).handle state canRun t.action
  run : ∀ op, t.descriptor.query.method.operation? = some op →
    Emits allowed none fun P : Pipeline σ => PendingCall.run ⟨t.exchange, t.reference, op⟩ P
  respond : ∀ {α : Type} (freshId : Nat → String) (a : Audit σ Exchange α) cs,
    a.Recorded (d.environment freshId) cs →
    ∀ sub ∈ made cs, sub.reference = t.reference → sub.listener = t.exchange →
    ∀ n ∈ a.queued, n.subscription = sub.id →
      n.delivery.listener = t.exchange ∧ t.reference.Yields n.delivery.outcome ∧
      Emits allowed (some n.delivery.outcome) fun P : Pipeline σ =>
        Exchange.respond P n.delivery.listener n.delivery.outcome

theorem Sends.mono {t : Trigger} {d : Dispatcher σ} {state : Value} {canRun : Bool}
    {allowed allowed' : Option Outcome → Action → Prop} (h : t.Sends d state canRun allowed)
    (weaker : ∀ last a, allowed last a → allowed' last a) : t.Sends d state canRun allowed' where
  handle := h.handle.mono weaker
  run := fun op there => (h.run op there).mono weaker
  respond := fun freshId a cs recorded sub there reference listener n mem id =>
    have ⟨own, yields, sent⟩ :=
      h.respond freshId a cs recorded sub there reference listener n mem id
    ⟨own, yields, sent.mono weaker⟩

/-- **Everything that is sent for a trigger fits it**: when its action is handled, when the pending
call is run, and whenever a subscription made for it hears of something. -/
structure Announced (t : Trigger) (d : Dispatcher σ) (state : Value) (canRun : Bool) : Prop where
  handle : Emits t.Fits none fun P : Pipeline σ =>
    ({ d with pipeline := P }).handle state canRun t.action
  run : ∀ op, t.descriptor.query.method.operation? = some op →
    Emits t.Fits none fun P : Pipeline σ => PendingCall.run ⟨t.exchange, t.reference, op⟩ P
  respond : ∀ {α : Type} (freshId : Nat → String) (a : Audit σ Exchange α) cs,
    a.Recorded (d.environment freshId) cs →
    ∀ sub ∈ made cs, sub.reference = t.reference → sub.listener = t.exchange →
      ∀ n ∈ a.queued, n.subscription = sub.id →
        n.delivery.listener = t.exchange ∧ t.reference.Yields n.delivery.outcome ∧
        Emits t.Fits (some n.delivery.outcome) fun P : Pipeline σ =>
          Exchange.respond P n.delivery.listener n.delivery.outcome

end Trigger

namespace Dispatcher

/-- What is decided about an action has nothing to do with where actions go. -/
theorem plan_pipeline (d : Dispatcher σ) (P : Pipeline σ) (state : Value) (canRun : Bool)
    (action : Action) :
    ({ d with pipeline := P }).plan state canRun action = d.plan state canRun action :=
  rfl

/-- **What is sent for a launch are the actions of its trigger.** -/
theorem sends (d : Dispatcher σ) (t : Trigger) {state : Value} {canRun : Bool}
    (plan : d.plan state canRun t.action = .ok (.launch t.launch)) :
    t.Sends d state canRun t.Says where
  handle := by
    have opened : (fun P : Pipeline σ => ({ d with pipeline := P }).handle state canRun t.action) =
        fun P : Pipeline σ => ({ d with pipeline := P }).start t.launch := by
      funext P
      rw [handle, plan_pipeline, plan]
    exact opened ▸ t.emits_start d
  run := fun op _ => t.emits_run op
  respond := fun freshId a cs recorded sub there reference listener n mem id => by
    have of := recorded.of_mem_queued there mem id
    have own : n.delivery.listener = t.exchange := of.listener.trans listener
    have yields : t.reference.Yields n.delivery.outcome := reference ▸ of.outcome
    exact ⟨own, yields, own ▸ t.emits_respond yields⟩

/-- The trigger of a launch is announced. -/
theorem announced (d : Dispatcher σ) (t : Trigger) {state : Value} {canRun : Bool}
    (plan : d.plan state canRun t.action = .ok (.launch t.launch)) :
    t.Announced d state canRun :=
  have sent := (d.sends t plan).mono fun _ _ => t.fits_of_says
  ⟨sent.handle, sent.run, sent.respond⟩

/-- **An action under the marker does nothing at all, or has a trigger**: the action, its
descriptor, the schema that this names and the reference its query compiles to. -/
theorem exists_trigger (d : Dispatcher σ) (state : Value) (canRun : Bool) {action : Action}
    {raw : Value} (marked : action.get? d.marker = some raw) :
    (∃ r, ∀ P : Pipeline σ, ({ d with pipeline := P }).handle state canRun action = .done r) ∨
    ∃ t : Trigger, t.marker = d.marker ∧ t.action = action ∧
      Descriptor.ofJson raw = .ok t.descriptor ∧ d.schema t.descriptor.schema = .ok t.schema ∧
      t.descriptor.query.compile = .ok t.reference ∧
      d.plan state canRun action = .ok (.launch t.launch) := by
  have planned := d.planned state canRun action
  cases plan : d.plan state canRun action with
  | error e => exact Or.inl ⟨.error e, fun P => by rw [handle, plan_pipeline, plan]⟩
  | ok asked =>
    rw [plan] at planned
    cases planned with
    | forward unmarked =>
      rw [marked] at unmarked
      cases unmarked
    | bailOut => exact Or.inl ⟨.ok .bailedOut, fun P => by rw [handle, plan_pipeline, plan]⟩
    | @launch _ marked' descriptor read schema resolved reference compiled _ =>
      obtain rfl := Option.some.inj (marked.symm.trans marked')
      exact Or.inr ⟨⟨d.marker, action, descriptor, schema, reference⟩, rfl, rfl, read, resolved,
        compiled, rfl⟩

/-- **What the actions of an invocation hold.**  For an action under the marker, either nothing is
done at all, or there is a trigger: the action, its descriptor, the schema that this names and the
reference its query compiles to.  Then whatever is sent on its behalf agrees with the action on
every property but the marker, the type, the payload and the metadata; and these are, by what the
store has last answered,

* before it was asked, those of the descriptor, and absent where it has none;
* for a response that fits the schema, the shaped response and the descriptor's metadata;
* for any other response and for an error, the action's payload and the error's code and message. -/
theorem content (d : Dispatcher σ) (state : Value) (canRun : Bool) {action : Action} {raw : Value}
    (marked : action.get? d.marker = some raw) :
    (∃ r, ∀ P : Pipeline σ, ({ d with pipeline := P }).handle state canRun action = .done r) ∨
    ∃ t : Trigger, t.marker = d.marker ∧ t.action = action ∧
      Descriptor.ofJson raw = .ok t.descriptor ∧ d.schema t.descriptor.schema = .ok t.schema ∧
      t.descriptor.query.compile = .ok t.reference ∧
      d.plan state canRun action = .ok (.launch t.launch) ∧ t.Announced d state canRun := by
  obtain done | ⟨t, marker, rfl, read, resolved, compiled, plan⟩ :=
    d.exists_trigger state canRun marked
  · exact Or.inl done
  · exact Or.inr ⟨t, marker, rfl, read, resolved, compiled, plan, d.announced t plan⟩

/-- An action with a payload and metadata of its own, that asks for a subscription by a descriptor
without either. -/
def watch : Action :=
  ⟨[("CALL", .object [
      ("types", .array [.string "REQUEST", .string "SUCCESS", .string "FAILURE"]),
      ("query", .object [("collection", .string "users"), ("method", .string "onSnapshot")])]),
    ("from", .string "menu"), ("meta", .string "old"), ("payload", .string "old"),
    ("type", .string "WATCH")]⟩

/-- The exchange of that subscription. -/
def watcher : Exchange :=
  ⟨watch.stripped "CALL", ⟨"REQUEST", "SUCCESS", "FAILURE"⟩, none, none⟩

/-- A run in which the action has been handled, up to the first delivery. -/
def watched : Audit Recorder Exchange (Except CallError Disposition) :=
  (Audit.start .empty .empty (History.keeping.handle .null true watch)).after
    (History.keeping.environment fun _ => "") 3

/-- Nothing of the payload and the metadata is left in the request, nor in what is sent for the
delivery of an empty collection. -/
theorem content_watch :
    ∃ (t : Trigger) (n : Notice Exchange), n ∈ watched.queued ∧
      (∀ a, t.Fits none a → a.get? "from" = some (.string "menu") ∧ a.get? "payload" = none ∧
        a.get? "meta" = none) ∧
      (∀ a, t.Fits (some n.delivery.outcome) a → a.get? "from" = some (.string "menu") ∧
        a.get? "payload" = some (.array []) ∧ a.get? "meta" = none) ∧
      (Emits t.Fits none fun P : Pipeline Recorder =>
        ({ History.keeping with pipeline := P }).handle .null true watch) ∧
      Emits t.Fits (some n.delivery.outcome) fun P : Pipeline Recorder =>
        Exchange.respond P n.delivery.listener n.delivery.outcome := by
  have marked : watch.get? History.keeping.marker = some _ := rfl
  obtain ⟨r, still⟩ | ⟨⟨marker, action, descriptor, schema, reference⟩, rfl, rfl, read, resolved,
      compiled, -, announced⟩ := content History.keeping .null true marked
  · exact absurd (still Recorder.pipeline) nofun
  obtain rfl : _ = descriptor := Except.ok.inj read
  obtain rfl : _ = schema := Except.ok.inj resolved
  obtain rfl : Reference.query ⟨[.collection "users"], []⟩ = reference := Except.ok.inj compiled
  have recorded : watched.Recorded (History.keeping.environment fun _ => "") _ :=
    .after 3 (.start .empty .empty (History.keeping.handle .null true watch))
  have told := announced.respond _ _ _ recorded ⟨0, .query ⟨[.collection "users"], []⟩, watcher⟩
    (List.mem_singleton_self _) rfl rfl
    ⟨0, .subscribed, watcher, .ok (.many [])⟩ (List.mem_singleton_self _) rfl
  refine ⟨_, _, List.mem_singleton_self _, ?_, ?_, announced.handle, told.2.2⟩
  · rintro a ⟨keeps, -, payload, metadata⟩
    exact ⟨keeps "from" (by decide) (by decide) (by decide) (by decide), payload, metadata⟩
  · rintro a ⟨keeps, -, payload, -, metadata⟩
    exact ⟨keeps "from" (by decide) (by decide) (by decide) (by decide), payload, metadata⟩

end Dispatcher

end DocDispatch
