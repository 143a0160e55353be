import DocDispatch.Descriptor.Reader
import DocDispatch.Dispatch.Exchange
import DocDispatch.Store.Machine

/-!
# Dispatch/Dispatcher — actions that ask for store calls

A dispatcher looks for a descriptor under its marker.  `plan` decides, without doing anything, what
an action asks for; `handle` does it.  Up to the request action everything that can be wrong with
the action itself has been found, in this order: the descriptor's grammar, an unknown bailout
predicate, an unknown transform, then — unless the predicate holds and the call is off — a filter
that does not parse, and last a one-shot call with nothing to run it on.

    action ──plan──▸ forward | bail out | launch ──handle──▸ request, then the store

A one-shot call is handed back to be run by someone else, at any later time; a subscription is
registered at once.
-/

namespace DocDispatch

open Json (Value)

/-- What a one-shot call does with its reference. -/
inductive Operation where
  | get
  | set (data : Fields) (options : SetOptions)
  | add (data : Fields)
  | update (data : Fields)
deriving DecidableEq

/-- The one-shot operation of a method; a subscription is none. -/
def Method.operation? : Method → Option Operation
  | .subscribe => none
  | .get => some .get
  | .set data options => some (.set data options)
  | .add data => some (.add data)
  | .update data => some (.update data)

/-- Runs an operation on a reference. -/
def Operation.run {σ L : Type} (r : Reference) : Operation → Program σ L Outcome
  | .get => .perform (.get r)
  | .set data options => .perform (.set r data options)
  | .add data => .perform (.add r data)
  | .update data => .perform (.update r data)

/-- A one-shot call whose request has been emitted and whose operation has not been run. -/
structure PendingCall where
  exchange : Exchange
  reference : Reference
  operation : Operation

namespace PendingCall

/-- **Runs the call to its end**: the operation, then the action that concludes it. -/
def run {σ : Type} (c : PendingCall) (pipeline : Pipeline σ) :
    Program σ Exchange (Except CallError Action) := do
  let outcome ← c.operation.run c.reference
  c.exchange.conclude pipeline outcome

end PendingCall

/-- A store call that is about to be made. -/
structure Launch where
  exchange : Exchange
  payload : Option Value
  reference : Reference
  /-- The one-shot operation, or none to subscribe. -/
  operation : Option Operation

/-- What an action asks for. -/
inductive Plan where
  | forward
  | bailOut
  | launch (l : Launch)

/-- What became of an action. -/
inductive Disposition where
  /-- It carried no descriptor and went on untouched. -/
  | forwarded
  /-- The bailout predicate held, and nothing was done. -/
  | bailedOut
  | pending (call : PendingCall)
  | subscribed (id : Nat)

/-- **Turns actions into store calls**, with a host state `σ` behind the pipeline. -/
structure Dispatcher (σ : Type) where
  /-- The property that carries descriptors. -/
  marker : String
  bailouts : String → Option (Value → Bool)
  transforms : String → Option Transform
  pipeline : Pipeline σ

namespace Dispatcher

variable {σ : Type}

/-- The marker where no other is chosen. -/
def defaultMarker : String := "CALL_STORE"

/-! ## Deciding -/

/-- The predicate a descriptor names, if it names one. -/
def bailout (d : Dispatcher σ) : Option String → Except DescriptorError (Option (Value → Bool))
  | none => .ok none
  | some name =>
    match d.bailouts name with
    | some holds => .ok (some holds)
    | none => .error (.unknownBailout name)

/-- A schema with the transform it names, if it names one. -/
def resolve (d : Dispatcher σ) (s : SchemaDescriptor) : Except DescriptorError Schema :=
  match s.transform with
  | none => .ok ⟨s.name, s.key, none⟩
  | some name =>
    match d.transforms name with
    | some transform => .ok ⟨s.name, s.key, some (name, transform)⟩
    | none => .error (.unknownTransform name)

/-- The schema of a descriptor, if it has one. -/
def schema (d : Dispatcher σ) : Option SchemaDescriptor → Except DescriptorError (Option Schema)
  | none => .ok none
  | some s => (d.resolve s).map some

/-- Whether a predicate holds; one that is not there does not. -/
def holds (predicate : Option (Value → Bool)) (state : Value) : Bool :=
  predicate.elim false (· state)

/-- The call a descriptor describes, carried by an action. -/
def launch (d : Dispatcher σ) (action : Action) (descriptor : Descriptor) (schema : Option Schema)
    (reference : Reference) : Launch where
  exchange := ⟨action.stripped d.marker, descriptor.types, descriptor.metadata, schema⟩
  payload := descriptor.payload
  reference := reference
  operation := descriptor.query.method.operation?

/-- What a descriptor asks for in a host state. -/
def planCall (d : Dispatcher σ) (state : Value) (action : Action) (descriptor : Descriptor) :
    Except DescriptorError Plan := do
  let predicate ← d.bailout descriptor.bailout
  let schema ← d.schema descriptor.schema
  if holds predicate state then pure .bailOut
  else
    let reference ← descriptor.query.compile.mapError DescriptorError.filter
    pure (.launch (d.launch action descriptor schema reference))

/-- A plan that can be carried out, given whether one-shot calls can be run. -/
def runnable (canRun : Bool) : Plan → Except CallError Plan
  | .launch l =>
    if l.operation.isSome && !canRun then .error .noRuntime else .ok (.launch l)
  | p => .ok p

/-- **What an action asks for**, in a host state and given whether one-shot calls can be run. -/
def plan (d : Dispatcher σ) (state : Value) (canRun : Bool) (action : Action) :
    Except CallError Plan :=
  match action.get? d.marker with
  | none => .ok .forward
  | some raw => do
    let descriptor ← (Descriptor.ofJson raw).mapError CallError.config
    let plan ← (d.planCall state action descriptor).mapError CallError.config
    runnable canRun plan

/-! ## Doing -/

/-- Registers a subscription whose deliveries are concluded one by one. -/
def subscribe (d : Dispatcher σ) (l : Launch) :
    Program σ Exchange (Except CallError Disposition) :=
  .call (.listen l.reference l.exchange) fun
    | .ok id => .done (.ok (.subscribed id))
    | .error e => do
      let _ ← l.exchange.fail d.pipeline (.storage e)
      pure (.error (.storage e))

/-- Emits the request action and makes the call, or leaves it pending. -/
def start (d : Dispatcher σ) (l : Launch) : Program σ Exchange (Except CallError Disposition) := do
  l.exchange.request d.pipeline l.payload
  match l.operation with
  | some operation => pure (.ok (.pending ⟨l.exchange, l.reference, operation⟩))
  | none => d.subscribe l

/-- **Handles one action.** -/
def handle (d : Dispatcher σ) (state : Value) (canRun : Bool) (action : Action) :
    Program σ Exchange (Except CallError Disposition) :=
  match d.plan state canRun action with
  | .error e => .done (.error e)
  | .ok .forward => do
    d.pipeline.next action
    pure (.ok .forwarded)
  | .ok .bailOut => .done (.ok .bailedOut)
  | .ok (.launch l) => d.start l

/-- How listeners of the store respond under this dispatcher. -/
def environment (d : Dispatcher σ) (freshId : Nat → String) : Environment σ Exchange :=
  ⟨Exchange.respond d.pipeline, freshId⟩

end Dispatcher

end DocDispatch
