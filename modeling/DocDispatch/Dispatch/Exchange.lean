import DocDispatch.Action
import DocDispatch.Descriptor.Basic
import DocDispatch.Dispatch.Error
import DocDispatch.Schema.Normalize
import DocDispatch.Store.Program

/-!
# Dispatch/Exchange — the actions one store call announces itself by

An exchange is what all actions emitted for one call have in common: the action that asked for it,
without the call itself, and what its descriptor fixed.  `requestAction`, `successAction` and
`failureAction` are the only actions an exchange ever emits, and each is a function of the exchange
and of the one thing that is new in it.  `succeed` and `fail` send them to a pipeline: a response
that does not fit the schema ends in a failure, and an error is reported before its failure action
is emitted.
-/

namespace DocDispatch

open Json (Value)

/-- What the actions emitted for one store call have in common. -/
structure Exchange where
  /-- The triggering action without the store call. -/
  base : Action
  types : ActionTypes
  metadata : Option Value
  schema : Option Schema

/-- Where actions go, and where errors are reported; both may use the store that listeners are
called by. -/
structure Pipeline (σ : Type) where
  next : Action → Program σ Exchange Unit
  report : CallError → Program σ Exchange Unit

namespace Exchange

/-! ## The actions -/

/-- The action before the store is asked. -/
def requestAction (x : Exchange) (payload : Option Value) : Action :=
  ((x.base.withType x.types.request).setOptional Action.payloadKey payload).setOptional
    Action.metaKey x.metadata

/-- The action that carries a response. -/
def successAction (x : Exchange) (payload : Value) : Action :=
  ((x.base.withType x.types.success).insert Action.payloadKey payload).setOptional
    Action.metaKey x.metadata

/-- The action that carries an error; its payload is still that of the triggering action. -/
def failureAction (x : Exchange) (e : CallError) : Action :=
  (x.base.withType x.types.failure).insert Action.metaKey e.toJson

/-- The payload a response is shaped into. -/
def payload (x : Exchange) (response : Response Snapshot) : Except (Fault SchemaError) Value :=
  (Payload.ofResponse x.schema response).map (·.toJson Snapshot.toJson)

/-! ## Sending them -/

variable {σ : Type}

def request (x : Exchange) (pipeline : Pipeline σ) (payload : Option Value) :
    Program σ Exchange Unit :=
  pipeline.next (x.requestAction payload)

/-- Reports an error, then emits the failure action. -/
def fail (x : Exchange) (pipeline : Pipeline σ) (e : CallError) :
    Program σ Exchange (Except CallError Action) := do
  pipeline.report e
  pipeline.next (x.failureAction e)
  pure (.error e)

/-- Emits the success action for a response, if it fits the schema. -/
def succeed (x : Exchange) (pipeline : Pipeline σ) (response : Response Snapshot) :
    Program σ Exchange (Except CallError Action) :=
  match x.payload response with
  | .ok payload => do
    pipeline.next (x.successAction payload)
    pure (.ok (x.successAction payload))
  | .error (.error e) => x.fail pipeline (.schema e)
  | .error .panic => .panic

/-- **The action that ends a call**, or one delivery of a subscription, sent to the pipeline. -/
def conclude (x : Exchange) (pipeline : Pipeline σ) (outcome : Outcome) :
    Program σ Exchange (Except CallError Action) :=
  match outcome with
  | .ok response => x.succeed pipeline response
  | .error e => x.fail pipeline (.storage e)

/-- What an exchange does as a listener: nobody is left to hear how it went. -/
def respond (pipeline : Pipeline σ) (x : Exchange) (outcome : Outcome) :
    Program σ Exchange Unit := do
  let _ ← x.conclude pipeline outcome
  pure ()

end Exchange

end DocDispatch
