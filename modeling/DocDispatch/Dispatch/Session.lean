import DocDispatch.Dispatch.Dispatcher
import DocDispatch.Dispatch.Recorder

/-!
# Dispatch/Session — actions handled one after another

A session is a dispatcher at work on a store, with a recorder at the end of its pipeline.  One-shot
calls that nobody waits for yet stand in line; they are run, first come first served, before the
next call somebody does wait for, or when the session is settled.  A call that breaks off has no
result and is told as aborted; nothing else is touched by it.
-/

namespace DocDispatch

open Json (Value)

/-- What the maker of a one-shot call does about its result. -/
inductive Wait where
  /-- Waits for it. -/
  | now
  /-- Asks for it when the session is settled. -/
  | later
  /-- Never asks. -/
  | never
deriving DecidableEq

/-- A one-shot call that stands in line. -/
structure Waiting where
  call : PendingCall
  /-- Whether its result is asked for later. -/
  kept : Bool

/-- What the maker of an action gets to know. -/
inductive Receipt where
  | forwarded
  | bailedOut
  /-- The call stands in line. -/
  | queued
  | concluded (result : Except CallError Action)
  | subscribed (number : Nat)

/-- **A dispatcher at work.** -/
structure Session where
  dispatcher : Dispatcher Recorder
  freshId : Nat → String
  store : Store Exchange
  recorder : Recorder
  /-- The calls in line, the first one first. -/
  waiting : List Waiting
  /-- The results that will be asked for, in line order. -/
  results : List (Except CallError Action)
  /-- The subscriptions in the order they were made, those removed left blank. -/
  subscriptions : List (Option Nat)

namespace Session

/-- A session that nothing has happened in. -/
def start (dispatcher : Dispatcher Recorder) (freshId : Nat → String)
    (documents : OrderedMap Fields) (recorder : Recorder) : Session :=
  ⟨dispatcher, freshId, .ofDocuments documents, recorder, [], [], []⟩

/-- Enough steps of the machine for a program that writes once and emits a few actions: each of
those, and each reaction the recorder may still have to them, owes a delivery to every listener. -/
def fuel (s : Session) : Nat :=
  16 * (s.store.queue.length +
    (s.recorder.reactions.length + 2) * (s.store.listenerCount + 2) + 2)

/-- Runs a program on the store. -/
def perform {α : Type} (s : Session) (p : Program Recorder Exchange α) : Session × Ending α :=
  let run := Run.steps (s.dispatcher.environment s.freshId) s.fuel (Run.start s.store s.recorder p)
  ({ s with store := run.store, recorder := run.host }, run.ending)

/-! ## Calls in line -/

def enqueue (s : Session) (w : Waiting) : Session := { s with waiting := s.waiting ++ [w] }

/-- Runs a one-shot call to its end. -/
def runCall (s : Session) (c : PendingCall) : Session × Except CallError Action :=
  match s.perform (c.run s.dispatcher.pipeline) with
  | (s, .returned result) => (s, result)
  | (s, .panicked) | (s, .unfinished) => (s, .error .aborted)

/-- Runs a call out of the line, keeping its result if it will be asked for. -/
def runWaiting (s : Session) (w : Waiting) : Session :=
  let (s, result) := s.runCall w.call
  if w.kept then { s with results := s.results ++ [result] } else s

/-- Runs every call in line. -/
def runLine (s : Session) : Session :=
  s.waiting.foldl runWaiting { s with waiting := [] }

/-- **Runs every call in line** and hands over the results asked for. -/
def settle (s : Session) : Session × List (Except CallError Action) :=
  let s := s.runLine
  ({ s with results := [] }, s.results)

/-! ## Actions -/

/-- Follows up on an action that was handled. -/
def follow (s : Session) (wait : Wait) : Disposition → Session × Receipt
  | .forwarded => (s, .forwarded)
  | .bailedOut => (s, .bailedOut)
  | .subscribed id =>
    ({ s with subscriptions := s.subscriptions ++ [some id] },
      .subscribed s.subscriptions.length)
  | .pending call =>
    match wait with
    | .now =>
      let (s, result) := s.runLine.runCall call
      (s, .concluded result)
    | .later => (s.enqueue ⟨call, true⟩, .queued)
    | .never => (s.enqueue ⟨call, false⟩, .queued)

/-- **Handles an action** in a host state.  Without anything to run one-shot calls on, `wait` is
`none`. -/
def dispatch (s : Session) (state : Value) (wait : Option Wait) (action : Action) :
    Session × Ending (Except CallError Receipt) :=
  match s.perform (s.dispatcher.handle state wait.isSome action) with
  | (s, .returned (.ok disposition)) =>
    let (s, receipt) := s.follow (wait.getD .never) disposition
    (s, .returned (.ok receipt))
  | (s, .returned (.error e)) => (s, .returned (.error e))
  | (s, .panicked) => (s, .panicked)
  | (s, .unfinished) => (s, .unfinished)

/-- Removes a subscription by its number, unless it has been removed. -/
def unsubscribe (s : Session) (number : Nat) : Session × Bool :=
  match s.subscriptions[number]? with
  | some (some id) =>
    let (s, _) := s.perform (.perform (.remove id))
    ({ s with subscriptions := s.subscriptions.set number none }, true)
  | _ => (s, false)

end Session

end DocDispatch
