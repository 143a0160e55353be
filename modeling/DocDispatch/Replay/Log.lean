import DocDispatch.Dispatch.Session
import DocDispatch.Json.Pointer
import DocDispatch.Json.Truth
import DocDispatch.Replay.Script

/-!
# Replay/Log — what a replay produces

The actions of a script are handled in order, each one-shot call being waited for before the next
action.  Subscriptions stay to the end, so later writes show up as further deliveries.  The log
holds everything that reached the end of the pipeline, and the errors of the actions that were
refused.
-/

namespace DocDispatch

open Json (Value)

/-- What a replay produces. -/
structure Log where
  emitted : List Action
  rejected : List CallError
deriving DecidableEq

namespace Script

/-- Whether the state holds at a pointer. -/
def holdsAt (pointer : String) (state : Value) : Bool :=
  (state.pointer? pointer).elim false Value.isTruthy

/-- The dispatcher a script is replayed with. -/
def dispatcher (s : Script) (marker : String) : Dispatcher Recorder where
  marker := marker
  bailouts name := (s.bailouts.get? name).map holdsAt
  transforms _ := none
  pipeline := Recorder.pipeline

/-- The error an action was refused with, or that ended the call it asked for. -/
def rejection? : Ending (Except CallError Receipt) → Option CallError
  | .returned (.error e) => some e
  | .returned (.ok (.concluded (.error e))) => some e
  | _ => none

/-- Handles actions in order; with the session after them, the errors among them. -/
def replayActions (state : Value) : List Action → Session → Session × List CallError
  | [], s => (s, [])
  | a :: as, s =>
    let (s, ending) := s.dispatch state (some .now) a
    let (s, rejected) := replayActions state as s
    (s, (rejection? ending).toList ++ rejected)

/-- **Replays a script**, with descriptors under a marker. -/
def replay (s : Script) (marker : String) (freshId : Nat → String) : Log :=
  let session := Session.start (s.dispatcher marker) freshId s.documents Recorder.empty
  let (session, rejected) := replayActions s.state s.actions session
  ⟨session.recorder.emitted, rejected⟩

end Script

end DocDispatch
