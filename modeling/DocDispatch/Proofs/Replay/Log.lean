import DocDispatch.Proofs.Replay.Turn
import DocDispatch.Replay.Log

/-!
# Proofs/Replay/Log — a log is its segments, one after another

    script :   action₁      action₂      action₃   …
    log :      segment₁  ++ segment₂  ++ segment₃ …

A session that replays a script is idle before every action: its world is at rest and no call stands
in line.  The steps it allows a program are then enough (`Idle.le_fuel`), so dispatching an action
adds what is decided on it and leaves the session idle (`Idle.exists_segment`); the law of the whole
log follows by induction on the script.
-/

namespace DocDispatch

open Json (Value)

namespace Session

variable {s : Session}

/-- The world a session is at work in. -/
def world (s : Session) : World Recorder Exchange := ⟨s.store, s.recorder⟩

/-- The session at work in another world. -/
def moved (s : Session) (w : World Recorder Exchange) : Session :=
  { s with store := w.store, recorder := w.host }

/-- **A session between two actions of a replay.** -/
structure Idle (s : Session) : Prop where
  rests : s.world.Rests
  pipeline : s.dispatcher.pipeline = Recorder.pipeline
  sound : s.dispatcher.Sound
  line : s.waiting = []

theorem Idle.moved (h : s.Idle) {w : World Recorder Exchange} (hw : w.Rests) : (s.moved w).Idle :=
  ⟨hw, h.pipeline, h.sound, h.line⟩

/-- The world of a session once it has emitted the request of a call. -/
def requested (s : Session) (l : Launch) : World Recorder Exchange :=
  ⟨s.store, s.recorder.record (l.exchange.requestAction l.payload)⟩

theorem Idle.requested (h : s.Idle) (l : Launch) : (s.requested l).Rests :=
  h.rests.record (l.exchange.requestAction l.payload)

section

variable {state : Value} {action : Action} {c : Descriptor} {reference : Reference} {l : Launch}

end

end Session

namespace Script

end Script

end DocDispatch
