import DocDispatch.Dispatch.Exchange

/-!
# Dispatch/Recorder — a pipeline that keeps what reaches it

The end of a pipeline for replays and trials: it keeps every action and every reported error in the
order of arrival.  It can also react.  The first action of a type that a reaction is waiting for
makes it put a document; since the reaction is used up before the document is put, a put that leads
to further actions of the same type does not put again.
-/

namespace DocDispatch

/-- A document to put once an action of some type arrives. -/
structure Reaction where
  path : String
  data : Fields

/-- What has reached the end of a pipeline. -/
structure Recorder where
  /-- The first action first. -/
  emitted : List Action
  /-- The first error first. -/
  reports : List CallError
  /-- The reactions not used up yet, by the type they wait for. -/
  reactions : Assoc Reaction

namespace Recorder

/-- A recorder that nothing has reached. -/
def waitingFor (reactions : Assoc Reaction) : Recorder := ⟨[], [], reactions⟩

def empty : Recorder := waitingFor []

def record (r : Recorder) (a : Action) : Recorder := { r with emitted := r.emitted ++ [a] }

def note (r : Recorder) (e : CallError) : Recorder := { r with reports := r.reports ++ [e] }

/-- The type reactions know an action by; one that is no text counts as empty. -/
def typeOf (a : Action) : String := a.type?.getD ""

/-- The recorder without the reaction to a type. -/
def useUp (r : Recorder) (type : String) : Recorder :=
  { r with reactions := Assoc.erase r.reactions type }

/-- Keeps an action, and reacts to it. -/
def next (a : Action) : Program Recorder Exchange Unit :=
  .host (·.record a) fun r =>
    match Assoc.get? r.reactions (typeOf a) with
    | none => .done ()
    | some reaction =>
      .host (·.useUp (typeOf a)) fun _ =>
        .call (.put reaction.path reaction.data) fun _ => .done ()

/-- The pipeline that ends in a recorder. -/
def pipeline : Pipeline Recorder := ⟨next, fun e => .modify (·.note e)⟩

/-- The pipeline that ends in a recorder and reports errors elsewhere. -/
def unreported : Pipeline Recorder := ⟨next, fun _ => .done ()⟩

end Recorder

end DocDispatch
