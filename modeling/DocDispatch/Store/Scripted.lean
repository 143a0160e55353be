import DocDispatch.Reference.Codec
import DocDispatch.Store.Id
import DocDispatch.Store.Machine

/-!
# Store/Scripted — listeners with finitely many reactions

A scripted listener has a list of reactions and performs the i-th of them on its i-th delivery,
after noting that it heard it; further deliveries it only notes.  A reaction is a step like those
made from outside, so listeners can register listeners, remove each other and break off in the
middle of it. Since every reaction is performed once, a step comes to an end, and `fuel` says how
soon.
-/

namespace DocDispatch

/-- A step made from outside or as a reaction. -/
inductive Step where
  | nothing
  | panic
  | refused (e : Reference.Unreadable)
  | put (path : String) (data : Fields)
  | document (path : String)
  | failNext (e : StoreError)
  | failListeners (e : StoreError)
  | get (r : Reference)
  | set (r : Reference) (data : Fields) (options : SetOptions)
  | update (r : Reference) (data : Fields)
  | add (r : Reference) (data : Fields)
  | listen (r : Reference) (reactions : List Step)
  | remove (number : Nat)

instance : Inhabited Step := ⟨.nothing⟩

/-- What a step is answered with. -/
inductive Answer where
  | nothing
  | document (data : Option Fields)
  | outcome (o : Outcome)
  | listening (number : Nat)
  | notListening (e : StoreError)
  | removed (wasThere : Bool)
  | refused (e : Reference.Unreadable)

/-- A listener, by number, with its reactions. -/
structure Scripted where
  number : Nat
  reactions : List Step

/-- What happened during some steps. -/
inductive Event where
  | delivery (listener : Nat) (outcome : Outcome)
  | reaction (listener : Nat) (answer : Answer)

namespace Event

def isDeliveryTo (listener : Nat) : Event → Bool
  | .delivery l _ => l == listener
  | .reaction .. => false

end Event

/-- The notes taken beside a store with scripted listeners. -/
structure Journal where
  /-- Everything that happened, the first event first. -/
  events : List Event
  /-- The number of the next listener. -/
  listeners : Nat
  /-- The registrations that can still be removed: a listener's number and its subscription. -/
  registrations : List (Nat × Nat)

namespace Journal

def empty : Journal := ⟨[], 0, []⟩

def note (j : Journal) (e : Event) : Journal := { j with events := j.events ++ [e] }

/-- How many deliveries a listener has heard. -/
def heard (j : Journal) (listener : Nat) : Nat := j.events.countP (Event.isDeliveryTo listener)

def nextListener (j : Journal) : Journal := { j with listeners := j.listeners + 1 }

def register (j : Journal) (number id : Nat) : Journal :=
  { j with registrations := (number, id) :: j.registrations }

def registration? (j : Journal) (number : Nat) : Option Nat := j.registrations.lookup number

def unregister (j : Journal) (number : Nat) : Journal :=
  { j with registrations := j.registrations.filter fun p => p.1 ≠ number }

end Journal

namespace Step

/-- **What a step does.** -/
def program : Step → Program Journal Scripted Answer
  | nothing => .done .nothing
  | panic => .panic
  | refused e => .done (.refused e)
  | put path data => .call (.put path data) fun _ => .done .nothing
  | document path => .call (.document path) fun data => .done (.document data)
  | failNext e => .call (.failNext e) fun _ => .done .nothing
  | failListeners e => .call (.failListeners e) fun _ => .done .nothing
  | get r => .call (.get r) fun o => .done (.outcome o)
  | set r data options => .call (.set r data options) fun o => .done (.outcome o)
  | update r data => .call (.update r data) fun o => .done (.outcome o)
  | add r data => .call (.add r data) fun o => .done (.outcome o)
  | listen r reactions =>
    .host Journal.nextListener fun j =>
      let number := j.listeners - 1
      .call (.listen r ⟨number, reactions⟩) fun
        | .ok id => .host (·.register number id) fun _ => .done (.listening number)
        | .error e => .done (.notListening e)
  | remove number =>
    .host id fun j =>
      match j.registration? number with
      | some id =>
        .host (·.unregister number) fun _ => .call (.remove id) fun _ => .done (.removed true)
      | none => .done (.removed false)

mutual

/-- How many steps a step is, reactions of the listeners it may register included. -/
def weight : Step → Nat
  | listen _ reactions => weights reactions + 1
  | _ => 1

def weights : List Step → Nat
  | [] => 0
  | s :: ss => weight s + weights ss

end

end Step

namespace Scripted

/-- Notes a delivery and performs the reaction to it, if there is one. -/
def respond (l : Scripted) (outcome : Outcome) : Program Journal Scripted Unit :=
  .host (·.note (.delivery l.number outcome)) fun j =>
    match l.reactions[j.heard l.number - 1]? with
    | none | some .nothing => .done ()
    | some step => step.program.bind fun answer => .modify (·.note (.reaction l.number answer))

end Scripted

/-! ## Sessions -/

/-- A store with scripted listeners, and the notes beside it. -/
structure ScriptedStore where
  store : Store Scripted
  journal : Journal

namespace ScriptedStore

def ofDocuments (documents : OrderedMap Fields) : ScriptedStore :=
  ⟨.ofDocuments documents, .empty⟩

def environment : Environment Journal Scripted := ⟨Scripted.respond, DocumentId.ofBits⟩

/-- Every listener that may still be called. -/
def listeners (s : ScriptedStore) : List Scripted :=
  s.store.documentSubs.map (·.listener) ++ s.store.querySubs.map (·.listener) ++
    s.store.queue.map (·.listener)

/-- Enough steps of the machine for a step: every reaction may queue a delivery for every listener,
those included that reactions register. -/
def fuel (s : ScriptedStore) (step : Step) : Nat :=
  let reactions := step.weight + Step.weights (s.listeners.flatMap (·.reactions))
  let listeners := s.store.listenerCount + reactions
  16 * (s.store.queue.length + (reactions + 1) * (listeners + 1) + 1)

/-- Makes a step from outside. -/
def perform (s : ScriptedStore) (step : Step) : ScriptedStore × Ending Answer :=
  let run := Run.steps environment (s.fuel step) (Run.start s.store s.journal step.program)
  (⟨run.store, run.host⟩, run.ending)

end ScriptedStore

end DocDispatch
