import DocDispatch.Proofs.Dispatch.Operating
import DocDispatch.Proofs.Dispatch.Recording
import DocDispatch.Proofs.Replay.Decision

/-!
# Proofs/Replay/Segment — what one action adds to a log

    forwarded            [action]
    refused, bailed out  []
    get                  [request, conclusion]
    onSnapshot           [request, first delivery]   or   [request, failure]
    set, update, add     [request, deliveries of the write …, conclusion]

A segment is what the log of a replay has for one action, between the store before it and the store
after it.  `LogSegment.Adds` says what it has to be, from the decision on the action and the two
stores alone: no drain loop and no step of the machine occurs in it.  A segment is lawful where it
adds what its script decides, so nothing about the dispatcher has to be believed either.
-/

namespace DocDispatch

open Json (Value)

/-- **What the log of a replay has for one action.** -/
structure LogSegment where
  action : Action
  before : Store Exchange
  after : Store Exchange
  emitted : List Action
  rejected : Option CallError

namespace LogSegment

/-- The subscriptions are the same before and after. -/
def SameListeners (g : LogSegment) : Prop :=
  g.after.documentSubs = g.before.documentSubs ∧ g.after.querySubs = g.before.querySubs

/-- What earlier subscriptions have to hear of a write to a path: first those to the document, then
those to the collection it is in, each in the order they were made, and each of the store just after
the write. -/
def deliveries (g : LogSegment) (path : String) : List (Delivery Exchange) :=
  (g.before.documentSubs.filter fun sub => sub.reference.path = path).map (fun sub =>
    ⟨sub.listener, g.after.documentOutcome path⟩) ++
  (g.before.querySubs.filter fun sub => sub.reference.path = Text.parentPath path).map (fun sub =>
    ⟨sub.listener, g.after.queryOutcome sub.reference⟩)

/-- The error of a result, if it is one. -/
def errorOf {α : Type} : Except CallError α → Option CallError
  | .ok _ => none
  | .error e => some e

/-- Reading is requested and concluded, and only counted as an operation. -/
def Reads (g : LogSegment) (l : Launch) : Prop :=
  g.after = g.before.charged ∧
  ∃ r, l.exchange.verdict (g.before.now l.reference) = some r ∧
    g.emitted = [l.exchange.requestAction l.payload, l.exchange.announced r] ∧
    g.rejected = errorOf r

/-- A write ends as its operation does on the store before it.  It is requested, told to every
earlier subscription it touches if it took place, and then concluded. -/
def Writes (g : LogSegment) (freshId : Nat → String) (l : Launch) (op : Operation) : Prop :=
  g.after = (op.perform freshId g.before l.reference).1.drained ∧ g.SameListeners ∧
  ∃ outcome told r, (op.perform freshId g.before l.reference).2 = outcome ∧
    l.exchange.verdict outcome = some r ∧
    g.emitted = l.exchange.requestAction l.payload :: told ++ [l.exchange.announced r] ∧
    g.rejected = errorOf r ∧
    ((∃ e, outcome = .error e ∧ told = [] ∧ g.after.documents = g.before.documents) ∨
      ∃ response data, outcome = .ok response ∧
        g.after.documents =
          g.before.documents.insert (op.path freshId g.before l.reference) data ∧
        List.Forall₂ Delivery.ToldBy (g.deliveries (op.path freshId g.before l.reference)) told)

/-- A subscription is requested and told what there is, or fails where its query cannot be run. -/
def Subscribes (g : LogSegment) (l : Launch) : Prop :=
  (∃ response r, g.before.now l.reference = .ok response ∧
    g.after = (g.before.subscribed l.exchange l.reference).charged ∧
    l.exchange.verdict (.ok response) = some r ∧
    g.emitted = [l.exchange.requestAction l.payload, l.exchange.announced r] ∧
    g.rejected = none) ∨
  ∃ e, g.before.now l.reference = .error e ∧ g.after = g.before.charged ∧
    g.emitted = [l.exchange.requestAction l.payload, l.exchange.failureAction (.storage e)] ∧
    g.rejected = some (.storage e)

/-- What a call adds, by its method. -/
def Calls (g : LogSegment) (freshId : Nat → String) (l : Launch) : Method → Prop
  | .subscribe => g.Subscribes l
  | .get => g.Reads l
  | .set data options => g.Writes freshId l (.set data options)
  | .add data => g.Writes freshId l (.add data)
  | .update data => g.Writes freshId l (.update data)

/-- The error of a segment is the message that its last action carries. -/
def Tells (g : LogSegment) : Prop :=
  ∀ e, g.rejected = some e → ∃ last, g.emitted.getLast? = some last ∧
    (last.get? Action.metaKey).bind (·.get? "message") = some (.string e.message)

/-- Nothing has been asked of the store. -/
def Untouched (g : LogSegment) : Prop := g.after = g.before

/-- **What a segment has to be**, by the decision on its action: the action itself; nothing but an
error; nothing at all; or what the call of the descriptor adds, with the error told. -/
def Adds (g : LogSegment) (marker : String) (freshId : Nat → String) : Decision → Prop
  | .forward => g.emitted = [g.action] ∧ g.rejected = none ∧ g.Untouched
  | .reject e => g.emitted = [] ∧ g.rejected = some (.config e) ∧ g.Untouched
  | .bailOut => g.emitted = [] ∧ g.rejected = none ∧ g.Untouched
  | .call c reference =>
    g.Calls freshId (c.call (g.action.stripped marker) reference) c.query.method ∧ g.Tells

/-- **A lawful segment adds what its script decides.** -/
def Lawful (g : LogSegment) (s : Script) (marker : String) (freshId : Nat → String) : Prop :=
  ∃ decision, s.Decides marker g.action decision ∧ g.Adds marker freshId decision

/-- …and the decision is no matter of choice. -/
theorem Lawful.adds {g : LogSegment} {s : Script} {marker : String} {freshId : Nat → String}
    (h : g.Lawful s marker freshId) {decision : Decision}
    (decides : s.Decides marker g.action decision) : g.Adds marker freshId decision := by
  obtain ⟨decision', decides', adds⟩ := h
  rwa [decides.unique decides']

/-! ## The error is told -/

end LogSegment

end DocDispatch
