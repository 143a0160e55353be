import DocDispatch.Dispatch.Recorder
import DocDispatch.Proofs.Dispatch.Soundness

/-!
# Proofs/Dispatch/Lifecycle — what one action leads to, among all the others

    log :   (0, emitted a)  (1, emitted request)  (2, emitted request)  (1, operated …)  (1, …) …
    own 1 :                 emitted request                             operated …       …

A history is what a dispatcher has been asked to do, one action after another, where pending calls
are run whenever somebody runs them.  Beside it stands a log: every deed since the beginning, in the
order they were done, each under the action it was done for.  The log is complete — its deeds alone
lead from the first world to the present one — and what it has for a single action is lawful: a
forwarded action is emitted as it came, one that is not begun has no deeds, and a call is requested,
operated and then concluded by exactly one action, which is its result.
-/

namespace DocDispatch

open Json (Value)

variable {σ : Type}

/-- **What has become of an action.** -/
inductive Fate where
  | handled (r : Except CallError Disposition)
  /-- Its pending call has been run. -/
  | ran (c : PendingCall) (r : Except CallError Action)

/-- Whether nothing was begun: the descriptor was refused, the call could not be run, or the bailout
predicate held. -/
def Fate.NotBegun : Fate → Prop
  | .handled (.error (.config _)) => True
  | .handled (.error .noRuntime) => True
  | .handled (.ok .bailedOut) => True
  | _ => False

/-- **An action that was handled, and how.** -/
structure Invocation where
  state : Value
  canRun : Bool
  action : Action
  fate : Fate

/-- **What a dispatcher has been asked to do, and the world it has led to.** -/
structure History (σ : Type) where
  world : World σ Exchange
  /-- The actions handled, the first one first. -/
  invocations : List Invocation

namespace History

/-- An action is handled to its end. -/
def handled (t : History σ) (state : Value) (canRun : Bool) (action : Action)
    (r : Except CallError Disposition) (w : World σ Exchange) : History σ :=
  ⟨w, t.invocations ++ [⟨state, canRun, action, .handled r⟩]⟩

/-- The pending call of an action is run to its end. -/
def ran (t : History σ) (i : Nat) (inv : Invocation) (c : PendingCall)
    (r : Except CallError Action) (w : World σ Exchange) : History σ :=
  ⟨w, t.invocations.set i { inv with fate := .ran c r }⟩

/-- **The histories of a dispatcher**: any actions in any host states, and the calls they left
pending run in any order, or never. -/
inductive Reachable (d : Dispatcher σ) (freshId : Nat → String) (w : World σ Exchange) :
    History σ → Prop
  | start : Reachable d freshId w ⟨w, []⟩
  | handle {t : History σ} (h : Reachable d freshId w t) (state : Value) (canRun : Bool)
      (action : Action) {r : Except CallError Disposition} {w' : World σ Exchange}
      (completes : Completes (d.environment freshId) t.world (d.handle state canRun action) r w') :
      Reachable d freshId w (t.handled state canRun action r w')
  | run {t : History σ} (h : Reachable d freshId w t) {i : Nat} {inv : Invocation}
      (there : t.invocations[i]? = some inv) {c : PendingCall}
      (pending : inv.fate = .handled (.ok (.pending c))) {r : Except CallError Action}
      {w' : World σ Exchange}
      (completes : Completes (d.environment freshId) t.world (c.run d.pipeline) r w') :
      Reachable d freshId w (t.ran i inv c r w')

end History

/-! ## The log -/

/-- The deeds of a log that were done for one action. -/
def own (i : Nat) (log : List (Nat × Deed)) : List Deed :=
  (log.filter fun entry => entry.1 = i).map Prod.snd

/-- Deeds under the action they were done for. -/
def enter (i : Nat) (ds : List Deed) : List (Nat × Deed) := ds.map fun d => (i, d)

/-- What is one's own in a log is so piece by piece… -/
theorem own_append (i : Nat) (log log' : List (Nat × Deed)) :
    own i (log ++ log') = own i log ++ own i log' := by
  rw [own, List.filter_append, List.map_append]
  rfl

/-- …all of what one entered… -/
theorem own_enter (i : Nat) (ds : List Deed) : own i (enter i ds) = ds := by
  induction ds with
  | nil => rfl
  | cons d ds ih => simpa [own, enter] using ih

/-- …and nothing of what another did. -/
theorem own_enter_of_ne {i j : Nat} (h : i ≠ j) (ds : List Deed) : own j (enter i ds) = [] := by
  simp [own, enter, List.filter_map, h]

theorem map_snd_enter (i : Nat) (ds : List Deed) : (enter i ds).map Prod.snd = ds := by
  simp [enter, Function.comp_def]

/-- What was done for an action, as it follows from its plan. -/
inductive Told (d : Dispatcher σ) : Invocation → List Deed → Prop
  | handled {state : Value} {canRun : Bool} {action : Action} {r : Except CallError Disposition}
      {ds : List Deed} (opens : d.Opens state canRun action r ds) :
      Told d ⟨state, canRun, action, .handled r⟩ ds
  | ran {state : Value} {canRun : Bool} {action : Action} {c : PendingCall} {ds : List Deed}
      (opens : d.Opens state canRun action (.ok (.pending c)) ds) {outcome : Outcome}
      {r : Except CallError Action} (verdict : c.exchange.verdict outcome = some r) :
      Told d ⟨state, canRun, action, .ran c r⟩
        (ds ++ .operated c.operation c.reference outcome :: c.exchange.closing r)

namespace History

variable {d : Dispatcher σ} {freshId : Nat → String} {w : World σ Exchange} {t : History σ}

/-- **A log of a history**: its deeds lead to the present world, each stands under an action that
was handled, and what an action has follows from its plan. -/
structure Logged (d : Dispatcher σ) (freshId : Nat → String) (w : World σ Exchange)
    (t : History σ) (log : List (Nat × Deed)) : Prop where
  deeds : Deeds (d.environment freshId) d.pipeline w (log.map Prod.snd) t.world
  known : ∀ entry ∈ log, entry.1 < t.invocations.length
  told : ∀ i inv, t.invocations[i]? = some inv → Told d inv (own i log)

/-- Nothing is logged for an invocation that is still to come. -/
theorem Logged.own_eq_nil {log : List (Nat × Deed)} (h : t.Logged d freshId w log) :
    own t.invocations.length log = [] := by
  have none : log.filter (fun entry => entry.1 = t.invocations.length) = [] := by
    refine List.filter_eq_nil_iff.mpr fun entry mem => ?_
    simpa using Nat.ne_of_lt (h.known entry mem)
  rw [own, none]
  rfl

/-- **Handling an action logs what it opens with**, under its own number… -/
theorem Logged.handle {log : List (Nat × Deed)} (h : t.Logged d freshId w log) {state : Value}
    {canRun : Bool} {action : Action} {r : Except CallError Disposition} {w' : World σ Exchange}
    {ds : List Deed} (opens : d.Opens state canRun action r ds)
    (deeds : Deeds (d.environment freshId) d.pipeline t.world ds w') :
    (t.handled state canRun action r w').Logged d freshId w
      (log ++ enter t.invocations.length ds) where
  deeds := by
    rw [List.map_append, map_snd_enter]
    exact h.deeds.append deeds
  known := by
    intro entry mem
    rw [handled, List.length_append]
    rcases List.mem_append.mp mem with mem | mem
    · exact Nat.lt_add_right _ (h.known entry mem)
    · obtain ⟨_, _, rfl⟩ := List.mem_map.mp mem
      exact Nat.lt_succ_self _
  told := by
    intro i inv there
    rw [own_append]
    rcases Nat.lt_trichotomy i t.invocations.length with before | rfl | after
    · rw [own_enter_of_ne (Nat.ne_of_gt before), List.append_nil]
      rw [handled, List.getElem?_append_left before] at there
      exact h.told i inv there
    · rw [h.own_eq_nil, own_enter, List.nil_append]
      rw [handled, List.getElem?_concat_length] at there
      cases there
      exact .handled opens
    · rw [handled, List.getElem?_eq_none (by simpa [Nat.succ_le_iff] using after)] at there
      cases there

/-- …and running a pending call logs, under the number it has, how it ends. -/
theorem Logged.run {log : List (Nat × Deed)} (h : t.Logged d freshId w log) {i : Nat}
    {inv : Invocation} (there : t.invocations[i]? = some inv) {c : PendingCall}
    (pending : inv.fate = .handled (.ok (.pending c))) {outcome : Outcome}
    {r : Except CallError Action} (verdict : c.exchange.verdict outcome = some r)
    {w' : World σ Exchange} (deeds : Deeds (d.environment freshId) d.pipeline t.world
      (.operated c.operation c.reference outcome :: c.exchange.closing r) w') :
    (t.ran i inv c r w').Logged d freshId w
      (log ++ enter i (.operated c.operation c.reference outcome :: c.exchange.closing r)) where
  deeds := by
    rw [List.map_append, map_snd_enter]
    exact h.deeds.append deeds
  known := by
    intro entry mem
    rw [ran, List.length_set]
    rcases List.mem_append.mp mem with mem | mem
    · exact h.known entry mem
    · obtain ⟨_, _, rfl⟩ := List.mem_map.mp mem
      exact (List.getElem?_eq_some_iff.mp there).1
  told := by
    intro j inv' there'
    rw [own_append]
    by_cases same : i = j
    · subst same
      rw [ran, List.getElem?_set_self (List.getElem?_eq_some_iff.mp there).1] at there'
      cases there'
      have told := h.told i inv there
      obtain ⟨state, canRun, action, fate⟩ := inv
      obtain rfl : fate = _ := pending
      rw [own_enter]
      cases told with
      | handled opens => exact .ran opens verdict
    · rw [own_enter_of_ne same, List.append_nil]
      rw [ran, List.getElem?_set_ne same] at there'
      exact h.told j inv' there'

/-- **Every history has a log.** -/
theorem Reachable.exists_log (h : t.Reachable d freshId w) : ∃ log, t.Logged d freshId w log := by
  induction h with
  | start =>
    refine ⟨[], .nil, fun _ mem => absurd mem List.not_mem_nil, fun i inv there => ?_⟩
    rw [List.getElem?_nil] at there
    cases there
  | handle _ state canRun action completes ih =>
    obtain ⟨log, logged⟩ := ih
    obtain ⟨ds, opens, deeds⟩ := (d.handle_completes state canRun action _).mp completes
    exact ⟨_, logged.handle opens deeds⟩
  | run _ there pending completes ih =>
    obtain ⟨log, logged⟩ := ih
    obtain ⟨outcome, verdict, deeds⟩ := (PendingCall.run_completes _ _).mp completes
    exact ⟨_, logged.run there pending verdict deeds⟩

end History

/-! ## The law -/

/-- The call an action asks for, with what is emitted for it first. -/
def Invocation.Asks (d : Dispatcher σ) (inv : Invocation) (l : Launch) (op : Option Operation) :
    Prop :=
  d.plan inv.state inv.canRun inv.action = .ok (.launch l) ∧ l.operation = op

/-- **What is done for one action**, whatever is done for others in between. -/
structure Invocation.Lawful (d : Dispatcher σ) (inv : Invocation) (own : List Deed) : Prop where
  /-- An action without the marker is emitted as it came; there is no report and no store call. -/
  unmarked : inv.action.get? d.marker = none →
    inv.fate = .handled (.ok .forwarded) ∧ own = [.emitted inv.action]
  /-- Only an action without the marker is forwarded. -/
  forwarded : inv.fate = .handled (.ok .forwarded) → inv.action.get? d.marker = none
  /-- Where nothing is begun, nothing is emitted or reported, and the store is not called. -/
  notBegun : inv.fate.NotBegun → own = []
  /-- While its call is pending, the request has been emitted and the store not yet called. -/
  pending : ∀ c, inv.fate = .handled (.ok (.pending c)) →
    ∃ l, inv.Asks d l (some c.operation) ∧ c.exchange = l.exchange ∧ c.reference = l.reference ∧
      own = [.emitted (c.exchange.requestAction l.payload)]
  /-- Once the call has been run, one more action has been emitted: the success that is the result,
  or the failure that carries the error which is the result, and has been reported once. -/
  ran : ∀ c r, inv.fate = .ran c r →
    ∃ l outcome, inv.Asks d l (some c.operation) ∧ c.exchange = l.exchange ∧
      c.reference = l.reference ∧ c.exchange.verdict outcome = some r ∧
      ((∃ payload, r = .ok (c.exchange.successAction payload) ∧
          own = [.emitted (c.exchange.requestAction l.payload),
            .operated c.operation c.reference outcome,
            .emitted (c.exchange.successAction payload)]) ∨
        ∃ e, r = .error e ∧
          (c.exchange.failureAction e).get? Action.metaKey = some e.toJson ∧
          own = [.emitted (c.exchange.requestAction l.payload),
            .operated c.operation c.reference outcome,
            .reported e, .emitted (c.exchange.failureAction e)])
  /-- A subscription is requested, then registered. -/
  subscribed : ∀ id, inv.fate = .handled (.ok (.subscribed id)) →
    ∃ l, inv.Asks d l none ∧
      own = [.emitted (l.exchange.requestAction l.payload),
        .listened l.reference l.exchange (.ok id)]
  /-- One that is refused fails, as a call does. -/
  notSubscribed : ∀ e, inv.fate = .handled (.error (.storage e)) →
    ∃ l, inv.Asks d l none ∧
      (l.exchange.failureAction (.storage e)).get? Action.metaKey =
        some (CallError.storage e).toJson ∧
      own = [.emitted (l.exchange.requestAction l.payload),
        .listened l.reference l.exchange (.error e),
        .reported (.storage e), .emitted (l.exchange.failureAction (.storage e))]
  /-- Handling an action never ends in an error of a later stage. -/
  noOther : inv.fate ≠ .handled (.error .aborted) ∧
    ∀ e, inv.fate ≠ .handled (.error (.schema e))

namespace Dispatcher

variable {d : Dispatcher σ} {state : Value} {canRun : Bool} {action : Action}

/-- An action is refused before anything is begun. -/
theorem refused_notBegun {e : CallError} (h : d.plan state canRun action = .error e) :
    (Fate.handled (.error e)).NotBegun := by
  have planned := d.planned state canRun action
  rw [h] at planned
  cases planned with
  | refused _ _ => trivial
  | noRuntime _ _ => trivial

/-- An action without the marker is forwarded, and nothing else. -/
theorem Opens.of_unmarked {r : Except CallError Disposition} {ds : List Deed}
    (h : d.Opens state canRun action r ds) (unmarked : action.get? d.marker = none) :
    r = .ok .forwarded ∧ ds = [.emitted action] := by
  have forward := d.plan_of_unmarked unmarked state canRun
  cases h with
  | forwarded plan => exact ⟨rfl, rfl⟩
  | refused plan => rw [forward] at plan; cases plan
  | bailedOut plan => rw [forward] at plan; cases plan
  | pending plan _ => rw [forward] at plan; cases plan
  | subscribed plan _ _ => rw [forward] at plan; cases plan
  | notSubscribed plan _ _ => rw [forward] at plan; cases plan

/-- An action whose handling is not begun has no deeds. -/
theorem Opens.of_notBegun {r : Except CallError Disposition} {ds : List Deed}
    (h : d.Opens state canRun action r ds) (notBegun : (Fate.handled r).NotBegun) : ds = [] := by
  cases h with
  | forwarded plan => exact notBegun.elim
  | refused plan => rfl
  | bailedOut plan => rfl
  | pending plan _ => exact notBegun.elim
  | subscribed plan _ _ => exact notBegun.elim
  | notSubscribed plan _ _ => exact notBegun.elim

/-- **A call that is left pending has been requested**, and nothing else has been done for it. -/
theorem Opens.of_pending {c : PendingCall} {ds : List Deed}
    (h : d.Opens state canRun action (.ok (.pending c)) ds) :
    ∃ l, d.plan state canRun action = .ok (.launch l) ∧ l.operation = some c.operation ∧
      c.exchange = l.exchange ∧ c.reference = l.reference ∧
      ds = [.emitted (c.exchange.requestAction l.payload)] := by
  cases h with
  | pending plan operation => exact ⟨_, plan, operation, rfl, rfl, rfl⟩

end Dispatcher

/-- What a handled action has is what its plan opens with. -/
theorem Told.opens {d : Dispatcher σ} {inv : Invocation} {ds : List Deed} (h : Told d inv ds)
    {r : Except CallError Disposition} (fate : inv.fate = .handled r) :
    d.Opens inv.state inv.canRun inv.action r ds := by
  cases h with
  | ran _ _ => cases fate
  | handled opens =>
    cases fate
    exact opens

/-- What follows from the plan of an action is lawful. -/
theorem Told.lawful {d : Dispatcher σ} {inv : Invocation} {ds : List Deed} (h : Told d inv ds) :
    inv.Lawful d ds where
  unmarked := by
    intro unmarked
    cases h with
    | handled opens =>
      obtain ⟨rfl, rfl⟩ := opens.of_unmarked unmarked
      exact ⟨rfl, rfl⟩
    | ran opens _ =>
      obtain ⟨⟨⟩, -⟩ := opens.of_unmarked unmarked
  forwarded := by
    intro fate
    cases h.opens fate with
    | forwarded plan => exact d.unmarked_of_plan plan
  notBegun := by
    intro notBegun
    cases h with
    | handled opens => exact opens.of_notBegun notBegun
    | ran _ _ => exact notBegun.elim
  pending := by
    intro c fate
    obtain ⟨l, plan, operation, exchange, reference, deeds⟩ := (h.opens fate).of_pending
    exact ⟨l, ⟨plan, operation⟩, exchange, reference, deeds⟩
  ran := by
    intro c r fate
    cases h with
    | handled _ => cases fate
    | @ran _ _ _ _ _ opens outcome _ verdict =>
      cases fate
      obtain ⟨l, plan, operation, exchange, reference, rfl⟩ := opens.of_pending
      refine ⟨l, outcome, ⟨plan, operation⟩, exchange, reference, verdict, ?_⟩
      rcases Exchange.verdict_cases verdict with ⟨payload, rfl⟩ | ⟨e, rfl⟩
      · exact Or.inl ⟨payload, rfl, rfl⟩
      · exact Or.inr ⟨e, rfl, c.exchange.failureAction_meta e, rfl⟩
  subscribed := by
    intro id fate
    cases h.opens fate with
    | subscribed plan operation id => exact ⟨_, ⟨plan, operation⟩, rfl⟩
  notSubscribed := by
    intro e fate
    cases h.opens fate with
    | refused plan => exact (Dispatcher.refused_notBegun plan).elim
    | @notSubscribed l plan operation e =>
      exact ⟨l, ⟨plan, operation⟩, l.exchange.failureAction_meta _, rfl⟩
  noOther := by
    constructor
    · intro fate
      cases h.opens fate with
      | refused plan => exact (Dispatcher.refused_notBegun plan).elim
    · intro e fate
      cases h.opens fate with
      | refused plan => exact (Dispatcher.refused_notBegun plan).elim

namespace History

variable {d : Dispatcher σ} {freshId : Nat → String} {w : World σ Exchange} {t : History σ}

/-- A call that an action has left pending and that has not been run. -/
def Pending (t : History σ) (c : PendingCall) : Prop :=
  ∃ inv ∈ t.invocations, inv.fate = .handled (.ok (.pending c))

/-- A dispatcher that never panics leaves only calls pending that never panic. -/
theorem Reachable.pending_sound (h : t.Reachable d freshId w) (hd : d.Sound) {c : PendingCall}
    (pending : t.Pending c) : c.exchange.Sound := by
  obtain ⟨log, logged⟩ := h.exists_log
  obtain ⟨inv, mem, fate⟩ := pending
  obtain ⟨i, there⟩ := List.mem_iff_getElem?.mp mem
  obtain ⟨l, ⟨plan, -⟩, exchange, -, -⟩ := (logged.told i inv there).lawful.pending c fate
  exact exchange ▸ hd.launch plan

/-- In a history that began in a sound world, the world is sound. -/
theorem Reachable.world_sound (h : t.Reachable d freshId w) (hd : d.Sound)
    (hw : w.Sound Exchange.Sound) : t.world.Sound Exchange.Sound := by
  induction h with
  | start => exact hw
  | handle _ state canRun action completes ih =>
    exact ih.completes (hd.environment freshId) (hd.handle state canRun action) completes
  | run h there fate completes ih =>
    have exchange := h.pending_sound hd ⟨_, List.mem_of_getElem? there, fate⟩
    exact ih.completes (hd.environment freshId) (PendingCall.run_sound hd.pipeline exchange)
      completes

/-- Where nothing is begun, the world stays as it is. -/
theorem world_eq_of_notBegun {state : Value} {canRun : Bool} {action : Action}
    {r : Except CallError Disposition} {w' : World σ Exchange}
    (completes : Completes (d.environment freshId) w (d.handle state canRun action) r w')
    (notBegun : (Fate.handled r).NotBegun) : w' = w := by
  obtain ⟨ds, opens, deeds⟩ := (d.handle_completes state canRun action r).mp completes
  rw [opens.of_notBegun notBegun] at deeds
  exact deeds_nil.mp deeds

/-- **Every action has a lawful lifecycle**, whatever other actions are handled and in whatever
order pending calls are run.  A history has a log of deeds, which alone account for the present
world, and what is done for a single action is lawful: see `Invocation.Lawful`.  An action that is
not begun leaves the store and the host state as they are.  If no transform and no pipeline panics,
nothing is ever broken off; and with a pipeline that leaves the store alone, every action is handled
to the end and every pending call can be run to its end. -/
theorem Reachable.lifecycle (h : t.Reachable d freshId w) :
    (∃ log : List (Nat × Deed),
      Deeds (d.environment freshId) d.pipeline w (log.map Prod.snd) t.world ∧
      (∀ entry ∈ log, entry.1 < t.invocations.length) ∧
      ∀ (i : Nat) (inv : Invocation), t.invocations[i]? = some inv → inv.Lawful d (own i log)) ∧
    (∀ state canRun action r w',
      Completes (d.environment freshId) t.world (d.handle state canRun action) r w' →
      (Fate.handled r).NotBegun → w' = t.world) ∧
    (d.Sound → w.Sound Exchange.Sound →
      (∀ state canRun action,
        Unbroken (d.environment freshId) t.world (d.handle state canRun action)) ∧
      (∀ c, t.Pending c → Unbroken (d.environment freshId) t.world (c.run d.pipeline)) ∧
      (d.pipeline.Quiet →
        (∀ state canRun action, ∃ r w',
          Completes (d.environment freshId) t.world (d.handle state canRun action) r w') ∧
        ∀ c, t.Pending c → ∃ r w',
          Completes (d.environment freshId) t.world (c.run d.pipeline) r w')) := by
  refine ⟨?_, fun _ _ _ _ _ => world_eq_of_notBegun, fun hd hw => ?_⟩
  · obtain ⟨log, logged⟩ := h.exists_log
    exact ⟨log, logged.deeds, logged.known, fun i inv there => (logged.told i inv there).lawful⟩
  · have sound := h.world_sound hd hw
    refine ⟨fun state canRun action => ?_, fun c pending => ?_, fun quiet => ⟨?_, ?_⟩⟩
    · exact sound.unbroken (hd.environment freshId) (hd.handle state canRun action)
    · exact sound.unbroken (hd.environment freshId)
        (PendingCall.run_sound hd.pipeline (h.pending_sound hd pending))
    · exact Dispatcher.exists_handle_completes freshId hd quiet sound
    · intro c pending
      exact Dispatcher.exists_run_completes freshId quiet sound (h.pending_sound hd pending)

/-- **A dispatcher that keeps what it emits and reports.** -/
def keeping : Dispatcher Recorder := ⟨"CALL", fun _ => none, fun _ => none, Recorder.pipeline⟩

/-- An action that asks for an update of a document. -/
def update : Action :=
  ⟨[("type", .string "UPDATE"), ("CALL", .object [
    ("types", .array [.string "REQUEST", .string "SUCCESS", .string "FAILURE"]),
    ("query", .object [("collection", .string "users"), ("doc", .string "a"),
      ("method", .string "update"), ("data", .object [])])])]⟩

/-- The call it leaves pending. -/
def updating : PendingCall :=
  ⟨⟨.ofType "UPDATE", ⟨"REQUEST", "SUCCESS", "FAILURE"⟩, none, none⟩,
    .document ⟨[.collection "users", .doc "a"]⟩, .update []⟩

/-- The world a few steps of a program lead to. -/
def after {α : Type} (w : World Recorder Exchange) (p : Program Recorder Exchange α) :
    World Recorder Exchange :=
  let r := Run.steps (keeping.environment fun _ => "") 9 (Run.start w.store w.host p)
  ⟨r.store, r.host⟩

/-- An empty store. -/
def vacant : World Recorder Exchange := ⟨.ofDocuments .empty, .empty⟩

/-- An action without a call has been handled. -/
def greeted : History Recorder :=
  (⟨vacant, []⟩ : History Recorder).handled .null true (.ofType "GREETING") (.ok .forwarded)
    (after vacant (keeping.handle .null true (.ofType "GREETING")))

/-- Then the update of a document that is not there has been asked for. -/
def asked : History Recorder :=
  greeted.handled .null true update (.ok (.pending updating))
    (after greeted.world (keeping.handle .null true update))

/-- Then its call has been run. -/
def lost : History Recorder :=
  asked.ran 1 ⟨.null, true, update, .handled (.ok (.pending updating))⟩ updating
    (.error (.storage (.notFound "users/a"))) (after asked.world (updating.run keeping.pipeline))

/-- There the update has been requested, tried, reported and emitted as a failure, each once. -/
theorem lifecycle_lost :
    lost.Reachable keeping (fun _ => "") vacant ∧
    ∃ log outcome, own 1 log =
      [.emitted (updating.exchange.requestAction none),
        .operated (.update []) updating.reference outcome,
        .reported (.storage (.notFound "users/a")),
        .emitted (updating.exchange.failureAction (.storage (.notFound "users/a")))] := by
  have hgreeted : greeted.Reachable keeping (fun _ => "") vacant :=
    .handle .start .null true (.ofType "GREETING") ⟨9, rfl⟩
  have hasked : asked.Reachable keeping (fun _ => "") vacant :=
    .handle hgreeted .null true update ⟨9, rfl⟩
  have reached : lost.Reachable keeping (fun _ => "") vacant :=
    .run hasked rfl rfl ⟨9, rfl⟩
  obtain ⟨⟨log, -, -, lawful⟩, -⟩ := reached.lifecycle
  obtain ⟨l, outcome, ⟨plan, -⟩, -, -, -, closed⟩ :=
    (lawful 1 _ rfl).ran updating (.error (.storage (.notFound "users/a"))) rfl
  have launch : keeping.plan .null true update =
      .ok (.launch ⟨updating.exchange, none, updating.reference, some (.update [])⟩) := rfl
  obtain rfl : _ = l := by
    have same := launch.symm.trans plan
    cases same
    rfl
  refine ⟨reached, log, outcome, ?_⟩
  rcases closed with ⟨_, ⟨⟩, -⟩ | ⟨_, ⟨⟩, -, deeds⟩
  exact deeds

end History

end DocDispatch
