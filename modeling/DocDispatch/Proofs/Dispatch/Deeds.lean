import DocDispatch.Dispatch.Dispatcher
import DocDispatch.Proofs.Store.Completion

/-!
# Proofs/Dispatch/Deeds — what is done for one action, deed by deed

    handle :  emitted request ─▸ listened          run :  operated ─▸ emitted success
                              └▸ (pending)                         └▸ reported, emitted failure

A dispatcher does four things: it sends an action or an error to its pipeline, and it asks its store
to run an operation or to register a listener.  Each is a program of its own that runs to its end —
deliveries to other listeners included — before the next one starts.  `handle_completes` and
`run_completes` take the dispatcher's two programs apart into their deeds: each completes exactly
when its deeds can be done one after another, and nothing else happens in it.
-/

namespace DocDispatch

variable {σ : Type}

/-- **One thing a dispatcher does.** -/
inductive Deed where
  | emitted (a : Action)
  | reported (e : CallError)
  | operated (op : Operation) (r : Reference) (outcome : Outcome)
  | listened (r : Reference) (x : Exchange) (reply : Except StoreError Nat)

/-- A deed takes one world to another: its program runs to its end. -/
def Deed.Done (env : Environment σ Exchange) (P : Pipeline σ) (w : World σ Exchange) :
    Deed → World σ Exchange → Prop
  | emitted a, w' => Completes env w (P.next a) () w'
  | reported e, w' => Completes env w (P.report e) () w'
  | operated op r outcome, w' => Completes env w (op.run r) outcome w'
  | listened r x reply, w' => Completes env w (.perform (.listen r x)) reply w'

/-- **Deeds done one after another**, with nothing between them. -/
inductive Deeds (env : Environment σ Exchange) (P : Pipeline σ) :
    World σ Exchange → List Deed → World σ Exchange → Prop
  | nil {w : World σ Exchange} : Deeds env P w [] w
  | cons {w w' w'' : World σ Exchange} {d : Deed} {ds : List Deed} (first : d.Done env P w w')
      (rest : Deeds env P w' ds w'') : Deeds env P w (d :: ds) w''

section

variable {env : Environment σ Exchange} {P : Pipeline σ} {w w' w'' : World σ Exchange}

/-- Doing nothing leaves the world as it is… -/
theorem deeds_nil : Deeds env P w [] w' ↔ w' = w := by
  constructor
  · intro h
    cases h
    rfl
  · rintro rfl
    exact .nil

/-- …and anything else begins with a first deed. -/
theorem deeds_cons {d : Deed} {ds : List Deed} :
    Deeds env P w (d :: ds) w'' ↔ ∃ w', d.Done env P w w' ∧ Deeds env P w' ds w'' := by
  constructor
  · intro h
    cases h with
    | cons first rest => exact ⟨_, first, rest⟩
  · rintro ⟨w', first, rest⟩
    exact .cons first rest

/-- Deeds follow deeds. -/
theorem Deeds.append {ds ds' : List Deed} (h : Deeds env P w ds w')
    (h' : Deeds env P w' ds' w'') : Deeds env P w (ds ++ ds') w'' := by
  induction h with
  | nil => exact h'
  | cons first _ ih => exact .cons first (ih h')

theorem deeds_singleton {d : Deed} : Deeds env P w [d] w' ↔ d.Done env P w w' := by
  rw [deeds_cons]
  constructor
  · rintro ⟨v, done, rest⟩
    obtain rfl := deeds_nil.mp rest
    exact done
  · exact fun done => ⟨w', done, .nil⟩

end

/-! ## How a call is concluded -/

namespace Pipeline

/-- Reports the error of a result, if it is one. -/
def reportOf (P : Pipeline σ) : Except CallError Action → Program σ Exchange Unit
  | .ok _ => .done ()
  | .error e => P.report e

/-- **How a result is told**: its error is reported, then one action is emitted. -/
def tell (P : Pipeline σ) (r : Except CallError Action) (said : Action) :
    Program σ Exchange (Except CallError Action) :=
  (P.reportOf r).bind fun _ => (P.next said).bind fun _ => .done r

end Pipeline

namespace Exchange

/-- **The result an outcome leads to**; none where a transform breaks off. -/
def verdict (x : Exchange) : Outcome → Option (Except CallError Action)
  | .ok response =>
    match x.payload response with
    | .ok payload => some (.ok (x.successAction payload))
    | .error (.error e) => some (.error (.schema e))
    | .error .panic => none
  | .error e => some (.error (.storage e))

/-- **The action a result is announced by**: the success, or the failure that carries the error. -/
def announced (x : Exchange) : Except CallError Action → Action
  | .ok a => a
  | .error e => x.failureAction e

/-- **A call is concluded by telling its verdict**; without one it breaks off. -/
theorem conclude_eq (x : Exchange) (P : Pipeline σ) (outcome : Outcome) :
    x.conclude P outcome = (x.verdict outcome).elim .panic fun r => P.tell r (x.announced r) := by
  cases outcome with
  | error e => rfl
  | ok response =>
    simp only [conclude, succeed, verdict]
    cases x.payload response with
    | ok payload => rfl
    | error fault => cases fault <;> rfl

section

variable {x : Exchange} {outcome : Outcome}

/-- An outcome is concluded by telling its verdict… -/
theorem conclude_of_verdict (P : Pipeline σ) {r : Except CallError Action}
    (h : x.verdict outcome = some r) : x.conclude P outcome = P.tell r (x.announced r) := by
  rw [conclude_eq, h, Option.elim_some]

/-- …and no differently when a subscription hears of it. -/
theorem respond_of_verdict (P : Pipeline σ) {r : Except CallError Action}
    (h : x.verdict outcome = some r) :
    respond P x outcome = (P.tell r (x.announced r)).bind fun _ => .done () := by
  rw [respond, conclude_of_verdict P h]
  rfl

/-- **A subscription that has no verdict breaks off.** -/
theorem respond_of_none (P : Pipeline σ) (h : x.verdict outcome = none) :
    respond P x outcome = .panic := by
  rw [respond, conclude_eq, h, Option.elim_none]
  rfl

end

/-- **What is done about a result**: a success is emitted, a failure reported and emitted. -/
def closing (x : Exchange) : Except CallError Action → List Deed
  | .ok a => [.emitted a]
  | .error e => [.reported e, .emitted (x.failureAction e)]

/-- **A failure carries its error as metadata, whatever the descriptor has there.** -/
theorem failureAction_meta (x : Exchange) (e : CallError) :
    (x.failureAction e).get? Action.metaKey = some e.toJson :=
  Assoc.get?_insert_self _ _ _

/-- **A verdict is a success action of the exchange, or an error.** -/
theorem verdict_cases {x : Exchange} {outcome : Outcome} {r : Except CallError Action}
    (h : x.verdict outcome = some r) :
    (∃ payload, r = .ok (x.successAction payload)) ∨ ∃ e, r = .error e := by
  cases r with
  | error e => exact Or.inr ⟨e, rfl⟩
  | ok a =>
    refine Or.inl ?_
    unfold verdict at h
    split at h
    · split at h
      · cases h
        exact ⟨_, rfl⟩
      · cases h
      · cases h
    · cases h

variable {env : Environment σ Exchange} {P : Pipeline σ} {w w' : World σ Exchange}

/-- **To request is to emit the request**, and nothing besides. -/
theorem request_completes (x : Exchange) (payload : Option Json.Value) (u : Unit) :
    Completes env w (x.request P payload) u w' ↔
      Deeds env P w [.emitted (x.requestAction payload)] w' :=
  (deeds_singleton (d := .emitted (x.requestAction payload))).symm

/-- Telling a result does what is to be done about it. -/
theorem tell_completes (x : Exchange) (r r' : Except CallError Action) :
    Completes env w (P.tell r (x.announced r)) r' w' ↔
      r' = r ∧ Deeds env P w (x.closing r) w' := by
  have after {p : Program σ Exchange Unit} {v : World σ Exchange} :
      Completes env v (p.bind fun _ => .done r) r' w' ↔ r' = r ∧ Completes env v p () w' := by
    simp only [completes_bind, completes_done]
    constructor
    · rintro ⟨⟨⟩, v', done, rfl, rfl⟩
      exact ⟨rfl, done⟩
    · rintro ⟨rfl, done⟩
      exact ⟨(), w', done, rfl, rfl⟩
  cases r with
  | ok a =>
    rw [closing, deeds_singleton]
    exact after
  | error e =>
    rw [Pipeline.tell, completes_bind, closing, deeds_cons]
    constructor
    · rintro ⟨⟨⟩, v, reported, rest⟩
      obtain ⟨rfl, emitted⟩ := after.mp rest
      exact ⟨rfl, v, reported, deeds_singleton.mpr emitted⟩
    · rintro ⟨rfl, v, reported, emitted⟩
      exact ⟨(), v, reported, after.mpr ⟨rfl, deeds_singleton.mp emitted⟩⟩

/-- **A call is concluded by its verdict**, and what that asks for is all that is done. -/
theorem conclude_completes (x : Exchange) (outcome : Outcome) (r : Except CallError Action) :
    Completes env w (x.conclude P outcome) r w' ↔
      x.verdict outcome = some r ∧ Deeds env P w (x.closing r) w' := by
  rw [conclude_eq]
  cases x.verdict outcome with
  | none => exact ⟨fun h => absurd h not_completes_panic, fun h => nomatch h.1⟩
  | some r' =>
    rw [Option.elim_some, tell_completes, Option.some_inj]
    constructor
    · rintro ⟨rfl, deeds⟩
      exact ⟨rfl, deeds⟩
    · rintro ⟨rfl, deeds⟩
      exact ⟨rfl, deeds⟩

end Exchange

/-- **A pending call runs to its end** by one operation and what the verdict on it asks for. -/
theorem PendingCall.run_completes {env : Environment σ Exchange} {P : Pipeline σ}
    {w w' : World σ Exchange} (c : PendingCall) (r : Except CallError Action) :
    Completes env w (c.run P) r w' ↔
      ∃ outcome, c.exchange.verdict outcome = some r ∧
        Deeds env P w (.operated c.operation c.reference outcome :: c.exchange.closing r) w' := by
  simp only [PendingCall.run, Program.bind_eq, completes_bind, Exchange.conclude_completes,
    deeds_cons, Deed.Done]
  constructor
  · rintro ⟨outcome, v, operated, verdict, deeds⟩
    exact ⟨outcome, verdict, v, operated, deeds⟩
  · rintro ⟨outcome, verdict, v, operated, deeds⟩
    exact ⟨outcome, v, operated, verdict, deeds⟩

namespace Dispatcher

/-! ## How an action is handled -/

/-- **What an action leads to, and the deeds that lead there.** -/
inductive Opens (d : Dispatcher σ) (state : Json.Value) (canRun : Bool) (action : Action) :
    Except CallError Disposition → List Deed → Prop
  | forwarded (h : d.plan state canRun action = .ok .forward) :
      Opens d state canRun action (.ok .forwarded) [.emitted action]
  | refused {e : CallError} (h : d.plan state canRun action = .error e) :
      Opens d state canRun action (.error e) []
  | bailedOut (h : d.plan state canRun action = .ok .bailOut) :
      Opens d state canRun action (.ok .bailedOut) []
  | pending {l : Launch} {op : Operation} (h : d.plan state canRun action = .ok (.launch l))
      (ho : l.operation = some op) :
      Opens d state canRun action (.ok (.pending ⟨l.exchange, l.reference, op⟩))
        [.emitted (l.exchange.requestAction l.payload)]
  | subscribed {l : Launch} (h : d.plan state canRun action = .ok (.launch l))
      (ho : l.operation = none) (id : Nat) :
      Opens d state canRun action (.ok (.subscribed id))
        [.emitted (l.exchange.requestAction l.payload),
          .listened l.reference l.exchange (.ok id)]
  | notSubscribed {l : Launch} (h : d.plan state canRun action = .ok (.launch l))
      (ho : l.operation = none) (e : StoreError) :
      Opens d state canRun action (.error (.storage e))
        (.emitted (l.exchange.requestAction l.payload) ::
          .listened l.reference l.exchange (.error e) ::
          l.exchange.closing (.error (.storage e)))

variable {env : Environment σ Exchange} {w w' : World σ Exchange}

/-- To subscribe is to ask the store to listen, and to fail where it refuses. -/
theorem subscribe_eq (d : Dispatcher σ) (l : Launch) :
    d.subscribe l = (Program.perform (.listen l.reference l.exchange)).bind fun
      | .ok id => .done (.ok (.subscribed id))
      | .error e => (l.exchange.fail d.pipeline (.storage e)).bind fun _ =>
          .done (.error (.storage e)) :=
  rfl

/-- A subscription is registered or fails, and a failure is closed like any other. -/
theorem subscribe_completes (d : Dispatcher σ) (l : Launch) (r : Except CallError Disposition) :
    Completes env w (d.subscribe l) r w' ↔
      (∃ id, r = .ok (.subscribed id) ∧
        Deeds env d.pipeline w [.listened l.reference l.exchange (.ok id)] w') ∨
      ∃ e, r = .error (.storage e) ∧
        Deeds env d.pipeline w (.listened l.reference l.exchange (.error e) ::
          l.exchange.closing (.error (.storage e))) w' := by
  rw [subscribe_eq, completes_bind]
  constructor
  · rintro ⟨reply, v, listened, rest⟩
    cases reply with
    | ok id =>
      obtain ⟨rfl, rfl⟩ := completes_done.mp rest
      exact Or.inl ⟨id, rfl, deeds_singleton.mpr listened⟩
    | error e =>
      obtain ⟨_, u, failed, rest⟩ := completes_bind.mp rest
      obtain ⟨rfl, rfl⟩ := completes_done.mp rest
      obtain ⟨-, deeds⟩ := (Exchange.tell_completes _ (.error _) _).mp failed
      exact Or.inr ⟨e, rfl, .cons listened deeds⟩
  · rintro (⟨id, rfl, deeds⟩ | ⟨e, rfl, deeds⟩)
    · exact ⟨.ok id, w', deeds_singleton.mp deeds, completes_done.mpr ⟨rfl, rfl⟩⟩
    · obtain ⟨v, listened, deeds⟩ := deeds_cons.mp deeds
      have failed := (Exchange.tell_completes _ (.error _) _).mpr ⟨rfl, deeds⟩
      exact ⟨.error e, v, listened, completes_bind.mpr
        ⟨_, w', failed, completes_done.mpr ⟨rfl, rfl⟩⟩⟩

/-- A launched call is requested first; then it is left pending, or the subscription is made. -/
theorem start_completes (d : Dispatcher σ) (l : Launch) (r : Except CallError Disposition) :
    Completes env w (d.start l) r w' ↔
      ∃ v, Deeds env d.pipeline w [.emitted (l.exchange.requestAction l.payload)] v ∧
        match l.operation with
        | some op => r = .ok (.pending ⟨l.exchange, l.reference, op⟩) ∧ w' = v
        | none => Completes env v (d.subscribe l) r w' := by
  simp only [start, Program.bind_eq, completes_bind, Exchange.request_completes]
  cases l.operation with
  | some op =>
    simp only [Program.pure_eq, completes_done]
    constructor
    · rintro ⟨⟨⟩, v, requested, rest⟩
      exact ⟨v, requested, rest⟩
    · rintro ⟨v, requested, rest⟩
      exact ⟨(), v, requested, rest⟩
  | none =>
    constructor
    · rintro ⟨⟨⟩, v, requested, rest⟩
      exact ⟨v, requested, rest⟩
    · rintro ⟨v, requested, rest⟩
      exact ⟨(), v, requested, rest⟩

/-- Handling an action that comes to an end has opened it. -/
theorem exists_opens {d : Dispatcher σ} {state : Json.Value} {canRun : Bool} {action : Action}
    {r : Except CallError Disposition}
    (h : Completes env w (d.handle state canRun action) r w') :
    ∃ ds, d.Opens state canRun action r ds ∧ Deeds env d.pipeline w ds w' := by
  unfold handle at h
  cases plan : d.plan state canRun action with
  | error e =>
    rw [plan] at h
    obtain ⟨rfl, rfl⟩ := completes_done.mp h
    exact ⟨[], .refused plan, .nil⟩
  | ok asked =>
    rw [plan] at h
    cases asked with
    | forward =>
      obtain ⟨⟨⟩, v, emitted, rest⟩ := completes_bind.mp h
      obtain ⟨rfl, rfl⟩ := completes_done.mp rest
      exact ⟨_, .forwarded plan, deeds_singleton.mpr emitted⟩
    | bailOut =>
      obtain ⟨rfl, rfl⟩ := completes_done.mp h
      exact ⟨[], .bailedOut plan, .nil⟩
    | launch l =>
      obtain ⟨v, requested, rest⟩ := (d.start_completes l r).mp h
      cases operation : l.operation with
      | some op =>
        rw [operation] at rest
        obtain ⟨rfl, rfl⟩ := rest
        exact ⟨_, .pending plan operation, requested⟩
      | none =>
        rw [operation] at rest
        rcases (d.subscribe_completes l r).mp rest with ⟨id, rfl, deeds⟩ | ⟨e, rfl, deeds⟩
        · exact ⟨_, .subscribed plan operation id, requested.append deeds⟩
        · exact ⟨_, .notSubscribed plan operation e, requested.append deeds⟩

/-- Deeds that open an action handle it to the end. -/
theorem Opens.handle {d : Dispatcher σ} {state : Json.Value} {canRun : Bool} {action : Action}
    {r : Except CallError Disposition} {ds : List Deed} (opens : d.Opens state canRun action r ds)
    (deeds : Deeds env d.pipeline w ds w') :
    Completes env w (d.handle state canRun action) r w' := by
  unfold Dispatcher.handle
  cases opens with
  | forwarded plan =>
    rw [plan]
    exact completes_bind.mpr ⟨(), w', deeds_singleton.mp deeds, completes_done.mpr ⟨rfl, rfl⟩⟩
  | refused plan =>
    rw [plan]
    exact completes_done.mpr ⟨rfl, deeds_nil.mp deeds⟩
  | bailedOut plan =>
    rw [plan]
    exact completes_done.mpr ⟨rfl, deeds_nil.mp deeds⟩
  | pending plan operation =>
    rw [plan]
    refine (d.start_completes _ _).mpr ⟨w', deeds, ?_⟩
    rw [operation]
    exact ⟨rfl, rfl⟩
  | subscribed plan operation id =>
    rw [plan]
    obtain ⟨v, requested, deeds⟩ := deeds_cons.mp deeds
    refine (d.start_completes _ _).mpr ⟨v, deeds_singleton.mpr requested, ?_⟩
    rw [operation]
    exact (d.subscribe_completes _ _).mpr (Or.inl ⟨id, rfl, deeds⟩)
  | notSubscribed plan operation e =>
    rw [plan]
    obtain ⟨v, requested, deeds⟩ := deeds_cons.mp deeds
    refine (d.start_completes _ _).mpr ⟨v, deeds_singleton.mpr requested, ?_⟩
    rw [operation]
    exact (d.subscribe_completes _ _).mpr (Or.inr ⟨e, rfl, deeds⟩)

/-- **Handling an action is opening it**: what becomes of it and the deeds done for it are those of
its plan. -/
theorem handle_completes (d : Dispatcher σ) (state : Json.Value) (canRun : Bool) (action : Action)
    (r : Except CallError Disposition) :
    Completes env w (d.handle state canRun action) r w' ↔
      ∃ ds, d.Opens state canRun action r ds ∧ Deeds env d.pipeline w ds w' := by
  constructor
  · exact exists_opens
  · rintro ⟨ds, opens, deeds⟩
    exact opens.handle deeds

end Dispatcher

end DocDispatch
