import DocDispatch.Proofs.Dispatch.Deeds
import DocDispatch.Proofs.Dispatch.Plan
import DocDispatch.Proofs.Store.Soundness

/-!
# Proofs/Dispatch/Soundness — a dispatcher that nothing breaks off

Three things can break off the handling of an action: a transform, the pipeline, and the listeners
of the store, which under a dispatcher are exchanges again.  An exchange is *sound* if its transform
never panics; a sound dispatcher has sound transforms and a sound pipeline, and makes sound
exchanges only.  Then its two programs are sound in the sense of `Proofs/Store/Soundness`, so they
never end in a panic, and with a quiet pipeline they always end.
-/

namespace DocDispatch

open Json (Value)

variable {σ : Type}

/-! ## Schemas -/

namespace Schema

/-- **A schema whose transform never panics.** -/
def Sound (s : Schema) : Prop :=
  ∀ name transform, s.transform = some (name, transform) → ∀ v, transform v ≠ .panicked

variable {s : Schema}

/-- **A sound schema never panics**: not on one entity… -/
theorem Sound.transformed (h : s.Sound) (entity : Value) :
    s.transformed entity ≠ .error .panic := by
  unfold Schema.transformed
  cases named : s.transform with
  | none => nofun
  | some pair =>
    obtain ⟨name, transform⟩ := pair
    have safe := h name transform named entity
    dsimp only
    cases result : transform entity with
    | entity v => nofun
    | refused message => nofun
    | panicked => exact absurd result safe

/-- …not on a document… -/
theorem Sound.fileDocument (h : s.Sound) (index : Nat) (doc : Snapshot) :
    s.fileDocument index doc ≠ .error .panic := by
  have safe := h.transformed (.object doc.entity)
  have filing : s.fileDocument index doc = (s.transformed (.object doc.entity)).bind fun entity =>
      (s.file index entity).mapError Fault.error := rfl
  rw [filing]
  cases transformed : s.transformed (.object doc.entity) with
  | error fault =>
    rintro ⟨⟩
    exact safe transformed
  | ok entity =>
    rw [Except.bind]
    cases s.file index entity with
    | error e => rintro ⟨⟩
    | ok filed => rintro ⟨⟩

/-- …not on any number of them… -/
theorem Sound.fileAll (h : s.Sound) :
    ∀ (index : Nat) (docs : List Snapshot), s.fileAll index docs ≠ .error .panic
  | _, [] => nofun
  | index, doc :: docs => by
    simp only [Schema.fileAll, bind, Except.bind]
    cases filed : s.fileDocument index doc with
    | error fault =>
      rintro ⟨⟩
      exact h.fileDocument index doc filed
    | ok filed =>
      dsimp only
      cases rest : s.fileAll (index + 1) docs with
      | error fault =>
        rintro ⟨⟩
        exact h.fileAll (index + 1) docs rest
      | ok rest => nofun

/-- …and so not on a response. -/
theorem Sound.normalize (h : s.Sound) (response : Response Snapshot) :
    s.normalize response ≠ .error .panic := by
  simp only [Schema.normalize, bind, Except.bind]
  cases filed : s.fileAll 0 response.toList with
  | error fault =>
    rintro ⟨⟩
    exact h.fileAll 0 _ filed
  | ok filed => nofun

end Schema

/-! ## Exchanges -/

namespace Exchange

/-- **An exchange that never breaks off**: every response is shaped into a payload or refused. -/
def Sound (x : Exchange) : Prop := ∀ response, x.payload response ≠ .error .panic

/-- An exchange is sound where its schema is, if it has one. -/
theorem sound_of_schema {x : Exchange} (h : ∀ s, x.schema = some s → s.Sound) : x.Sound := by
  intro response
  unfold payload Payload.ofResponse
  cases schema : x.schema with
  | none => nofun
  | some s =>
    have safe := (h s schema).normalize response
    dsimp only
    cases result : s.normalize response with
    | ok n => nofun
    | error fault =>
      rintro ⟨⟩
      exact safe result

/-- **A sound exchange has something to tell of every outcome.** -/
theorem Sound.exists_verdict {x : Exchange} (h : x.Sound) (outcome : Outcome) :
    ∃ r, x.verdict outcome = some r := by
  cases outcome with
  | error e => exact ⟨_, rfl⟩
  | ok response =>
    unfold verdict
    dsimp only
    cases shaped : x.payload response with
    | ok payload => exact ⟨_, rfl⟩
    | error fault =>
      cases fault with
      | error e => exact ⟨_, rfl⟩
      | panic => exact absurd shaped (h response)

end Exchange

/-! ## Pipelines -/

/-- **A pipeline that never panics, and registers sound exchanges only.** -/
structure Pipeline.Sound (P : Pipeline σ) : Prop where
  next : ∀ a, (P.next a).Sound Exchange.Sound
  report : ∀ e, (P.report e).Sound Exchange.Sound

/-- **A pipeline that never panics, and leaves the store alone.** -/
structure Pipeline.Quiet (P : Pipeline σ) : Prop where
  next : ∀ a, (P.next a).Quiet
  report : ∀ e, (P.report e).Quiet

section

variable {P : Pipeline σ}

/-- **Telling is sound where emitting and reporting are.** -/
theorem Pipeline.tell_sound {ok : Exchange → Prop} (next : ∀ a, (P.next a).Sound ok)
    (report : ∀ e, (P.report e).Sound ok) (r : Except CallError Action) (said : Action) :
    (P.tell r said).Sound ok := by
  have reported : (P.reportOf r).Sound ok := by
    cases r with
    | ok a => trivial
    | error e => exact report e
  exact reported.bind fun _ => (next said).bind fun _ => trivial

theorem Pipeline.Quiet.tell (hP : P.Quiet) (r : Except CallError Action) (said : Action) :
    (P.tell r said).Quiet := by
  have reported : (P.reportOf r).Quiet := by
    cases r with
    | ok a => trivial
    | error e => exact hP.report e
  exact reported.bind fun _ => (hP.next said).bind fun _ => trivial

end

namespace Exchange

variable {P : Pipeline σ} {x : Exchange} {outcome : Outcome}

theorem fail_sound (hP : P.Sound) (x : Exchange) (e : CallError) :
    (x.fail P e).Sound Exchange.Sound :=
  P.tell_sound hP.next hP.report (.error e) (x.failureAction e)

/-- …and concluding a call is, whatever its outcome. -/
theorem Sound.conclude (h : x.Sound) (hP : P.Sound) (outcome : Outcome) :
    (x.conclude P outcome).Sound Exchange.Sound := by
  obtain ⟨r, verdict⟩ := h.exists_verdict outcome
  rw [conclude_of_verdict P verdict]
  exact P.tell_sound hP.next hP.report r _

/-- A listener that has a verdict responds soundly to a sound pipeline… -/
theorem respond_sound {ok : Exchange → Prop} (next : ∀ a, (P.next a).Sound ok)
    (report : ∀ e, (P.report e).Sound ok) {r : Except CallError Action}
    (verdict : x.verdict outcome = some r) : (respond P x outcome).Sound ok := by
  rw [respond_of_verdict P verdict]
  exact (P.tell_sound next report r _).bind fun _ => trivial

/-- …and quietly to a quiet one. -/
theorem respond_quiet (hP : P.Quiet) {r : Except CallError Action}
    (verdict : x.verdict outcome = some r) : (respond P x outcome).Quiet := by
  rw [respond_of_verdict P verdict]
  exact (hP.tell r _).bind fun _ => trivial

theorem Sound.respond (h : x.Sound) (hP : P.Sound) (outcome : Outcome) :
    (Exchange.respond P x outcome).Sound Exchange.Sound :=
  have ⟨_, verdict⟩ := h.exists_verdict outcome
  respond_sound hP.next hP.report verdict

theorem Sound.respond_quiet (h : x.Sound) (hP : P.Quiet) (outcome : Outcome) :
    (Exchange.respond P x outcome).Quiet :=
  have ⟨_, verdict⟩ := h.exists_verdict outcome
  Exchange.respond_quiet hP verdict

end Exchange

/-! ## Dispatchers -/

/-- **An operation registers no listener that could be unsound.** -/
theorem Operation.run_sound {L : Type} {ok : L → Prop} (op : Operation) (r : Reference) :
    (op.run r : Program σ L Outcome).Sound ok := by
  cases op <;> exact ⟨trivial, fun _ => trivial⟩

/-- **A pending call with a sound exchange is a sound program.** -/
theorem PendingCall.run_sound {P : Pipeline σ} (hP : P.Sound) {c : PendingCall}
    (hc : c.exchange.Sound) : (c.run P).Sound Exchange.Sound :=
  Program.Sound.bind (c.operation.run_sound c.reference) (hc.conclude hP)

namespace Dispatcher

/-- **A dispatcher whose transforms and pipeline never panic.** -/
structure Sound (d : Dispatcher σ) : Prop where
  transforms : ∀ name transform, d.transforms name = some transform → ∀ v, transform v ≠ .panicked
  pipeline : d.pipeline.Sound

variable {d : Dispatcher σ} {state : Value} {canRun : Bool} {action : Action}

/-- **Every schema a sound dispatcher resolves is sound.** -/
theorem Sound.schema (h : d.Sound) {descriptor : Option SchemaDescriptor} {s : Schema}
    (hs : d.schema descriptor = .ok (some s)) : s.Sound := by
  cases descriptor with
  | none => cases hs
  | some descriptor =>
    simp only [Dispatcher.schema, resolve] at hs
    cases named : descriptor.transform with
    | none =>
      rw [named] at hs
      cases hs
      nofun
    | some name =>
      rw [named] at hs
      dsimp only at hs
      cases found : d.transforms name with
      | none =>
        rw [found] at hs
        cases hs
      | some transform =>
        rw [found] at hs
        cases hs
        rintro _ _ ⟨⟩
        exact h.transforms name transform found

/-- **The exchange of a launched call is sound.** -/
theorem Sound.launch (h : d.Sound) {l : Launch}
    (plan : d.plan state canRun action = .ok (.launch l)) : l.exchange.Sound := by
  have planned := d.planned state canRun action
  rw [plan] at planned
  cases planned with
  | launch _ _ resolved _ _ =>
    exact Exchange.sound_of_schema fun s hs =>
      h.schema (resolved.trans (congrArg Except.ok hs))

/-- **Handling an action is a sound program.** -/
theorem Sound.handle (h : d.Sound) (state : Value) (canRun : Bool) (action : Action) :
    (d.handle state canRun action).Sound Exchange.Sound := by
  unfold Dispatcher.handle
  cases plan : d.plan state canRun action with
  | error e => trivial
  | ok asked =>
    cases asked with
    | forward =>
      refine Program.Sound.bind (h.pipeline.next action) fun _ => ?_
      trivial
    | bailOut => trivial
    | launch l =>
      refine Program.Sound.bind (h.pipeline.next _) fun _ => ?_
      cases l.operation with
      | some op => trivial
      | none =>
        refine ⟨h.launch plan, fun reply => ?_⟩
        cases reply with
        | ok id => trivial
        | error e =>
          refine Program.Sound.bind (Exchange.fail_sound h.pipeline _ _) fun _ => ?_
          trivial

/-- **Its listeners are sound when they are called.** -/
theorem Sound.environment (h : d.Sound) (freshId : Nat → String) :
    (d.environment freshId).Sound Exchange.Sound :=
  fun _ outcome hx => hx.respond h.pipeline outcome

/-! ## Quiet pipelines -/

section

variable {P : Pipeline σ}

/-- A quiet pipeline takes an action and leaves the store alone… -/
theorem exists_emitted (env : Environment σ Exchange) (hP : P.Quiet) (w : World σ Exchange)
    (a : Action) :
    ∃ w', (Deed.emitted a).Done env P w w' ∧ w'.store = w.store := by
  obtain ⟨n, _, h', quietly⟩ := (hP.next a).exists_quietly w.host
  exact ⟨⟨w.store, h'⟩, ⟨n, quietly.completesIn w.store⟩, rfl⟩

/-- …and an error. -/
theorem exists_reported (env : Environment σ Exchange) (hP : P.Quiet) (w : World σ Exchange)
    (e : CallError) :
    ∃ w', (Deed.reported e).Done env P w w' ∧ w'.store = w.store := by
  obtain ⟨n, _, h', quietly⟩ := (hP.report e).exists_quietly w.host
  exact ⟨⟨w.store, h'⟩, ⟨n, quietly.completesIn w.store⟩, rfl⟩

/-- …so a call can always be concluded through it. -/
theorem exists_closing (env : Environment σ Exchange) (hP : P.Quiet) (w : World σ Exchange)
    (x : Exchange) (r : Except CallError Action) : ∃ w', Deeds env P w (x.closing r) w' := by
  cases r with
  | ok a =>
    obtain ⟨w', emitted, -⟩ := exists_emitted env hP w a
    exact ⟨w', .cons emitted .nil⟩
  | error e =>
    obtain ⟨v, reported, -⟩ := exists_reported env hP w e
    obtain ⟨w', emitted, -⟩ := exists_emitted env hP v (x.failureAction e)
    exact ⟨w', .cons reported (.cons emitted .nil)⟩

end

variable {w : World σ Exchange}

/-- **In a sound world behind a quiet pipeline every call of the store returns**… -/
theorem exists_call (freshId : Nat → String) (hP : d.pipeline.Quiet)
    (hw : w.Sound Exchange.Sound) {c : Call Exchange} (hc : c.Admits Exchange.Sound) :
    ∃ reply w', Completes (d.environment freshId) w (.perform c) reply w' :=
  ⟨_, hw.exists_call_completes (fun _ outcome hx => hx.respond_quiet hP outcome) hc⟩

/-- …and with it every operation. -/
theorem exists_operated (freshId : Nat → String) (hP : d.pipeline.Quiet)
    (hw : w.Sound Exchange.Sound) (op : Operation) (r : Reference) :
    ∃ outcome w', (Deed.operated op r outcome).Done (d.environment freshId) d.pipeline w w' := by
  cases op with
  | get => exact exists_call freshId hP hw (c := .get r) trivial
  | set data options => exact exists_call freshId hP hw (c := .set r data options) trivial
  | add data => exact exists_call freshId hP hw (c := .add r data) trivial
  | update data => exact exists_call freshId hP hw (c := .update r data) trivial

/-- **With a quiet pipeline every pending call runs to its end.** -/
theorem exists_run_completes (freshId : Nat → String) (hP : d.pipeline.Quiet)
    (hw : w.Sound Exchange.Sound) {c : PendingCall} (hc : c.exchange.Sound) :
    ∃ r w', Completes (d.environment freshId) w (c.run d.pipeline) r w' := by
  obtain ⟨outcome, v, operated⟩ :=
    exists_operated freshId hP hw c.operation c.reference
  obtain ⟨r, verdict⟩ := hc.exists_verdict outcome
  obtain ⟨w', closing⟩ := exists_closing (d.environment freshId) hP v c.exchange r
  exact ⟨r, w', (c.run_completes r).mpr ⟨outcome, verdict, .cons operated closing⟩⟩

/-- **With a quiet pipeline every action is handled to the end.** -/
theorem exists_handle_completes (freshId : Nat → String) (h : d.Sound) (hP : d.pipeline.Quiet)
    (hw : w.Sound Exchange.Sound) (state : Value) (canRun : Bool) (action : Action) :
    ∃ r w', Completes (d.environment freshId) w (d.handle state canRun action) r w' := by
  have opened : ∃ r ds w', d.Opens state canRun action r ds ∧
      Deeds (d.environment freshId) d.pipeline w ds w' := by
    cases plan : d.plan state canRun action with
    | error e => exact ⟨_, _, w, .refused plan, .nil⟩
    | ok asked =>
      cases asked with
      | forward =>
        obtain ⟨w', emitted, -⟩ := exists_emitted (d.environment freshId) hP w action
        exact ⟨_, _, w', .forwarded plan, .cons emitted .nil⟩
      | bailOut => exact ⟨_, _, w, .bailedOut plan, .nil⟩
      | launch l =>
        obtain ⟨v, requested, same⟩ := exists_emitted (d.environment freshId) hP w
          (l.exchange.requestAction l.payload)
        cases operation : l.operation with
        | some op => exact ⟨_, _, v, .pending plan operation, .cons requested .nil⟩
        | none =>
          have hv : v.Sound Exchange.Sound := ⟨same ▸ hw.between, same ▸ hw.hosts⟩
          obtain ⟨reply, u, listened⟩ := exists_call freshId hP hv
            (c := .listen l.reference l.exchange) (h.launch plan)
          cases reply with
          | ok id =>
            exact ⟨_, _, u, .subscribed plan operation id, .cons requested (.cons listened .nil)⟩
          | error e =>
            obtain ⟨w', closing⟩ := exists_closing (d.environment freshId) hP u l.exchange
              (.error (.storage e))
            exact ⟨_, _, w', .notSubscribed plan operation e,
              .cons requested (.cons listened closing)⟩
  obtain ⟨r, ds, w', opens, deeds⟩ := opened
  exact ⟨r, w', (d.handle_completes state canRun action r).mpr ⟨ds, opens, deeds⟩⟩

end Dispatcher

end DocDispatch
