import DocDispatch.Proofs.Dispatch.Lifecycle
import DocDispatch.Proofs.Dispatch.Operating

/-!
# Proofs/Dispatch/Breakage — what can break off a pending call

    operated ──▸ drain  d₁ ─▸ d₂ ─▸ … ─▸ dₙ ──▸ conclude
                         └ no verdict ──▸ panic: nothing is concluded

A call sends the deliveries that its write owes before it concludes itself, and it runs their
listeners itself.  A listener whose transform panics has no verdict, and breaks off whoever sends
the delivery: that is the one way in which a call is broken off whose own transform and pipeline
never panic (`panicked_iff`).  Its document has been written by then, the deliveries after that one
stay in the queue, and no action concludes the call (`broken_off`).  Otherwise it is concluded by
exactly one action.
-/

namespace DocDispatch

variable {σ L α : Type}

/-- A delivery its listener has no verdict on, as the transform panics. -/
def Delivery.Mute (d : Delivery Exchange) : Prop := d.listener.verdict d.outcome = none

instance (d : Delivery Exchange) : Decidable d.Mute :=
  decidable_of_iff ((d.listener.verdict d.outcome).isNone) Option.isNone_iff_eq_none

/-- A pipeline that never panics, whatever listeners it registers. -/
structure Pipeline.Whole (P : Pipeline σ) : Prop where
  next : ∀ a, (P.next a).Sound fun _ => True
  report : ∀ e, (P.report e).Sound fun _ => True

theorem Pipeline.Quiet.whole {P : Pipeline σ} (h : P.Quiet) : P.Whole :=
  ⟨fun a => (h.next a).sound, fun e => (h.report e).sound⟩

/-- A delivery is mute, or there is something to tell. -/
theorem Delivery.exists_verdict {d : Delivery Exchange} (h : ¬ d.Mute) :
    ∃ r, d.listener.verdict d.outcome = some r :=
  Option.ne_none_iff_exists'.mp h

/-! ## Some more steps -/

namespace Run

/-- One step more is one step at the end, until the run is over. -/
theorem steps_succ_right (env : Environment σ L) (n : Nat) (r : Run σ L α) :
    steps env (n + 1) r =
      if (steps env n r).isOver then steps env n r else (steps env n r).step env := by
  rw [steps_add, steps]
  rfl

/-- A run that is over stays as it is. -/
theorem steps_eq_of_isOver {env : Environment σ L} {m n : Nat} {r : Run σ L α}
    (h : (steps env m r).isOver) (hmn : m ≤ n) : steps env n r = steps env m r := by
  obtain ⟨k, rfl⟩ := Nat.exists_eq_add_of_le hmn
  rw [steps_add, steps_of_isOver h]

theorem isOver_of_panicked {r : Run σ L α} (h : r.ending = .panicked) : r.isOver := by
  obtain ⟨store, host, outer, stack⟩ := r
  cases stack with
  | cons top below => cases h
  | nil =>
    cases outer with
    | panic => rfl
    | _ => cases h

/-- A delivery is handed over by a drain, to the listener that it is for. -/
theorem step_of_handed (env : Environment σ L) {r : Run σ L α} {d : Delivery L}
    (h : d ∈ r.handed) : ∃ queue below, r.store.queue = d :: queue ∧ r.stack = .drain :: below ∧
      r.step env = { r with
        store := { r.store with queue }
        stack := .listener (env.respond d.listener d.outcome) :: .drain :: below } := by
  unfold handed at h
  split at h
  · rename_i below d' queue stack queued
    obtain rfl := List.mem_singleton.mp h
    exact ⟨queue, below, queued, stack, by rw [step, stack, queued]⟩
  · cases h

end Run

/-! ## The one way -/

section

variable {P : Pipeline σ} {freshId : Nat → String} {r : Run σ Exchange α}

/-- As long as only deliveries with a verdict are handed over, nothing panics. -/
theorem Run.Sound.steps_of_verdicts (whole : P.Whole) (h : r.Sound fun _ => True) (n : Nat)
    (said : ∀ m < n, ∀ d ∈ (Run.steps ⟨Exchange.respond P, freshId⟩ m r).handed, ¬ d.Mute) :
    (Run.steps ⟨Exchange.respond P, freshId⟩ n r).Sound fun _ => True := by
  induction n with
  | zero => exact h
  | succ n ih =>
    have before := ih fun m hm => said m (Nat.lt_succ_of_lt hm)
    rw [Run.steps_succ_right]
    split
    · exact before
    · refine before.step fun d handed => ?_
      obtain ⟨_, verdict⟩ := Delivery.exists_verdict (said n (Nat.lt_succ_self n) d handed)
      exact Exchange.respond_sound whole.next whole.report verdict

/-- A listener without a verdict takes everything with it, and leaves the later deliveries. -/
theorem Run.unwound_of_mute (P : Pipeline σ) (freshId : Nat → String) {d : Delivery Exchange}
    (handed : d ∈ r.handed) (mute : d.Mute) :
    ∃ queue, r.store.queue = d :: queue ∧
      ∀ n, Run.steps ⟨Exchange.respond P, freshId⟩ (n + 2) r =
        ⟨{ r.store with queue, draining := false }, r.host, .panic, []⟩ := by
  obtain ⟨queue, below, queued, stack, step⟩ :=
    Run.step_of_handed ⟨Exchange.respond P, freshId⟩ handed
  refine ⟨queue, queued, fun n => ?_⟩
  have working : r.isOver = false := by rw [isOver, stack]
  rw [Run.steps_succ working, step]
  have panic : Exchange.respond P d.listener d.outcome = .panic := Exchange.respond_of_none P mute
  simp only [panic]
  rw [Run.steps_succ rfl, Run.steps_of_isOver rfl]
  simp [Run.step, unwind, Frame.isDrain]

/-- **A run is broken off exactly by a delivery without a verdict.** -/
theorem Run.Sound.panicked_iff (whole : P.Whole) (h : r.Sound fun _ => True) (n : Nat) :
    (Run.steps ⟨Exchange.respond P, freshId⟩ n r).ending = .panicked ↔
      ∃ m, m + 2 ≤ n ∧ ∃ d ∈ (Run.steps ⟨Exchange.respond P, freshId⟩ m r).handed, d.Mute := by
  constructor
  · refine fun panicked => Classical.byContradiction fun none => ?_
    have said (m : Nat) (hm : m + 2 ≤ n) :
        ∀ d ∈ (Run.steps ⟨Exchange.respond P, freshId⟩ m r).handed, ¬ d.Mute :=
      fun d handed mute => none ⟨m, hm, d, handed, mute⟩
    cases n with
    | zero => exact h.ending_ne_panicked panicked
    | succ n =>
      by_cases last : ∃ d ∈ (Run.steps ⟨Exchange.respond P, freshId⟩ n r).handed, d.Mute
      · -- What is handed over in the last step has not been responded to yet.
        obtain ⟨d, handed, -⟩ := last
        obtain ⟨_, _, -, stack, step⟩ := Run.step_of_handed ⟨Exchange.respond P, freshId⟩ handed
        rw [Run.steps_succ_right, if_neg (by simp [isOver, stack]), step] at panicked
        cases panicked
      · refine (h.steps_of_verdicts whole (n + 1) fun m hm => ?_).ending_ne_panicked panicked
        rcases Nat.lt_succ_iff_lt_or_eq.mp hm with earlier | rfl
        · exact said m (Nat.succ_le_succ earlier)
        · exact fun d handed mute => last ⟨d, handed, mute⟩
  · rintro ⟨m, hm, d, handed, mute⟩
    obtain ⟨k, rfl⟩ := Nat.exists_eq_add_of_le hm
    obtain ⟨queue, -, unwound⟩ := Run.unwound_of_mute P freshId handed mute
    rw [Nat.add_assoc, Run.steps_add, Nat.add_comm 2 k, unwound]
    rfl

end

/-! ## Pending calls -/

/-- The action a deed sends. -/
def Deed.said? : Deed → Option Action
  | .emitted a => some a
  | _ => none

theorem Exchange.said_closing (x : Exchange) (r : Except CallError Action) :
    (x.closing r).filterMap Deed.said? = [x.announced r] := by
  cases r <;> rfl

/-- A verdict is never that a call was aborted. -/
theorem Exchange.verdict_ne_aborted (x : Exchange) (outcome : Outcome) :
    x.verdict outcome ≠ some (.error .aborted) := by
  unfold verdict
  split
  · split <;> nofun
  · nofun

/-- The first step of an operation that sends something starts the drain. -/
theorem Operation.step_run (env : Environment σ L) {w : World σ L} {r : Reference}
    {op : Operation} (between : w.store.draining = false)
    (sends : op.sends (op.perform env.freshId w.store r).2) :
    (Run.start w.store w.host (op.run r)).step env =
      ⟨{ (op.perform env.freshId w.store r).1 with draining := true }, w.host,
        .done (op.perform env.freshId w.store r).2, [.drain]⟩ := by
  have call {c : Call L} (flushes : (w.store.perform env.freshId c).flushes) :=
    (Run.step_outer_call env (Run.orderly_start between w.host (.perform c)) rfl rfl).trans
      (if_pos flushes)
  cases op with
  | get => cases sends
  | set data options => exact call ((flushes_set ..).trans sends)
  | add data => exact call ((flushes_add ..).trans sends)
  | update data => exact call ((flushes_update ..).trans sends)

namespace PendingCall

/-- What a call does before its deliveries are sent. -/
def performed (c : PendingCall) (freshId : Nat → String) (s : Store Exchange) :
    Store Exchange × Outcome :=
  c.operation.perform freshId s c.reference

/-- The deliveries a call has to send before it is concluded. -/
def owes (c : PendingCall) (freshId : Nat → String) (s : Store Exchange) :
    List (Delivery Exchange) :=
  if c.operation.sends (c.performed freshId s).2 then (c.performed freshId s).1.queue else []

variable {P : Pipeline σ} {freshId : Nat → String} {w : World σ Exchange} {c : PendingCall}

/-- A call that has a verdict on whatever it is answered never panics by itself. -/
theorem run_whole (whole : P.Whole) (own : c.exchange.Sound) : (c.run P).Sound fun _ => True := by
  refine Program.Sound.bind (c.operation.run_sound c.reference) fun outcome => ?_
  obtain ⟨r, verdict⟩ := own.exists_verdict outcome
  rw [Exchange.conclude_of_verdict P verdict]
  exact P.tell_sound whole.next whole.report r _

/-- **A call is broken off by the first delivery without a verdict**: what its operation did stays
done, those before it have heard of it, the others are still owed, and nothing concludes it. -/
theorem broken_off (between : w.store.draining = false)
    {before rest : List (Delivery Exchange)} {d : Delivery Exchange}
    (owes : c.owes freshId w.store = before ++ d :: rest) (mute : d.Mute) {k : Nat} {host : σ}
    (heard : Heard ⟨Exchange.respond P, freshId⟩ k w.host before host) :
    Run.steps ⟨Exchange.respond P, freshId⟩ (k + 2) (Run.start w.store w.host (c.run P)) =
      ⟨{ (c.performed freshId w.store).1 with queue := rest, draining := false }, host, .panic,
        []⟩ := by
  let env : Environment σ Exchange := ⟨Exchange.respond P, freshId⟩
  let s : Store Exchange := { (c.performed freshId w.store).1 with draining := true }
  let conclude := c.exchange.conclude P
  unfold PendingCall.owes at owes
  split at owes
  · rename_i sends
    have working : (Run.start w.store w.host (c.operation.run c.reference :
        Program σ Exchange Outcome)).isOver = false := by
      cases c.operation <;> rfl
    have first : (Run.start w.store w.host (c.run P)).step env =
        ⟨s, w.host, conclude (c.performed freshId w.store).2, [.drain]⟩ :=
      (Run.step_bind env working conclude).trans
        (congrArg (·.bind conclude) (Operation.step_run env between sends))
    have working' : (Run.start w.store w.host (c.run P)).isOver = false :=
      Run.isOver_bind working conclude
    let left : Run σ Exchange (Except CallError Action) :=
      ⟨{ s with queue := d :: rest }, host, conclude (c.performed freshId w.store).2, [.drain]⟩
    have handed : d ∈ left.handed := List.mem_singleton_self d
    obtain ⟨_, ⟨⟩, unwound⟩ := Run.unwound_of_mute P freshId handed mute
    rw [Run.steps_succ working', first, Run.steps_add env k 1,
      heard.steps_front (s := s) owes, ← Run.steps_add env 1 1]
    exact unwound 0
  · exact absurd owes (List.append_ne_nil_of_right_ne_nil _ (List.cons_ne_nil _ _)).symm

/-- With a quiet pipeline a call is concluded if every delivery it has to send has a verdict. -/
theorem exists_completes_of_verdicts (quiet : P.Quiet) (between : w.store.draining = false)
    (own : c.exchange.Sound) (said : ∀ d ∈ c.owes freshId w.store, ¬ d.Mute) :
    ∃ r w', Completes ⟨Exchange.respond P, freshId⟩ w (c.run P) r w' := by
  let env : Environment σ Exchange := ⟨Exchange.respond P, freshId⟩
  have operated : ∃ v, Completes env w (c.operation.run c.reference)
      (c.performed freshId w.store).2 v := by
    unfold PendingCall.owes at said
    split at said
    · rename_i sends
      have hear : ∀ d ∈ (c.performed freshId w.store).1.queue,
          (env.respond d.listener d.outcome).Quiet := fun d there =>
        have ⟨_, verdict⟩ := Delivery.exists_verdict (said d there)
        Exchange.respond_quiet quiet verdict
      obtain ⟨n, host, heard⟩ := exists_heard hear w.host
      exact ⟨_, n + 1, Operation.completesIn_run_heard env between sends heard⟩
    · rename_i sends
      exact ⟨_, 1, Operation.completesIn_run env between (eq_false_of_ne_true sends)⟩
  obtain ⟨v, operated⟩ := operated
  obtain ⟨r, verdict⟩ := own.exists_verdict (c.performed freshId w.store).2
  obtain ⟨w', closing⟩ := Dispatcher.exists_closing env quiet v c.exchange r
  exact ⟨r, w', (c.run_completes r).mpr ⟨_, verdict, .cons operated closing⟩⟩

/-- A call that comes to a result is never broken off. -/
theorem not_panicked_of_completes {env : Environment σ Exchange} {r : Except CallError Action}
    {w' : World σ Exchange} (h : Completes env w (c.run P) r w') (n : Nat) :
    (Run.steps env n (Run.start w.store w.host (c.run P))).ending ≠ .panicked := by
  intro panicked
  obtain ⟨m, completes⟩ := h
  rw [CompletesIn] at completes
  rcases Nat.le_total m n with later | earlier
  · rw [Run.steps_eq_of_isOver (by rw [completes]; rfl) later, completes] at panicked
    cases panicked
  · rw [Run.steps_eq_of_isOver (Run.isOver_of_panicked panicked) earlier] at completes
    rw [completes] at panicked
    cases panicked

end PendingCall

namespace Dispatcher

/-- The run of a pending call after some steps. -/
def running (d : Dispatcher σ) (freshId : Nat → String) (w : World σ Exchange) (c : PendingCall)
    (n : Nat) : Run σ Exchange (Except CallError Action) :=
  Run.steps (d.environment freshId) n (Run.start w.store w.host (c.run d.pipeline))

variable (d : Dispatcher σ) (freshId : Nat → String) {w : World σ Exchange} {c : PendingCall}

/-- **A pending call is concluded by exactly one action, unless a delivery breaks it off** on which
the transform of some subscription panics.  Its own transform and the pipeline are not to panic.

* Where it comes to a result, that is not that it was aborted, and after its operation one success
  or failure action has been sent.
* It is broken off exactly when a delivery without a verdict has been handed to its listener.
* With a quiet pipeline these are the deliveries it owes once its operation is done: the call comes
  to a result exactly if all of them have a verdict.  Otherwise the first one without leaves the
  operation done, the call without a result, and nothing sent for it. -/
theorem concluded_or_broken_off (whole : d.pipeline.Whole) (between : w.store.draining = false)
    (own : c.exchange.Sound) :
    (∀ r w', Completes (d.environment freshId) w (c.run d.pipeline) r w' →
      r ≠ .error .aborted ∧ ∃ outcome, c.exchange.verdict outcome = some r ∧
        (c.exchange.closing r).filterMap Deed.said? = [c.exchange.announced r] ∧
        Deeds (d.environment freshId) d.pipeline w
          (.operated c.operation c.reference outcome :: c.exchange.closing r) w') ∧
    (∀ n, (d.running freshId w c n).ending = .panicked ↔
      ∃ m, m + 2 ≤ n ∧ ∃ sent ∈ (d.running freshId w c m).handed, sent.Mute) ∧
    (d.pipeline.Quiet →
      ((∃ r w', Completes (d.environment freshId) w (c.run d.pipeline) r w') ↔
        ∀ owed ∈ c.owes freshId w.store, ¬ owed.Mute) ∧
      ∀ before owed rest, c.owes freshId w.store = before ++ owed :: rest →
        (∀ earlier ∈ before, ¬ earlier.Mute) → owed.Mute →
        ∃ k host, Heard (d.environment freshId) k w.host before host ∧
          d.running freshId w c (k + 2) =
            ⟨{ (c.performed freshId w.store).1 with queue := rest, draining := false }, host,
              .panic, []⟩) := by
  have broken (quiet : d.pipeline.Quiet) {before rest : List (Delivery Exchange)}
      {owed : Delivery Exchange} (owes : c.owes freshId w.store = before ++ owed :: rest)
      (verdicts : ∀ earlier ∈ before, ¬ earlier.Mute) (mute : owed.Mute) :
      ∃ k host, Heard (d.environment freshId) k w.host before host ∧
        d.running freshId w c (k + 2) =
          ⟨{ (c.performed freshId w.store).1 with queue := rest, draining := false }, host,
            .panic, []⟩ := by
    have hear : ∀ earlier ∈ before,
        ((d.environment freshId).respond earlier.listener earlier.outcome).Quiet :=
      fun earlier there =>
        have ⟨_, verdict⟩ := Delivery.exists_verdict (verdicts earlier there)
        Exchange.respond_quiet quiet verdict
    obtain ⟨k, host, heard⟩ := exists_heard hear w.host
    exact ⟨k, host, heard, PendingCall.broken_off between owes mute heard⟩
  have start : (Run.start w.store w.host (c.run d.pipeline)).Sound fun _ => True :=
    ⟨PendingCall.run_whole whole own, fun _ there => absurd there List.not_mem_nil,
      fun _ _ => trivial, fun _ _ => trivial, fun _ _ => trivial⟩
  refine ⟨fun r w' completes => ?_, start.panicked_iff whole, fun quiet => ⟨⟨?_, ?_⟩, ?_⟩⟩
  · obtain ⟨outcome, verdict, deeds⟩ := (c.run_completes r).mp completes
    refine ⟨?_, outcome, verdict, c.exchange.said_closing r, deeds⟩
    rintro rfl
    exact c.exchange.verdict_ne_aborted outcome verdict
  · rintro ⟨r, w', completes⟩ owed there mute
    obtain ⟨first, found⟩ : ∃ first, (c.owes freshId w.store).find? (·.Mute) = some first :=
      Option.isSome_iff_exists.mp (List.find?_isSome.mpr ⟨owed, there, decide_eq_true mute⟩)
    obtain ⟨mute, before, rest, owes, verdicts⟩ := List.find?_eq_some_iff_append.mp found
    obtain ⟨k, host, -, ended⟩ := broken quiet owes
      (fun earlier there => by simpa using verdicts earlier there) (of_decide_eq_true mute)
    refine PendingCall.not_panicked_of_completes completes (k + 2) ?_
    rw [running] at ended
    rw [ended]
    rfl
  · exact PendingCall.exists_completes_of_verdicts quiet between own
  · exact fun before owed rest owes verdicts mute => broken quiet owes verdicts mute

/-- A dispatcher that knows a transform which always panics; its pipeline only keeps what it is
sent. -/
def fragile : Dispatcher Recorder :=
  ⟨"CALL", fun _ => none, fun name => if name = "panic" then some fun _ => .panicked else none,
    ⟨fun a => .modify (·.record a), fun e => .modify (·.note e)⟩⟩

/-- Its transforms panic, and its pipeline does not. -/
theorem fragile_quiet : fragile.pipeline.Quiet := ⟨fun _ _ => trivial, fun _ _ => trivial⟩

/-- The world a few steps of a program lead to. -/
def fragileAfter {β : Type} (w : World Recorder Exchange) (p : Program Recorder Exchange β) :
    World Recorder Exchange :=
  let r := Run.steps (fragile.environment fun _ => "") 9 (Run.start w.store w.host p)
  ⟨r.store, r.host⟩

/-- An action that asks for a subscription to a collection, by way of that transform. -/
def watchPanicking : Action :=
  ⟨[("CALL", .object [
      ("query", .object [("collection", .string "users"), ("method", .string "onSnapshot")]),
      ("schema", .object [("name", .string "users"), ("transform", .string "panic")]),
      ("types", .array [.string "WREQ", .string "WOK", .string "WFAIL"])]),
    ("type", .string "WATCH")]⟩

/-- An action that asks for a document to be set in that collection. -/
def save : Action :=
  ⟨[("CALL", .object [
      ("query", .object [("collection", .string "users"),
        ("data", .object [("n", .number (.integer ⟨1, by decide, by decide⟩))]),
        ("doc", .string "a"), ("method", .string "set")]),
      ("types", .array [.string "REQ", .string "OK", .string "FAIL"])]),
    ("type", .string "SAVE")]⟩

/-- The call it leaves pending. -/
def saving : PendingCall :=
  ⟨⟨.ofType "SAVE", ⟨"REQ", "OK", "FAIL"⟩, none, none⟩,
    .document ⟨[.collection "users", .doc "a"]⟩,
    .set [("n", .number (.integer ⟨1, by decide, by decide⟩))] .default⟩

/-- The writer's own exchange has no transform that could panic. -/
theorem saving_sound : saving.exchange.Sound := fun _ => nofun

/-- The collection is watched… -/
def watching : History Recorder :=
  (⟨History.vacant, []⟩ : History Recorder).handled .null true watchPanicking
    (.ok (.subscribed 0))
    (fragileAfter History.vacant (fragile.handle .null true watchPanicking))

/-- …and the document has been asked for. -/
def asking : History Recorder :=
  watching.handled .null true save (.ok (.pending saving))
    (fragileAfter watching.world (fragile.handle .null true save))

/-- No result awaits that call: the subscription has no verdict on what it is sent. -/
theorem concluded_or_broken_off_watching :
    ¬ ∃ r w', Completes (fragile.environment fun _ => "") asking.world
      (saving.run fragile.pipeline) r w' := by
  obtain ⟨-, -, quiet⟩ := concluded_or_broken_off (c := saving) (w := asking.world) fragile
    (fun _ => "") fragile_quiet.whole rfl saving_sound
  rw [(quiet fragile_quiet).1]
  exact fun verdicts => verdicts _ (List.mem_singleton_self _) rfl

/-- Its request has been emitted, its own response needs no transform and the pipeline never panics;
still it is aborted, with its document written and nothing emitted for it. -/
theorem aborted_by_subscription :
    asking.Reachable fragile (fun _ => "") History.vacant ∧ asking.Pending saving ∧
    saving.exchange.Sound ∧ fragile.pipeline.Quiet ∧
    (fragile.running (fun _ => "") asking.world saving 9).ending = .panicked ∧
    (fragile.running (fun _ => "") asking.world saving 9).host.emitted =
      asking.world.host.emitted ∧
    (fragile.running (fun _ => "") asking.world saving 9).store.documents.get? "users/a" =
      some [("n", .number (.integer ⟨1, by decide, by decide⟩))] := by
  have hwatching : watching.Reachable fragile (fun _ => "") History.vacant :=
    .handle .start .null true watchPanicking ⟨9, rfl⟩
  have hasking : asking.Reachable fragile (fun _ => "") History.vacant :=
    .handle hwatching .null true save ⟨9, rfl⟩
  exact ⟨hasking, ⟨_, List.mem_concat_self, rfl⟩, saving_sound, fragile_quiet, rfl, rfl, rfl⟩

end Dispatcher

end DocDispatch
