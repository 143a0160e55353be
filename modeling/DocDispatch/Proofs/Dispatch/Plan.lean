import DocDispatch.Dispatch.Dispatcher

/-!
# Proofs/Dispatch/Plan — what a plan tells about its action

    no marker ─▸ forward
    marker ──▸ descriptor ──▸ predicate, schema ─┬▸ bail out
                                                 └▸ reference ─▸ launch, if it can be run

`plan` decides everything before anything is done, so what is known of the exchange of a call —
where its base, its types and its schema come from — is read off here, once: `planned` lists what a
plan can be, and what is then known of the action.
-/

namespace DocDispatch

namespace Dispatcher

open Json (Value)

variable {σ : Type}

/-- **What a plan can be**, and what it tells about the action. -/
inductive Planned (d : Dispatcher σ) (state : Value) (canRun : Bool) (action : Action) :
    Except CallError Plan → Prop
  | forward (unmarked : action.get? d.marker = none) : Planned d state canRun action (.ok .forward)
  | refused {raw : Value} (marked : action.get? d.marker = some raw) (e : DescriptorError) :
      Planned d state canRun action (.error (.config e))
  | bailOut {raw : Value} (marked : action.get? d.marker = some raw) {descriptor : Descriptor}
      (read : Descriptor.ofJson raw = .ok descriptor) {predicate : Option (Value → Bool)}
      (bailout : d.bailout descriptor.bailout = .ok predicate) (holds : holds predicate state) :
      Planned d state canRun action (.ok .bailOut)
  | noRuntime {raw : Value} (marked : action.get? d.marker = some raw) (idle : canRun = false) :
      Planned d state canRun action (.error .noRuntime)
  | launch {raw : Value} (marked : action.get? d.marker = some raw) {descriptor : Descriptor}
      (read : Descriptor.ofJson raw = .ok descriptor) {schema : Option Schema}
      (resolved : d.schema descriptor.schema = .ok schema) {reference : Reference}
      (compiled : descriptor.query.compile = .ok reference)
      (runs : (d.launch action descriptor schema reference).operation.isSome → canRun = true) :
      Planned d state canRun action (.ok (.launch (d.launch action descriptor schema reference)))

theorem mapError_ok {ε ε' α : Type} (f : ε → ε') (a : α) :
    (Except.ok a).mapError f = .ok a :=
  rfl

/-- How a descriptor is decided on. -/
theorem planCall_cases (d : Dispatcher σ) (state : Value) (action : Action)
    (descriptor : Descriptor) :
    (∃ e, d.planCall state action descriptor = .error e) ∨
    ∃ predicate schema, d.bailout descriptor.bailout = .ok predicate ∧
      d.schema descriptor.schema = .ok schema ∧
      (holds predicate state ∧ d.planCall state action descriptor = .ok .bailOut ∨
        ∃ reference, descriptor.query.compile = .ok reference ∧
          d.planCall state action descriptor =
            .ok (.launch (d.launch action descriptor schema reference))) := by
  unfold planCall
  cases d.bailout descriptor.bailout with
  | error e => exact Or.inl ⟨e, rfl⟩
  | ok predicate =>
    cases d.schema descriptor.schema with
    | error e => exact Or.inl ⟨e, rfl⟩
    | ok schema =>
      by_cases off : holds predicate state
      · refine Or.inr ⟨predicate, schema, rfl, rfl, Or.inl ⟨off, ?_⟩⟩
        simp only [bind, Except.bind, if_pos off]
        rfl
      · cases compiled : descriptor.query.compile with
        | error e =>
          refine Or.inl ⟨.filter e, ?_⟩
          simp only [bind, Except.bind, if_neg off]
          rfl
        | ok reference =>
          refine Or.inr ⟨predicate, schema, rfl, rfl, Or.inr ⟨reference, rfl, ?_⟩⟩
          simp only [bind, Except.bind, if_neg off]
          rfl

/-- **Every plan is one of these.** -/
theorem planned (d : Dispatcher σ) (state : Value) (canRun : Bool) (action : Action) :
    d.Planned state canRun action (d.plan state canRun action) := by
  unfold plan
  cases marker : action.get? d.marker with
  | none => exact .forward marker
  | some raw =>
    simp only [bind, Except.bind]
    cases read : Descriptor.ofJson raw with
    | error e => exact .refused marker _
    | ok descriptor =>
      simp only [mapError_ok]
      rcases d.planCall_cases state action descriptor with ⟨e, decided⟩ |
        ⟨predicate, schema, bailout, resolved, ⟨off, decided⟩ | ⟨reference, compiled, decided⟩⟩
      · rw [decided]
        exact .refused marker e
      · rw [decided]
        exact .bailOut marker read bailout off
      · rw [decided]
        simp only [mapError_ok, runnable]
        by_cases free : canRun = true
        · rw [if_neg (by simp [free])]
          exact .launch marker read resolved compiled fun _ => free
        · have idle : canRun = false := by simpa using free
          by_cases oneShot : (d.launch action descriptor schema reference).operation.isSome
          · rw [if_pos (by simp [idle, oneShot])]
            exact .noRuntime marker idle
          · rw [if_neg (by simp [oneShot])]
            exact .launch marker read resolved compiled fun some => absurd some oneShot

variable {d : Dispatcher σ} {state : Value} {canRun : Bool} {action : Action}

/-- Where one-shot calls can be run, every plan can be carried out. -/
theorem runnable_true (p : Plan) : runnable true p = .ok p := by
  cases p with
  | launch l =>
    rw [runnable, Bool.not_true, Bool.and_false]
    rfl
  | _ => rfl

/-- …and a plan is then what its descriptor is decided to ask for. -/
theorem plan_of_read {raw : Value} (marked : action.get? d.marker = some raw)
    {descriptor : Descriptor} (read : Descriptor.ofJson raw = .ok descriptor) :
    d.plan state true action = (d.planCall state action descriptor).mapError .config := by
  rw [plan, marked]
  simp only [read, mapError_ok, bind, Except.bind]
  cases (d.planCall state action descriptor).mapError CallError.config with
  | error e => rfl
  | ok p => exact runnable_true p

/-- **What is no descriptor is refused with what is wrong with it.** -/
theorem plan_of_unread {raw : Value} (marked : action.get? d.marker = some raw)
    {e : DescriptorError} (broken : Descriptor.ofJson raw = .error e) :
    d.plan state true action = .error (.config e) := by
  rw [plan, marked]
  simp only [broken, bind, Except.bind]
  rfl

/-- **A descriptor whose names are all known and whose predicate does not hold is launched where
one-shot calls can be run.** -/
theorem plan_eq_launch {raw : Value} (marked : action.get? d.marker = some raw)
    {descriptor : Descriptor} (read : Descriptor.ofJson raw = .ok descriptor)
    {predicate : Option (Value → Bool)} (bailout : d.bailout descriptor.bailout = .ok predicate)
    (free : holds predicate state = false) {schema : Option Schema}
    (resolved : d.schema descriptor.schema = .ok schema) {reference : Reference}
    (compiled : descriptor.query.compile = .ok reference) :
    d.plan state true action = .ok (.launch (d.launch action descriptor schema reference)) := by
  have decided : d.planCall state action descriptor =
      .ok (.launch (d.launch action descriptor schema reference)) := by
    rw [planCall, bailout, resolved]
    simp only [bind, Except.bind, free, Bool.false_eq_true, if_false, compiled]
    rfl
  rw [plan_of_read marked read, decided, mapError_ok]

/-- **An action without the marker is forwarded**… -/
theorem plan_of_unmarked (h : action.get? d.marker = none) (state : Value) (canRun : Bool) :
    d.plan state canRun action = .ok .forward := by
  rw [plan, h]

/-- …and no other is. -/
theorem unmarked_of_plan (h : d.plan state canRun action = .ok .forward) :
    action.get? d.marker = none := by
  have planned := d.planned state canRun action
  rw [h] at planned
  cases planned with
  | forward unmarked => exact unmarked

end Dispatcher

end DocDispatch
