import DocDispatch.Proofs.Dispatch.Content

/-!
# Proofs/Dispatch/Marker — whether an action that is sent asks for a store call again

    triggering action ──strip marker──▸ base ─┬▸ request   writes type, payload?, meta?
                                              ├▸ success   writes type, payload, meta?
                                              └▸ failure   writes type, meta

The marker is stripped once, from what all actions of an invocation have in common; then each kind
of action writes properties of its own.  So an action that is sent has a property named by the
marker exactly if the marker names one of those its kind writes (`contains_marker`).  Where it does,
the action is read as a store call when it is dispatched again; under every other marker whatever is
sent is forwarded (`marker_sent`).
-/

namespace DocDispatch

open Json (Value)

variable {σ : Type}

namespace Action

variable (a : Action) (key key' : String)

theorem contains_eq : a.contains key = (a.get? key).isSome := rfl

/-- An action has a property where it is set or was there… -/
theorem contains_insert (v : Value) :
    (a.insert key' v).contains key ↔ key = key' ∨ a.contains key := by
  by_cases same : key = key'
  · simp [contains_eq, same, get?_insert_self]
  · simp [contains_eq, same, get?_insert_of_ne]

/-- …and, set optionally, where it is set to something or elsewhere. -/
theorem contains_setOptional (v : Option Value) :
    (a.setOptional key' v).contains key ↔ key = key' ∧ v.isSome ∨ key ≠ key' ∧ a.contains key := by
  by_cases same : key = key'
  · simp [contains_eq, same, get?_setOptional_self]
  · simp [contains_eq, same, get?_setOptional_of_ne]

/-- Stripping takes the marker off… -/
theorem not_contains_stripped (marker : String) : ¬ (a.stripped marker).contains marker := by
  simp [contains_eq, stripped, get?, erase, Assoc.get?_erase_self]

theorem get?_eq_none : a.get? key = none ↔ ¬ a.contains key := by
  simp [contains_eq]

end Action

namespace Trigger

variable (t : Trigger)

/-- **Whether an action that is sent has a property written into it**, whatever the triggering
action had there.  It goes by what the store has last answered, as the kind of the action does. -/
def Writes (key : String) : Option Outcome → Prop
  | none => key = Action.typeKey ∨ key = Action.payloadKey ∧ t.descriptor.payload.isSome ∨
      key = Action.metaKey ∧ t.descriptor.metadata.isSome
  | some outcome =>
    match t.exchange.verdict outcome with
    | some (.ok _) => key = Action.typeKey ∨ key = Action.payloadKey ∨
        key = Action.metaKey ∧ t.descriptor.metadata.isSome
    | _ => key = Action.typeKey ∨ key = Action.metaKey

/-- Only three properties are ever written. -/
theorem Writes.mem {t : Trigger} {key : String} {last : Option Outcome} (h : t.Writes key last) :
    key ∈ [Action.typeKey, Action.payloadKey, Action.metaKey] := by
  unfold Writes at h
  split at h
  · grind
  · split at h <;> grind

-- What is written first is only there as long as nothing else is written in its place.
/-- Type, payload and metadata stand under three keys. -/
theorem keys_distinct : Action.typeKey ≠ Action.payloadKey ∧ Action.typeKey ≠ Action.metaKey ∧
    Action.payloadKey ≠ Action.metaKey := by
  decide

/-- …so a request carries the marker only where it is written again… -/
theorem contains_requestAction :
    (t.exchange.requestAction t.descriptor.payload).contains t.marker ↔ t.Writes t.marker none := by
  have base := t.action.not_contains_stripped t.marker
  have distinct := keys_distinct
  simp only [Exchange.requestAction, Action.withType, Action.contains_setOptional,
    Action.contains_insert, Writes, exchange]
  grind

/-- …and so does a success, where the marker is its type, its payload or metadata that is there… -/
theorem contains_successAction (payload : Value) :
    (t.exchange.successAction payload).contains t.marker ↔
      t.marker = Action.typeKey ∨ t.marker = Action.payloadKey ∨
        t.marker = Action.metaKey ∧ t.descriptor.metadata.isSome := by
  have base := t.action.not_contains_stripped t.marker
  have distinct := keys_distinct
  simp only [Exchange.successAction, Action.withType, Action.contains_setOptional,
    Action.contains_insert, exchange]
  grind

/-- …and a failure, where it is the type or the metadata, which a failure always has. -/
theorem contains_failureAction (e : CallError) :
    (t.exchange.failureAction e).contains t.marker ↔
      t.marker = Action.typeKey ∨ t.marker = Action.metaKey := by
  have base := t.action.not_contains_stripped t.marker
  simp only [Exchange.failureAction, Action.withType, Action.contains_insert, exchange]
  grind

/-- **An action that is sent has the marker again** exactly if the marker names a property that was
written into it. -/
theorem contains_marker : ∀ {last : Option Outcome} {a : Action}, t.Says last a →
    (a.contains t.marker ↔ t.Writes t.marker last)
  | none, _, rfl => t.contains_requestAction
  | some outcome, _, ⟨_, r, verdict, rfl⟩ => by
      rw [Writes, verdict]
      rcases Exchange.verdict_cases verdict with ⟨payload, rfl⟩ | ⟨e, rfl⟩
      · exact t.contains_successAction payload
      · exact t.contains_failureAction e

end Trigger

namespace Dispatcher

/-- An action is forwarded exactly if it has no property named by the marker. -/
theorem plan_eq_forward (d : Dispatcher σ) (state : Value) (canRun : Bool) (a : Action) :
    d.plan state canRun a = .ok .forward ↔ ¬ a.contains d.marker := by
  rw [← Action.get?_eq_none]
  exact ⟨unmarked_of_plan, fun unmarked => plan_of_unmarked unmarked state canRun⟩

/-- **Whether what is sent has the marker.**  For an action under the marker, either nothing is done
at all, or there is a trigger, and of everything that is sent for it — the request, the action that
concludes its call, what is said for each delivery of its subscription — it is known exactly when
the marker is there again: when it names a property written into such an action.  Just then the
action is not forwarded when it is dispatched again.  A marker that is not one of the three written
properties is never there, and whatever is sent is forwarded. -/
theorem marker_sent (d : Dispatcher σ) (state : Value) (canRun : Bool) {action : Action}
    {raw : Value} (marked : action.get? d.marker = some raw) :
    (∃ r, ∀ P : Pipeline σ, ({ d with pipeline := P }).handle state canRun action = .done r) ∨
    ∃ t : Trigger, t.marker = d.marker ∧ t.action = action ∧
      Descriptor.ofJson raw = .ok t.descriptor ∧
      d.plan state canRun action = .ok (.launch t.launch) ∧
      t.Sends d state canRun (fun last a =>
        (a.contains d.marker ↔ t.Writes d.marker last) ∧
        ∀ state canRun, d.plan state canRun a = .ok .forward ↔ ¬ t.Writes d.marker last) ∧
      (d.marker ∉ [Action.typeKey, Action.payloadKey, Action.metaKey] →
        t.Sends d state canRun fun _ a =>
          a.get? d.marker = none ∧ ∀ state canRun, d.plan state canRun a = .ok .forward) := by
  obtain done | ⟨t, marker, rfl, read, -, -, plan⟩ := d.exists_trigger state canRun marked
  · exact Or.inl done
  · have sent := d.sends t plan
    have contains {last : Option Outcome} {a : Action} (said : t.Says last a) :
        a.contains d.marker ↔ t.Writes d.marker last :=
      marker ▸ t.contains_marker said
    refine Or.inr ⟨t, marker, rfl, read, plan, sent.mono fun last a said => ?_, fun other =>
      sent.mono fun last a said => ?_⟩
    · exact ⟨contains said, fun state canRun =>
        (d.plan_eq_forward state canRun a).trans (not_congr (contains said))⟩
    · have unmarked : ¬ a.contains d.marker := fun there => other ((contains said).mp there).mem
      exact ⟨(a.get?_eq_none _).mpr unmarked, fun state canRun =>
        (d.plan_eq_forward state canRun a).mpr unmarked⟩

/-- Nothing that is sent for a watched collection asks for a store call. -/
theorem marker_sent_watch :
    Emits (fun _ a => a.get? "CALL" = none ∧
        ∀ state canRun, History.keeping.plan state canRun a = .ok .forward) none
      fun P : Pipeline Recorder =>
        ({ History.keeping with pipeline := P }).handle .null true watch := by
  have marked : watch.get? History.keeping.marker = some _ := rfl
  obtain ⟨r, still⟩ | ⟨t, -, action, -, -, -, unmarked⟩ :=
    marker_sent History.keeping .null true marked
  · exact absurd (still Recorder.pipeline) nofun
  · exact action ▸ (unmarked (by decide)).handle

/-- A dispatcher that looks for descriptors where actions have their metadata. -/
def metaKeeping : Dispatcher Recorder := { History.keeping with marker := Action.metaKey }

/-- An action that asks for the documents of a collection, by a descriptor with metadata. -/
def listed : Action :=
  ⟨[("meta", .object [("meta", .object [("source", .string "list")]),
      ("query", .object [("collection", .string "users"), ("method", .string "get")]),
      ("types", .array [.string "REQ", .string "OK", .string "FAIL"])]),
    ("type", .string "GO")]⟩

/-- Its request has that metadata under the marker, and is taken for a store call in turn. -/
theorem request_marked_again :
    let start := Run.start (.ofDocuments .empty) .empty (metaKeeping.handle .null true listed)
    ∃ a ∈ (Run.steps (metaKeeping.environment fun _ => "") 3 start).host.emitted,
      a.get? metaKeeping.marker = some (.object [("source", .string "list")]) ∧
      metaKeeping.plan .null true a ≠ .ok .forward := by
  refine ⟨_, List.mem_singleton_self _, rfl, fun forward => ?_⟩
  have unmarked := unmarked_of_plan forward
  cases unmarked

end Dispatcher

end DocDispatch
