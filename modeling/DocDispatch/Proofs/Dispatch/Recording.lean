import Mathlib.Data.List.Defs
import DocDispatch.Dispatch.Recorder
import DocDispatch.Proofs.Dispatch.Soundness

/-!
# Proofs/Dispatch/Recording — what a recorder at the end of the pipeline is left with

A recorder that waits for nothing only takes down what reaches it, so under it every program of a
dispatcher is quiet: an exchange that is told an outcome adds one action, its success or its
failure, and a drain adds one action for each delivery, in order (`exists_heard_recorded`).  The
steps are counted as well, since a session gives a program a bounded number of them.
-/

namespace DocDispatch

/-- An action tells of a delivery: it announces the verdict of the listener on the outcome. -/
def Delivery.ToldBy (d : Delivery Exchange) (a : Action) : Prop :=
  ∃ r, d.listener.verdict d.outcome = some r ∧ a = d.listener.announced r

namespace Recorder

/-- **From one recorder to another some actions have been taken down, and neither waits for any.**
-/
structure Extends (r : Recorder) (actions : List Action) (r' : Recorder) : Prop where
  emitted : r'.emitted = r.emitted ++ actions
  idle : r'.reactions = []

/-- A recorder that waits for nothing extends itself by nothing… -/
theorem Extends.refl {r : Recorder} (h : r.reactions = []) : r.Extends [] r :=
  ⟨(List.append_nil _).symm, h⟩

/-- …and by what is recorded later. -/
theorem Extends.trans {r r' r'' : Recorder} {as as' : List Action} (h : r.Extends as r')
    (h' : r'.Extends as' r'') : r.Extends (as ++ as') r'' :=
  ⟨by rw [h'.emitted, h.emitted, List.append_assoc], h'.idle⟩

/-- …by an action once that has reached it… -/
theorem extends_record {r : Recorder} (h : r.reactions = []) (a : Action) :
    r.Extends [a] (r.record a) :=
  ⟨rfl, h⟩

/-- **A recorder that waits for nothing takes an action in one step**, and asks nothing of the
store… -/
theorem next_quietly {r : Recorder} (h : r.reactions = []) (a : Action) :
    Quietly 1 r (pipeline.next a) () (r.record a) := by
  refine .host ?_
  have idle : (r.record a).reactions = [] := h
  rw [idle]
  exact .done

/-- …an error as well… -/
theorem report_quietly (r : Recorder) (e : CallError) :
    Quietly 1 r (pipeline.report e) () (r.note e) :=
  .host .done

end Recorder

namespace Exchange

variable {r : Recorder}

/-- …and the two that a failure consists of. -/
theorem fail_quietly (h : r.reactions = []) (x : Exchange) (e : CallError) :
    Quietly 2 r (x.fail Recorder.pipeline e) (.error e)
      ((r.note e).record (x.failureAction e)) := by
  have idle : (r.note e).reactions = [] := h
  refine Quietly.bind (m := 1) (n := 1) (Recorder.report_quietly r e) ?_
  exact Quietly.bind (n := 0) (Recorder.next_quietly idle _) .done

/-- **A conclusion is one action more**, the one that announces the verdict. -/
theorem exists_conclude_quietly (h : r.reactions = []) {x : Exchange} {outcome : Outcome}
    {result : Except CallError Action} (verdict : x.verdict outcome = some result) :
    ∃ n r', Quietly n r (x.conclude Recorder.pipeline outcome) result r' ∧ n ≤ 2 ∧
      r.Extends [x.announced result] r' := by
  have failed : ∀ e, result = .error e →
      ∃ n r', Quietly n r (x.fail Recorder.pipeline e) result r' ∧ n ≤ 2 ∧
        r.Extends [x.announced result] r' := by
    rintro e rfl
    exact ⟨2, _, fail_quietly h x e, Nat.le_refl 2, rfl, h⟩
  cases outcome with
  | error e => exact failed _ (Option.some.inj verdict).symm
  | ok response =>
    simp only [Exchange.verdict, conclude, succeed] at verdict ⊢
    cases shaped : x.payload response with
    | ok payload =>
      rw [shaped] at verdict
      cases verdict
      refine ⟨1, r.record (x.successAction payload), ?_, by omega, Recorder.extends_record h _⟩
      exact Quietly.bind (n := 0) (Recorder.next_quietly h _) .done
    | error fault =>
      rw [shaped] at verdict
      cases fault with
      | error e => exact failed _ (Option.some.inj verdict).symm
      | panic => cases verdict

end Exchange

variable {d : Dispatcher Recorder}

/-- **A drain adds one action for each delivery**, in the order of the queue. -/
theorem exists_heard_recorded (freshId : Nat → String) (hP : d.pipeline = Recorder.pipeline) :
    ∀ {ds : List (Delivery Exchange)}, (∀ e ∈ ds, e.listener.Sound) →
      ∀ {r : Recorder}, r.reactions = [] →
      ∃ n told r', Heard (d.environment freshId) n r ds r' ∧ n ≤ 4 * ds.length + 1 ∧
        List.Forall₂ Delivery.ToldBy ds told ∧ r.Extends told r'
  | [], _, r, h => ⟨1, [], r, .nil, Nat.le_refl 1, .nil, .refl h⟩
  | e :: ds, sound, r, h => by
    obtain ⟨result, verdict⟩ := (sound e List.mem_cons_self).exists_verdict e.outcome
    obtain ⟨m, r₁, concluded, hm, extends₁⟩ := Exchange.exists_conclude_quietly h verdict
    obtain ⟨n, told, r', heard, hn, all, extends₂⟩ :=
      exists_heard_recorded freshId hP (fun e' he' => sound e' (List.mem_cons_of_mem _ he'))
        extends₁.idle
    have responded : Quietly (m + 0) r ((d.environment freshId).respond e.listener e.outcome) ()
        r₁ := by
      unfold Dispatcher.environment
      rw [hP]
      exact concluded.bind .done
    refine ⟨m + 0 + 2 + n, _ :: told, r', .cons responded heard, ?_,
      .cons ⟨result, verdict, rfl⟩ all, extends₁.trans extends₂⟩
    rw [List.length_cons]
    omega

end DocDispatch
