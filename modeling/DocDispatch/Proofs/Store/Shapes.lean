import DocDispatch.Proofs.Store.Atomicity
import DocDispatch.Proofs.Store.Chronicle

/-!
# Proofs/Store/Shapes — every answer has the shape of its reference

    document   one snapshot
    query      a list of them

What a reference addresses is decided when it is made, and both ways to an answer go by it: the
reply of an operation (`perform_yields`) and the deliveries of a subscription.  The queue does not
say which subscription a delivery is for; that every notice of a run is of a subscription made
there, addressed to its listener and in the shape of its reference, is
`Recorded.exists_of_mem_queued`.
-/

namespace DocDispatch

open Change (made enrolled)

variable {σ L α : Type}

/-- **The outcomes of a reference**: an error, or one document or a list as it addresses. -/
def Reference.Yields : Reference → Outcome → Prop
  | _, .error _ | .document _, .ok (.one _) | .query _, .ok (.many _) => True
  | _, _ => False

/-- What a reply tells about how its operation ended; that a subscription was made tells nothing. -/
def Call.outcome? : (c : Call L) → c.Reply → Option Outcome
  | get _, outcome | set .., outcome | update .., outcome | add .., outcome => some outcome
  | listen .., .error e => some (.error e)
  | _, _ => none

namespace Store

theorem yields_error (r : Reference) (e : StoreError) : r.Yields (.error e) := by
  cases r <;> trivial

theorem yields_queryOutcome (s : Store L) (q : QueryRef) :
    (Reference.query q).Yields (s.queryOutcome q) := by
  unfold queryOutcome
  cases s.runQuery q <;> trivial

/-! ## Replies -/

/-- An operation that is tried has the outcome of a reference if it has it without a failure. -/
theorem attempt_yields {r : Reference} {s : Store L} (operation : Store L → Store L × Outcome)
    (h : r.Yields (operation s.charged).2) : r.Yields (s.attempt operation).2 := by
  unfold attempt
  cases s.pendingFailure with
  | some e => exact yields_error r e
  | none => exact h

theorem updateDocument_yields (s : Store L) (r : DocumentRef) (data : Fields) :
    (Reference.document r).Yields (s.updateDocument r data).2 := by
  unfold updateDocument
  split <;> trivial

theorem addDocument_yields (freshId : Nat → String) (s : Store L) (q : QueryRef) (data : Fields) :
    (Reference.query q).Yields (s.addDocument freshId q data).2 := by
  unfold addDocument
  split
  · dsimp only
    split <;> trivial
  · trivial

/-- **An operation is answered in the shape of its reference.** -/
theorem perform_yields (freshId : Nat → String) (s : Store L) {c : Call L} {r : Reference}
    (hr : c.reference? = some r) {outcome : Outcome}
    (answered : c.outcome? (s.perform freshId c).reply = some outcome) : r.Yields outcome := by
  cases c with
  | get r' =>
    obtain rfl := Option.some.inj hr
    obtain rfl := Option.some.inj answered
    cases r' with
    | document r => exact attempt_yields (·.getDocument r) trivial
    | query q => exact attempt_yields (·.getQuery q) (yields_queryOutcome _ q)
  | set r' data options =>
    obtain rfl := Option.some.inj hr
    obtain rfl := Option.some.inj answered
    cases r' with
    | document r => exact attempt_yields (·.setDocument r data options) trivial
    | query q => trivial
  | update r' data =>
    obtain rfl := Option.some.inj hr
    obtain rfl := Option.some.inj answered
    cases r' with
    | document r => exact attempt_yields (·.updateDocument r data) (updateDocument_yields _ r data)
    | query q => trivial
  | add r' data =>
    obtain rfl := Option.some.inj hr
    obtain rfl := Option.some.inj answered
    cases r' with
    | document r => trivial
    | query q =>
      exact attempt_yields (addDocument freshId · q data) (addDocument_yields freshId _ q data)
  | listen r' listener =>
    cases reply : (s.perform freshId (.listen r' listener)).reply with
    | ok id =>
      rw [reply] at answered
      cases answered
    | error e =>
      rw [reply] at answered
      obtain rfl := Option.some.inj answered
      exact yields_error r e
  | _ => cases hr

end Store

/-! ## Deliveries -/

/-- **A notice is of a subscription** if it is addressed to its listener and in its shape. -/
structure Notice.Of (n : Notice L) (sub : Subscription Reference L) : Prop where
  id : n.subscription = sub.id
  listener : n.delivery.listener = sub.listener
  outcome : sub.reference.Yields n.delivery.outcome

namespace Effect

theorem exists_of_mem_noticesOf {s : Store L} {path : String} {n : Notice L}
    (mem : n ∈ s.noticesOf path) : ∃ sub ∈ s.subscriptions, n.Of sub := by
  rcases List.mem_append.mp mem with mem | mem
  · obtain ⟨sub, there, rfl⟩ := List.mem_map.mp mem
    have old : sub ∈ s.documentSubs := List.mem_of_mem_filter there
    exact ⟨sub.map .document, List.mem_append_left _ (List.mem_map_of_mem old), rfl, rfl, trivial⟩
  · obtain ⟨sub, there, rfl⟩ := List.mem_map.mp mem
    have old : sub ∈ s.querySubs := List.mem_of_mem_filter there
    exact ⟨sub.map .query, List.mem_append_right _ (List.mem_map_of_mem old), rfl, rfl,
      s.yields_queryOutcome _⟩

/-- What an effect queues is for those who are subscribed, or for the one it subscribes. -/
theorem exists_of_mem_notices {e : Effect L} {s : Store L} {n : Notice L}
    (mem : n ∈ e.notices s) :
    ∃ sub, (sub ∈ s.subscriptions ∨ (e.change? s).bind Change.subscription? = some sub) ∧
      n.Of sub := by
  cases e with
  | nothing => cases mem
  | write path data =>
    obtain ⟨sub, there, of⟩ := exists_of_mem_noticesOf mem
    exact ⟨sub, Or.inl there, of⟩
  | failAll e =>
    rcases List.mem_append.mp mem with mem | mem
    · obtain ⟨sub, there, rfl⟩ := List.mem_map.mp mem
      exact ⟨sub.map .document, Or.inl (List.mem_append_left _ (List.mem_map_of_mem there)), rfl,
        rfl, trivial⟩
    · obtain ⟨sub, there, rfl⟩ := List.mem_map.mp mem
      exact ⟨sub.map .query, Or.inl (List.mem_append_right _ (List.mem_map_of_mem there)), rfl,
        rfl, trivial⟩
  | subscribeDocument r listener =>
    obtain rfl := List.mem_singleton.mp mem
    exact ⟨_, Or.inr rfl, rfl, rfl, trivial⟩
  | subscribeQuery q listener =>
    simp only [notices] at mem
    simp only [change?]
    cases found : s.runQuery q with
    | error e =>
      rw [found] at mem
      cases mem
    | ok docs =>
      rw [found] at mem
      obtain rfl := List.mem_singleton.mp mem
      exact ⟨_, Or.inr rfl, rfl, rfl, trivial⟩
  | unsubscribe id => cases mem

end Effect

/-- **Whoever is subscribed has subscribed by one of the changes.** -/
theorem Store.Follows.subscriptions_subset {s : Store L} {cs : List (Change L)}
    (h : s.Follows cs) : s.subscriptions ⊆ made cs := by
  intro sub mem
  rw [h.subscriptions_eq, Subscription.mem_ranked] at mem
  exact (Change.enrolled_sublist_made cs).subset mem

namespace Audit.Recorded

variable {env : Environment σ L} {a : Audit σ L α} {cs : List (Change L)}

/-- **Every notice of a run is of a subscription that was made in it.** -/
theorem exists_of_mem_queued (h : a.Recorded env cs) :
    ∀ n ∈ a.queued, ∃ sub ∈ made cs, n.Of sub := by
  induction h with
  | start => nofun
  | next _ _ _ ih => exact ih
  | @step α a cs recorded ih =>
    intro n mem
    rw [made, List.filterMap_append]
    rcases List.mem_append.mp mem with mem | mem
    · obtain ⟨sub, there, of⟩ := ih n mem
      exact ⟨sub, List.mem_append_left _ there, of⟩
    · rw [Run.noticed] at mem
      cases calling : a.run.calling? with
      | none =>
        rw [calling] at mem
        cases mem
      | some c =>
        rw [calling] at mem
        obtain ⟨sub, there | new, of⟩ := Effect.exists_of_mem_notices mem
        · exact ⟨sub, List.mem_append_left _ (recorded.follows.subscriptions_subset there), of⟩
        · refine ⟨sub, List.mem_append_right _ ?_, of⟩
          obtain ⟨change, made, subscribed⟩ := Option.bind_eq_some_iff.mp new
          rw [Run.change?, calling, Option.bind_some, made]
          exact List.mem_filterMap.mpr ⟨change, List.mem_singleton_self _, subscribed⟩

/-- **Ids are never given twice, so the notices under an id are of the subscription that got it.**
-/
theorem of_mem_queued (h : a.Recorded env cs) {sub : Subscription Reference L}
    (there : sub ∈ made cs) {n : Notice L} (mem : n ∈ a.queued) (id : n.subscription = sub.id) :
    n.Of sub := by
  obtain ⟨sub', there', of⟩ := h.exists_of_mem_queued n mem
  have same : sub'.id = sub.id := of.id.symm.trans id
  exact List.inj_on_of_nodup_map h.follows.distinct there' there same ▸ of

end Audit.Recorded

end DocDispatch
