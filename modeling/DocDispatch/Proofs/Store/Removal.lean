import DocDispatch.Proofs.Store.Convergence

/-!
# Proofs/Store/Removal — what a removed subscription may still hear

    queue   d₁ d₂ d₃ d₄         removing 7 leaves the queue as it is:
            –  7  –  7          d₂ and d₄ are still sent, in this order, and nothing after them

Removing a subscription takes it off the lists, so no later change owes it anything; the deliveries
it is owed already stay in the queue.  From then on what it has been sent and what it is still owed
make up, together, what it had been sent and was owed when it was removed (`calls_after_removal`).
Only where that was nothing has its listener been called for the last time.
-/

namespace DocDispatch

variable {σ L α β : Type}

/-! ## Gone for good -/

/-- An id that was given out and is no subscription's any more. -/
structure Store.Gone (s : Store L) (id : Nat) : Prop where
  given : id < s.nextId
  absent : id ∉ s.ids

namespace Effect

variable {s : Store L} {id : Nat}

/-- The only id that comes up is the next one. -/
theorem mem_ids_of_mem_apply (e : Effect L) (h : id ∈ (e.apply s).ids) :
    id ∈ s.ids ∨ id = s.nextId := by
  cases e with
  | subscribeDocument r listener =>
    rw [apply, Store.ids_listenDocument, List.mem_append, List.mem_cons] at h
    rw [Store.ids, List.mem_append]
    tauto
  | subscribeQuery q listener =>
    cases found : s.runQuery q with
    | error e =>
      rw [apply, Store.listenQuery, found] at h
      exact Or.inl h
    | ok docs =>
      rw [apply, Store.ids_listenQuery found, List.mem_append, List.mem_singleton] at h
      exact h
  | unsubscribe id' => exact Or.inl ((s.ids_unsubscribe_sublist id').subset h)
  | _ => exact Or.inl h

theorem gone_apply (e : Effect L) (h : s.Gone id) : (e.apply s).Gone id := by
  refine ⟨Nat.lt_of_lt_of_le h.given (e.nextId_le_apply s), fun mem => ?_⟩
  rcases e.mem_ids_of_mem_apply mem with mem | same
  · exact h.absent mem
  · exact Nat.ne_of_lt h.given same

/-- No effect tells an id that is gone anything. -/
theorem filter_notices_of_gone (e : Effect L) (h : s.Gone id) :
    (e.notices s).filter (·.subscription = id) = [] := by
  refine List.filter_eq_nil_iff.mpr fun n mem => ?_
  rw [decide_eq_true_iff]
  rintro rfl
  rcases subscription_of_mem_notices mem with there | ⟨same, -⟩
  · exact h.absent there
  · exact Nat.ne_of_lt h.given same

end Effect

theorem Store.gone_unsubscribe {s : Store L} {id : Nat} (given : id < s.nextId) :
    (s.unsubscribe id).Gone id := by
  refine ⟨given, fun mem => ?_⟩
  simp only [ids, unsubscribe, List.mem_append, List.mem_map, List.mem_filter] at mem
  rcases mem with ⟨sub, ⟨-, kept⟩, same⟩ | ⟨sub, ⟨-, kept⟩, same⟩
  · exact of_decide_eq_true kept same
  · exact of_decide_eq_true kept same

namespace Run

variable {env : Environment σ L} {r : Run σ L α} {id : Nat}

/-- Whether an id is gone is a matter of the call a step makes. -/
theorem gone_step (h : (r.called env).Gone id) : (r.step env).store.Gone id := by
  obtain ⟨queue, draining, store⟩ := r.step_store env
  rw [store]
  exact ⟨h.given, h.absent⟩

theorem gone_called (env : Environment σ L) (h : r.store.Gone id) :
    (r.called env).Gone id ∧ (r.noticed env).filter (·.subscription = id) = [] := by
  unfold called noticed
  cases r.calling? with
  | none => exact ⟨h, rfl⟩
  | some c =>
    obtain ⟨pendingFailure, operations, generated, store⟩ := r.store.perform_store env.freshId c
    have after := (r.store.effect env.freshId c).gone_apply h
    refine ⟨?_, (r.store.effect env.freshId c).filter_notices_of_gone h⟩
    simp only [store]
    exact ⟨after.given, after.absent⟩

/-- A step that makes a call calls no listener. -/
theorem handed_of_calling {c : Call L} (h : r.calling? = some c) : r.handed = [] := by
  unfold calling? at h
  unfold handed
  split
  · rename_i below d queue stack _
    rw [stack] at h
    cases h
  · rfl

end Run

namespace Audit

/-- **What becomes of an audit**: more steps, and more programs after the one at work. -/
inductive Later (env : Environment σ L) {α : Type} (a : Audit σ L α) :
    ∀ {β : Type}, Audit σ L β → Prop
  | refl : Later env a a
  | step {β : Type} {b : Audit σ L β} (h : Later env a b) : Later env a (b.step env)
  | next {β γ : Type} {b : Audit σ L β} (h : Later env a b) (ended : b.run.isOver)
      (p : Program σ L γ) : Later env a (b.next p)

/-- The notices under an id whose deliveries are still in the queue. -/
def owing (a : Audit σ L α) (id : Nat) : List (Notice L) :=
  (a.queued.drop a.sent.length).filter (·.subscription = id)

namespace Later

variable {env : Environment σ L} {a : Audit σ L α} {b : Audit σ L β} {id : Nat}

theorem reachable (h : a.Later env b) (ha : a.Reachable env) : b.Reachable env := by
  induction h with
  | refl => exact ha
  | step _ ih => exact ih.step
  | next _ ended p ih => exact ih.next ended p

theorem after (n : Nat) (h : a.Later env b) : a.Later env (b.after env n) := by
  induction n generalizing b with
  | zero => exact h
  | succ n ih => exact ih h.step

/-- The books only grow, and by nothing for an id that is gone. -/
theorem books (h : a.Later env b) (gone : a.run.store.Gone id) :
    b.run.store.Gone id ∧
      (∃ newer, b.queued = a.queued ++ newer ∧ newer.filter (·.subscription = id) = []) ∧
      ∃ more, b.sent = a.sent ++ more := by
  induction h with
  | refl => exact ⟨gone, ⟨[], by simp⟩, [], by simp⟩
  | step _ ih =>
    obtain ⟨gone, ⟨newer, queued, silent⟩, more, sent⟩ := ih
    obtain ⟨called, noticed⟩ := Run.gone_called env gone
    refine ⟨Run.gone_step called, ⟨_, (congrArg (· ++ _) queued).trans (List.append_assoc ..), ?_⟩,
      _, (congrArg (· ++ _) sent).trans (List.append_assoc ..)⟩
    rw [List.filter_append, silent, noticed, List.append_nil]
  | next _ _ _ ih => exact ih

end Later

/-- What was owed to an id that nothing is queued for any more is partly sent, and owed still. -/
theorem Balanced.owing_eq {a : Audit σ L α} (h : a.Balanced) {b : Audit σ L β} {id : Nat}
    {newer : List (Notice L)} {more : List (Delivery L)} (queued : b.queued = a.queued ++ newer)
    (silent : newer.filter (·.subscription = id) = []) (sent : b.sent = a.sent ++ more) :
    ∃ called, b.delivered.filter (·.subscription = id) =
        a.delivered.filter (·.subscription = id) ++ called ∧
      a.owing id = called ++ b.owing id := by
  have enough : a.sent.length ≤ a.queued.length := by
    rw [← List.length_map Notice.delivery, ← h.balance, List.length_append]
    exact Nat.le_add_right _ _
  refine ⟨((b.queued.drop a.sent.length).take more.length).filter (·.subscription = id), ?_, ?_⟩
  · rw [delivered, sent, List.length_append, List.take_add, List.filter_append, queued,
      List.take_append_of_le_length enough, delivered]
  · calc a.owing id
        = (b.queued.drop a.sent.length).filter (·.subscription = id) := by
          rw [queued, List.drop_append_of_le_length enough, List.filter_append, silent,
            List.append_nil, owing]
      _ = _ := by
          rw [owing, sent, List.length_append, ← List.drop_drop, ← List.filter_append,
            List.take_append_drop]

/-- **What a removed subscription may still hear.**  From the moment at which someone removes it,
whether from outside or from a listener while the queue is being sent, nothing more is queued for
it: the calls its listener gets from then on are those it was owed already, in their order, as far
as they have been sent.  If it was owed none, its listener is never called again. -/
theorem Reachable.calls_after_removal {env : Environment σ L} {a : Audit σ L α}
    (h : a.Reachable env) {id : Nat} (given : id < a.run.store.nextId)
    (removing : a.run.calling? = some (.remove id)) {b : Audit σ L β}
    (later : (a.step env).Later env b) :
    a.delivered.map Notice.delivery = a.sent ∧ b.delivered.map Notice.delivery = b.sent ∧
    (∃ called, b.delivered.filter (·.subscription = id) =
        a.delivered.filter (·.subscription = id) ++ called ∧
      a.owing id = called ++ b.owing id) ∧
    (a.owing id = [] → b.delivered.filter (·.subscription = id) =
      a.delivered.filter (·.subscription = id)) := by
  have gone : (a.step env).run.store.Gone id := by
    refine Run.gone_step ?_
    rw [Run.called, removing]
    exact Store.gone_unsubscribe given
  obtain ⟨-, ⟨newer, queued, silent⟩, more, sent⟩ := later.books gone
  have quiet : (a.step env).queued = a.queued := by
    rw [Audit.step, Run.noticed, removing]
    exact List.append_nil _
  have waits : (a.step env).sent = a.sent := by
    rw [Audit.step, Run.handed_of_calling removing, List.append_nil]
  rw [quiet] at queued
  rw [waits] at sent
  obtain ⟨called, delivered, owed⟩ := h.balanced.owing_eq queued silent sent
  refine ⟨h.balanced.map_delivered, (later.reachable h.step).balanced.map_delivered,
    ⟨called, delivered, owed⟩, fun none => ?_⟩
  rw [none, List.nil_eq, List.append_eq_nil_iff] at owed
  rw [delivered, owed.1, List.append_nil]

/-- Listeners that remove the second subscription when they hear of a document that is there, or
only listen. -/
def evicting : Environment Unit Bool where
  respond
    | true, .ok (.one ⟨_, _, some _⟩) => .call (.remove 1) fun _ => .done ()
    | _, _ => .done ()
  freshId _ := ""

/-- Two subscriptions to a document, after a write of it: the first one is hearing of it, and about
to remove the second. -/
def atRemoval : Audit Unit Bool Unit :=
  let user : Reference := .document ⟨[.collection "users", .doc "a"]⟩
  let listen (removes : Bool) : Program Unit Bool (Except StoreError Nat) :=
    .perform (.listen user removes)
  let first := (start .empty () (listen true)).after evicting 4
  let second := (first.next (listen false)).after evicting 4
  (second.next (.perform (.put "users/a" []))).after evicting 2

/-- …and when it has done so and returned, the second one is called. -/
def pastRemoval : Audit Unit Bool Unit := (atRemoval.step evicting).after evicting 2

/-- The second one is owed one delivery when it is removed, and gets it. -/
theorem calls_after_removal_pending :
    atRemoval.Reachable evicting ∧ 1 < atRemoval.run.store.nextId ∧
    atRemoval.run.calling? = some (.remove 1) ∧
    (atRemoval.step evicting).Later evicting pastRemoval ∧
    pastRemoval.delivered.filter (·.subscription = 1) =
      atRemoval.delivered.filter (·.subscription = 1) ++
        [⟨1, .written "users/a", false, .ok (.one (.of "users/a" []))⟩] := by
  have reached : atRemoval.Reachable evicting :=
    .after 2 (.next (.after 4 (.next (.after 4 (.start _ _ _)) rfl _)) rfl _)
  have later : (atRemoval.step evicting).Later evicting pastRemoval := .after 2 .refl
  obtain ⟨-, -, ⟨called, delivered, owed⟩, -⟩ :=
    reached.calls_after_removal (by decide) rfl later
  have settled : pastRemoval.owing 1 = [] := rfl
  rw [settled, List.append_nil] at owed
  rw [← owed] at delivered
  exact ⟨reached, by decide, rfl, later, delivered⟩

/-- **Removing a subscription does not stop its deliveries.**  After the call that removes it has
returned, no subscription is left under the id, and yet its listener is called. -/
theorem called_after_removal :
    atRemoval.Reachable evicting ∧ atRemoval.run.calling? = some (.remove 1) ∧
    (atRemoval.step evicting).Later evicting pastRemoval ∧
    (atRemoval.step evicting).run.store.ids = [0] ∧
    pastRemoval.sent = (atRemoval.step evicting).sent ++ [⟨false, .ok (.one (.of "users/a" []))⟩] ∧
    pastRemoval.delivered.filter (·.subscription = 1) ≠
      (atRemoval.step evicting).delivered.filter (·.subscription = 1) := by
  refine ⟨.after 2 (.next (.after 4 (.next (.after 4 (.start _ _ _)) rfl _)) rfl _), rfl,
    .after 2 .refl, rfl, rfl, fun same => ?_⟩
  cases congrArg List.length same

end Audit

end DocDispatch
