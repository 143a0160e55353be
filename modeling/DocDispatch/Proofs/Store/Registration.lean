import DocDispatch.Proofs.Store.Removal
import DocDispatch.Proofs.Store.Shapes

/-!
# Proofs/Store/Registration — a registration is of one listener

    made      s₀  s₁  s₂  s₃  s₄          every subscription of the run, under its own id
    there     s₀      s₂      s₄          …is there still
    departed      s₁      s₃              …or was taken off by a removal, which took off just it

One counter numbers the subscriptions of both kinds, and it is never set back: not by a removal, and
not by a panic that breaks off the call which made the subscription.  So an id answers for one
subscription for good.  Removing by it takes that subscription out of the lists and moves nothing
else, and those that are there are those that were made without those that departed
(`Follows.perm_made`), which is what the count of listeners says.
-/

namespace DocDispatch

open Change (made enrolled)
open Subscription (ranked)

variable {σ L α β : Type}

namespace Change

/-! ## Who is there and who has departed -/

/-- Whom a change takes off. -/
def withdrawn (subs : List (Subscription Reference L)) :
    Change L → List (Subscription Reference L)
  | .removed id => subs.filter (·.id = id)
  | .written .. | .failed _ | .subscribed .. => []

/-- **Whom some changes take off**, in the order of their removals. -/
def departed (subs : List (Subscription Reference L)) :
    List (Change L) → List (Subscription Reference L)
  | [] => []
  | c :: cs => c.withdrawn subs ++ departed (enroll subs c) cs

/-- A change adds whoever subscribes by it, and of those there were it keeps all but whom it takes
off. -/
theorem perm_enroll (subs : List (Subscription Reference L)) (c : Change L) :
    (c.withdrawn subs ++ enroll subs c).Perm (subs ++ c.subscription?.toList) := by
  cases c with
  | removed id =>
    have split := List.filter_append_perm (fun sub => decide (sub.id = id)) subs
    simpa [enroll, withdrawn, subscription?] using split
  | _ => simp [enroll, withdrawn, subscription?]

theorem perm_foldl_enroll (subs : List (Subscription Reference L)) (cs : List (Change L)) :
    (departed subs cs ++ cs.foldl enroll subs).Perm (subs ++ made cs) := by
  induction cs generalizing subs with
  | nil => exact List.perm_append_comm
  | cons c cs ih =>
    have rest := (ih (enroll subs c)).append_left (c.withdrawn subs)
    have first := (perm_enroll subs c).append_right (made cs)
    rw [departed, made_cons, List.foldl_cons, List.append_assoc, ← List.append_assoc subs]
    rw [List.append_assoc] at first
    exact rest.trans first

end Change

open Change (departed)

namespace Subscription

/-- The two kinds together are all. -/
theorem perm_ranked (subs : List (Subscription Reference L)) : (ranked subs).Perm subs := by
  have other : (fun sub : Subscription Reference L => decide (sub.reference.target = .collection)) =
      fun sub => !decide (sub.reference.target = .document) := by
    funext sub
    cases sub.reference <;> rfl
  rw [ranked, other]
  exact List.filter_append_perm _ _

end Subscription

namespace Store

theorem length_subscriptions (s : Store L) : s.subscriptions.length = s.listenerCount := by
  simp [subscriptions, listenerCount]

theorem ids_eq (s : Store L) : s.ids = s.subscriptions.map (·.id) := by
  rw [ids, subscriptions, List.map_append, List.map_map, List.map_map]
  rfl

/-- Removing takes out whatever stands under the id. -/
theorem subscriptions_unsubscribe (s : Store L) (id : Nat) :
    (s.unsubscribe id).subscriptions = s.subscriptions.filter (·.id ≠ id) := by
  simp only [subscriptions, unsubscribe, List.filter_append, List.filter_map]
  rfl

/-- **Whoever has subscribed is there, or has departed.** -/
theorem Follows.perm_made {s : Store L} {cs : List (Change L)} (h : s.Follows cs) :
    (departed [] cs ++ s.subscriptions).Perm (made cs) := by
  rw [h.subscriptions_eq]
  exact ((Subscription.perm_ranked _).append_left _).trans (Change.perm_foldl_enroll [] cs)

/-! ## Registering and removing -/

/-- **A call to listen that is answered with an id** has subscribed its listener under it. -/
theorem change?_of_registered {freshId : Nat → String} {s : Store L} {r : Reference} {listener : L}
    {id : Nat} (registered : (s.perform freshId (.listen r listener)).reply = .ok id) :
    id = s.nextId ∧ (s.effect freshId (.listen r listener)).change? s =
      some (.subscribed ⟨id, r, listener⟩ s.documents) := by
  cases pending : s.pendingFailure with
  | some e =>
    cases r <;> simp only [perform, attempt_of_some pending] at registered <;> cases registered
  | none =>
    cases r with
    | document r =>
      simp only [perform, attempt_of_none pending] at registered
      obtain rfl : s.nextId = id := Except.ok.inj registered
      simp [effect, operationEffect, pending, Effect.change?]
    | query q =>
      have same : s.charged.runQuery q = s.runQuery q := rfl
      cases found : s.runQuery q with
      | error e =>
        simp only [perform, attempt_of_none pending, listenQuery, same, found] at registered
        cases registered
      | ok docs =>
        simp only [perform, attempt_of_none pending, listenQuery, same, found] at registered
        obtain rfl : s.nextId = id := Except.ok.inj registered
        simp [effect, operationEffect, pending, Effect.change?, found]

/-- **One listener has been removed from a store**, if it was there, and nothing else has happened:
those in front of it and those behind it stay as they stood. -/
structure RemovedFrom (sub : Subscription Reference L) (s s' : Store L) : Prop where
  rest : ∃ documentSubs querySubs, s' = { s with documentSubs, querySubs }
  taken : sub ∈ s.subscriptions → ∃ front back,
    s.subscriptions = front ++ sub :: back ∧ s'.subscriptions = front ++ back
  absent : sub ∉ s.subscriptions → s' = s

theorem filter_id_ne {R : Type} {subs : List (Subscription R L)} {id : Nat}
    (none : id ∉ subs.map (·.id)) : subs.filter (·.id ≠ id) = subs :=
  List.filter_eq_self.mpr fun _ mem =>
    decide_eq_true fun same => none (same ▸ List.mem_map_of_mem mem)

theorem removedFrom_unsubscribe {s : Store L} (numbered : s.Numbered)
    {sub : Subscription Reference L}
    (own : ∀ other ∈ s.subscriptions, other.id = sub.id → other = sub) :
    RemovedFrom sub s (s.unsubscribe sub.id) where
  rest := ⟨_, _, rfl⟩
  taken there := by
    obtain ⟨front, back, split⟩ := List.append_of_mem there
    have nodup := numbered.nodup
    rw [ids_eq, split, List.map_append, List.map_cons, List.nodup_middle, ← List.map_append]
      at nodup
    have none := (List.nodup_cons.mp nodup).1
    rw [List.map_append, List.mem_append, not_or] at none
    refine ⟨front, back, split, ?_⟩
    rw [subscriptions_unsubscribe, split, List.filter_append, List.filter_cons_of_neg (by simp),
      filter_id_ne none.1, filter_id_ne none.2]
  absent gone := by
    have none : sub.id ∉ s.ids := by
      rw [ids_eq]
      intro mem
      obtain ⟨other, there, same⟩ := List.mem_map.mp mem
      exact gone (own other there same ▸ there)
    rw [ids, List.mem_append, not_or] at none
    rw [unsubscribe, filter_id_ne none.1, filter_id_ne none.2]

end Store

namespace Audit

variable {env : Environment σ L}

/-- What becomes of an audit goes on from its changes. -/
theorem Later.exists_recorded {a : Audit σ L α} {b : Audit σ L β} (h : a.Later env b)
    {cs : List (Change L)} (recorded : a.Recorded env cs) :
    ∃ more, b.Recorded env (cs ++ more) := by
  induction h with
  | refl => exact ⟨[], by rwa [List.append_nil]⟩
  | step _ ih =>
    obtain ⟨more, recorded⟩ := ih
    exact ⟨_, List.append_assoc .. ▸ recorded.step⟩
  | next _ ended p ih =>
    obtain ⟨more, recorded⟩ := ih
    exact ⟨more, recorded.next ended p⟩

/-- **The change of a step that registers a listener.** -/
theorem change?_of_registered {a : Audit σ L α} {r : Reference} {listener : L} {id : Nat}
    (calling : a.run.calling? = some (.listen r listener))
    (registered : (a.run.store.perform env.freshId (.listen r listener)).reply = .ok id) :
    a.run.change? env = some (.subscribed ⟨id, r, listener⟩ a.run.store.documents) := by
  rw [Run.change?, calling]
  exact (Store.change?_of_registered registered).2

/-- **Whoever has been entered is among those made, at any later time.** -/
theorem Recorded.exists_later {a : Audit σ L α} {cs : List (Change L)} (h : a.Recorded env cs)
    {sub : Subscription Reference L} {documents : OrderedMap Fields}
    (entered : a.run.change? env = some (.subscribed sub documents)) {b : Audit σ L β}
    (later : (a.step env).Later env b) : ∃ cs, b.Recorded env cs ∧ sub ∈ made cs := by
  obtain ⟨more, recorded⟩ := later.exists_recorded h.step
  rw [entered, Option.toList_some] at recorded
  exact ⟨_, recorded, by simp [made, Change.subscription?]⟩

/-- **An id answers for one subscription for good.** -/
theorem Recorded.eq_of_id {a : Audit σ L α} {cs : List (Change L)} (h : a.Recorded env cs)
    {sub : Subscription Reference L} (there : sub ∈ made cs) {other : Subscription Reference L}
    (mem : other ∈ a.run.store.subscriptions) (same : other.id = sub.id) : other = sub :=
  List.inj_on_of_nodup_map h.follows.distinct (h.follows.subscriptions_subset mem) there same

/-- **Registrations identify listeners.**  However a run got where it is, with registrations and
removals inside deliveries and calls broken off by panics: all subscriptions, those to documents and
those to queries together, have different ids, which have been given out; and there are as many as
were made, less those that removals took off.  A call that is answered with an id has entered its
listener under it, and at any later time no other stands there; whoever then removes by this id
takes that listener off, if it is there still, and does nothing else. -/
theorem Reachable.registrations_distinct {a : Audit σ L α} (h : a.Reachable env) :
    a.run.store.ids.Nodup ∧ (∀ id ∈ a.run.store.ids, id < a.run.store.nextId) ∧
    (∃ cs, a.Recorded env cs) ∧
    (∀ cs, a.Recorded env cs →
      (departed [] cs ++ a.run.store.subscriptions).Perm (made cs) ∧
      a.run.store.listenerCount + (departed [] cs).length = (made cs).length) ∧
    ∀ r listener id, a.run.calling? = some (.listen r listener) →
      (a.run.store.perform env.freshId (.listen r listener)).reply = .ok id →
      a.run.change? env = some (.subscribed ⟨id, r, listener⟩ a.run.store.documents) ∧
      ⟨id, r, listener⟩ ∈ (a.step env).run.store.subscriptions ∧
      ∀ {β : Type} (b : Audit σ L β), (a.step env).Later env b →
        (∀ sub ∈ b.run.store.subscriptions, sub.id = id → sub = ⟨id, r, listener⟩) ∧
        (b.run.calling? = some (.remove id) →
          Store.RemovedFrom ⟨id, r, listener⟩ b.run.store (b.step env).run.store) := by
  have numbered := (h.kept Current.kept).numbered
  refine ⟨numbered.nodup, numbered.below, h.exists_recorded, fun cs recorded => ?_,
    fun r listener id calling registered => ?_⟩
  · have perm := recorded.follows.perm_made
    have length := perm.length_eq
    rw [List.length_append, Store.length_subscriptions] at length
    exact ⟨perm, by omega⟩
  obtain ⟨cs, recorded⟩ := h.exists_recorded
  have change := change?_of_registered calling registered
  refine ⟨change, ?_, fun b later => ?_⟩
  · have entered := recorded.step
    rw [change] at entered
    rw [entered.follows.subscriptions_eq, Subscription.mem_ranked, Option.toList_some,
      Change.enrolled_concat]
    exact List.mem_append_right _ List.mem_cons_self
  obtain ⟨cs', recorded', there⟩ := recorded.exists_later change later
  have own : ∀ sub ∈ b.run.store.subscriptions, sub.id = id → sub = ⟨id, r, listener⟩ :=
    fun sub mem same => recorded'.eq_of_id there mem same
  refine ⟨own, fun removing => ?_⟩
  obtain ⟨step, store, -⟩ := Run.step_of_calling env removing
  have numbered' := (recorded'.reachable.kept Current.kept).numbered
  have removed : (b.step env).run.store = b.run.store.unsubscribe id := by
    rw [Audit.step, step]
    exact store
  rw [removed]
  exact Store.removedFrom_unsubscribe numbered' own

/-- Listeners that are silent, that have another one subscribe to a collection when they hear
anything, or that panic. -/
def recruiting : Environment Unit Nat where
  respond
    | 1, _ => .call (.listen (.query ⟨[.collection "users"], []⟩) 2) fun _ => .done ()
    | 2, _ => .panic
    | _, _ => .done ()
  freshId _ := ""

/-- A recruiting listener hears of its document, and is about to make its call… -/
def recruited : Audit Unit Nat (Except StoreError Nat) :=
  (start .empty () (.perform (.listen (.document ⟨[.collection "users", .doc "a"]⟩) 1))).after
    recruiting 2

/-- …the recruit panics when it is called, which breaks off the first call to listen; and someone
is about to remove it. -/
def dismissed : Audit Unit Nat Unit :=
  ((recruited.step recruiting).after recruiting 3).next (.perform (.remove 1))

/-- …and what has happened when that is done. -/
def dismissedChanges : List (Change Nat) :=
  [.subscribed ⟨0, .document ⟨[.collection "users", .doc "a"]⟩, 1⟩ .empty,
    .subscribed ⟨1, .query ⟨[.collection "users"], []⟩, 2⟩ .empty, .removed 1]

/-- There the recruit is taken off and the recruiter, whose call was broken off, is left: of two
that were made one has departed. -/
theorem registrations_distinct_dismissed :
    recruited.Reachable recruiting ∧ (recruited.step recruiting).Later recruiting dismissed ∧
    dismissed.run.calling? = some (.remove 1) ∧ dismissed.run.store.ids = [0, 1] ∧
    Store.RemovedFrom ⟨1, .query ⟨[.collection "users"], []⟩, 2⟩ dismissed.run.store
      (dismissed.step recruiting).run.store ∧
    (dismissed.step recruiting).Recorded recruiting dismissedChanges ∧
    (dismissed.step recruiting).run.store.listenerCount + 1 = 2 := by
  have reached : recruited.Reachable recruiting := .after 2 (.start _ _ _)
  have later : (recruited.step recruiting).Later recruiting dismissed :=
    .next (.after 3 .refl) rfl _
  have law := reached.registrations_distinct.2.2.2.2 (.query ⟨[.collection "users"], []⟩) 2 1 rfl
    rfl
  have recorded : (dismissed.step recruiting).Recorded recruiting dismissedChanges :=
    .step (.next (.after 3 (.step (.after 2 (.start _ _ _)))) rfl _)
  have count := recorded.reachable.registrations_distinct.2.2.2.1 dismissedChanges recorded
  exact ⟨reached, later, rfl, rfl, (law.2.2 dismissed later).2 rfl, recorded, count.2⟩

end Audit

end DocDispatch
