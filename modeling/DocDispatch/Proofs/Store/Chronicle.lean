import DocDispatch.Proofs.Store.Changes
import DocDispatch.Proofs.Store.Convergence
import DocDispatch.Proofs.Store.Order

/-!
# Proofs/Store/Chronicle — the changes of a run tell all it ever queued

    run      ─step─▸ ─step─▸ ─step─▸ …
    changes   c₁       –       c₂          read off the calls
    queued    told c₁  –       told c₂     nothing else is ever queued

Beside an audit, `Recorded` keeps the changes its calls make.  A store *follows* some changes if its
subscriptions are those the changes leave enrolled; every effect queues what its change tells them,
and the store follows on.  So the whole book of a run is the book of its changes, and what a single
subscription hears, `Change.filter_book`, has nothing to do with the order in which listeners are
called, with what they do then, or with who sends the queue.
-/

namespace DocDispatch

open Change (book enrolled made told)
open Subscription (ranked)

variable {σ L α β : Type}

/-- **A subscription to one kind of reference, as one to a reference.** -/
def Subscription.map {R R' : Type} (f : R → R') (sub : Subscription R L) : Subscription R' L :=
  ⟨sub.id, f sub.reference, sub.listener⟩

/-! ## Effects and their changes -/

/-- **What has happened when an effect is there**, if anything has. -/
def Effect.change? : Effect L → Store L → Option (Change L)
  | nothing, _ => none
  | write path data, s => some (.written path (s.write path data).documents)
  | failAll e, _ => some (.failed e)
  | subscribeDocument r listener, s =>
    some (.subscribed ⟨s.nextId, .document r, listener⟩ s.documents)
  | subscribeQuery q listener, s =>
    match s.runQuery q with
    | .ok _ => some (.subscribed ⟨s.nextId, .query q, listener⟩ s.documents)
    | .error _ => none
  | unsubscribe id, _ => some (.removed id)

namespace Store

/-- **All subscriptions, those to documents first.** -/
def subscriptions (s : Store L) : List (Subscription Reference L) :=
  s.documentSubs.map (.map .document) ++ s.querySubs.map (.map .query)

/-- The notices of a write, subscription by subscription: for a query of a collection with a name,
the text before the last slash decides as the reference itself does. -/
theorem noticesOf_eq (s : Store L) (path : String)
    (named : ∀ sub ∈ s.querySubs, sub.reference.path ≠ "") :
    s.noticesOf path = s.subscriptions.filterMap (Change.written path s.documents).notice? := by
  rw [noticesOf, subscriptions, List.filterMap_append, List.filterMap_map, List.filterMap_map,
    ← List.filterMap_eq_map, ← List.filterMap_eq_map, List.filterMap_filter,
    List.filterMap_filter]
  congr 1
  · refine List.filterMap_congr fun sub _ => ite_congr ?_ ?_ fun _ => rfl
    · exact propext (decide_eq_true_iff.trans eq_comm)
    · rintro rfl
      rfl
  · refine List.filterMap_congr fun sub mem => ite_congr ?_ (fun _ => rfl) fun _ => rfl
    rw [decide_eq_true_iff, ← isChild_iff_parentPath (named sub mem), isChild_iff]
    rfl

/-- **A store whose subscriptions are those that some changes leave enrolled**, under different ids
below the next one. -/
structure Follows (s : Store L) (cs : List (Change L)) : Prop where
  documents : s.documentSubs.map (.map .document) =
    (enrolled cs).filter (·.reference.target = .document)
  queries : s.querySubs.map (.map .query) =
    (enrolled cs).filter (·.reference.target = .collection)
  distinct : ((made cs).map (·.id)).Nodup
  below : ∀ sub ∈ made cs, sub.id < s.nextId

namespace Follows

variable {s : Store L} {cs : List (Change L)}

/-- **Who is subscribed is who is enrolled by what has happened, documents first.** -/
theorem subscriptions_eq (h : s.Follows cs) : s.subscriptions = ranked (enrolled cs) := by
  rw [subscriptions, h.documents, h.queries, ranked]

/-- A change that nobody subscribes by. -/
theorem unmade (h : s.Follows cs) {s' : Store L} {c : Change L} (none : c.subscription? = none)
    (next : s'.nextId = s.nextId)
    (documents : s'.documentSubs.map (.map .document) =
      (c.enroll (enrolled cs)).filter (·.reference.target = .document))
    (queries : s'.querySubs.map (.map .query) =
      (c.enroll (enrolled cs)).filter (·.reference.target = .collection)) :
    s'.Follows (cs ++ [c]) := by
  rw [← Change.enrolled_concat] at documents queries
  have same : made (cs ++ [c]) = made cs := by rw [Change.made_concat, none]; simp
  exact ⟨documents, queries, same ▸ h.distinct, by rw [same, next]; exact h.below⟩

/-- A change by which one subscribes, under the next id. -/
theorem subscribed (h : s.Follows cs) {s' : Store L} {sub : Subscription Reference L}
    {now : OrderedMap Fields} (new : sub.id = s.nextId) (next : s'.nextId = s.nextId + 1)
    (documents : s'.documentSubs.map (.map .document) =
      (enrolled cs ++ [sub]).filter (·.reference.target = .document))
    (queries : s'.querySubs.map (.map .query) =
      (enrolled cs ++ [sub]).filter (·.reference.target = .collection)) :
    s'.Follows (cs ++ [.subscribed sub now]) := by
  have enrolled_eq : enrolled (cs ++ [.subscribed sub now]) = enrolled cs ++ [sub] :=
    Change.enrolled_concat _ _
  have made_eq : made (cs ++ [.subscribed sub now]) = made cs ++ [sub] := Change.made_concat _ _
  refine ⟨enrolled_eq ▸ documents, enrolled_eq ▸ queries, ?_, ?_⟩
  · rw [made_eq, List.map_append, List.map_singleton, List.nodup_append_comm, new]
    refine List.nodup_cons.mpr ⟨fun mem => ?_, h.distinct⟩
    obtain ⟨sub', mem', same⟩ := List.mem_map.mp mem
    exact Nat.ne_of_lt (h.below sub' mem') same
  · rw [made_eq, next]
    intro sub' mem
    rcases List.mem_append.mp mem with mem | mem
    · exact Nat.lt_succ_of_lt (h.below sub' mem)
    · obtain rfl := List.mem_singleton.mp mem
      exact new ▸ Nat.lt_succ_self _

/-- **A store follows its changes**: an effect is one of them, or none. -/
theorem apply (h : s.Follows cs) (e : Effect L) :
    (e.apply s).Follows (cs ++ (e.change? s).toList) := by
  cases e with
  | nothing =>
    rw [Effect.change?, Option.toList_none, List.append_nil]
    exact h
  | write path data => exact h.unmade rfl rfl h.documents h.queries
  | failAll e => exact h.unmade rfl rfl h.documents h.queries
  | subscribeDocument r listener =>
    refine h.subscribed rfl rfl ?_ ?_
    · rw [List.filter_append, ← h.documents]
      exact List.map_append
    · rw [List.filter_append, ← h.queries]
      exact (List.append_nil _).symm
  | subscribeQuery q listener =>
    simp only [Effect.change?, Effect.apply, listenQuery]
    cases s.runQuery q with
    | error e =>
      rw [Option.toList_none, List.append_nil]
      exact h
    | ok docs =>
      refine h.subscribed rfl rfl ?_ ?_
      · rw [List.filter_append, ← h.documents]
        exact (List.append_nil _).symm
      · rw [List.filter_append, ← h.queries]
        exact List.map_append
  | unsubscribe id =>
    refine h.unmade rfl rfl ?_ ?_
    · rw [Change.enroll, List.filter_comm, ← h.documents, List.filter_map]
      rfl
    · rw [Change.enroll, List.filter_comm, ← h.queries, List.filter_map]
      rfl

/-- **An effect queues what its change tells those who are enrolled.** -/
theorem notices_eq (h : s.Follows cs) (named : ∀ sub ∈ enrolled cs, sub.reference.Named)
    (e : Effect L) : e.notices s = book (enrolled cs) (e.change? s).toList := by
  have each (c : Change L) : s.subscriptions.filterMap c.notice? =
      (ranked (enrolled cs)).filterMap c.notice? ++ [] := by
    rw [h.subscriptions_eq, List.append_nil]
  cases e with
  | nothing => rfl
  | write path data =>
    refine (Store.noticesOf_eq _ path fun sub mem => ?_).trans (each (.written path _))
    have there : sub.map .query ∈ (enrolled cs).filter (·.reference.target = .collection) :=
      h.queries ▸ List.mem_map_of_mem mem
    exact named _ (List.mem_of_mem_filter there)
  | failAll e =>
    refine Eq.trans ?_ (each (.failed e))
    rw [subscriptions, List.filterMap_append, List.filterMap_map, List.filterMap_map,
      Effect.notices, ← List.filterMap_eq_map, ← List.filterMap_eq_map]
    rfl
  | subscribeDocument r listener => rfl
  | subscribeQuery q listener =>
    simp only [Effect.notices, Effect.change?]
    cases found : s.runQuery q with
    | error e => rfl
    | ok docs =>
      have reads : (Reference.query q).stateIn s.documents = .ok (.many docs) := by
        change s.queryOutcome q = _
        rw [queryOutcome, found]
        rfl
      exact congrArg (fun outcome => [(⟨s.nextId, .subscribed, listener, outcome⟩ : Notice L)])
        reads.symm
  | unsubscribe id =>
    have silent : s.subscriptions.filterMap (Change.removed id).notice? = [] :=
      List.filterMap_eq_nil_iff.mpr fun _ _ => rfl
    exact silent.symm.trans (each (.removed id))

end Follows

end Store

/-! ## Runs and their changes -/

namespace Run

/-- **The change the next step makes, if it makes one.** -/
def change? (env : Environment σ L) (r : Run σ L α) : Option (Change L) :=
  r.calling?.bind fun c => (r.store.effect env.freshId c).change? r.store

/-- A step makes its change, and queues what that tells. -/
theorem follows_step (env : Environment σ L) {r : Run σ L α} {cs : List (Change L)}
    (h : r.store.Follows cs) :
    (r.step env).store.Follows (cs ++ (r.change? env).toList) ∧
      ((∀ sub ∈ enrolled cs, sub.reference.Named) →
        r.noticed env = book (enrolled cs) (r.change? env).toList) := by
  obtain ⟨queue, draining, store⟩ := r.step_store env
  rw [store]
  unfold Run.called noticed change?
  cases r.calling? with
  | none =>
    rw [Option.bind_none, Option.toList_none, List.append_nil]
    exact ⟨⟨h.documents, h.queries, h.distinct, h.below⟩, fun _ => rfl⟩
  | some c =>
    have after := h.apply (r.store.effect env.freshId c)
    obtain ⟨pendingFailure, operations, generated, store⟩ := r.store.perform_store env.freshId c
    refine ⟨?_, fun named => h.notices_eq named _⟩
    simp only [store]
    exact ⟨after.documents, after.queries, after.distinct, after.below⟩

end Run

namespace Audit

/-- **The changes of an audit's run**, the first one first. -/
inductive Recorded (env : Environment σ L) : ∀ {α : Type}, Audit σ L α → List (Change L) → Prop
  | start {α : Type} (documents : OrderedMap Fields) (host : σ) (p : Program σ L α) :
      Recorded env (.start documents host p) []
  | step {α : Type} {a : Audit σ L α} {cs : List (Change L)} (h : Recorded env a cs) :
      Recorded env (a.step env) (cs ++ (a.run.change? env).toList)
  | next {α β : Type} {a : Audit σ L α} {cs : List (Change L)} (h : Recorded env a cs)
      (ended : a.run.isOver) (p : Program σ L β) : Recorded env (a.next p) cs

/-- **Whatever is reached has a record.** -/
theorem Reachable.exists_recorded {env : Environment σ L} {a : Audit σ L α} (h : a.Reachable env) :
    ∃ cs, a.Recorded env cs := by
  induction h with
  | start documents host p => exact ⟨[], .start documents host p⟩
  | step _ ih =>
    obtain ⟨cs, recorded⟩ := ih
    exact ⟨_, recorded.step⟩
  | next _ ended p ih =>
    obtain ⟨cs, recorded⟩ := ih
    exact ⟨cs, recorded.next ended p⟩

/-- The changes of some steps. -/
def changesIn (env : Environment σ L) : Nat → Audit σ L α → List (Change L)
  | 0, _ => []
  | n + 1, a => (a.run.change? env).toList ++ changesIn env n (a.step env)

namespace Recorded

variable {env : Environment σ L} {a : Audit σ L α} {cs : List (Change L)}

/-- **The record goes on with what changes in the steps to come.** -/
theorem after (n : Nat) (h : a.Recorded env cs) :
    (a.after env n).Recorded env (cs ++ a.changesIn env n) := by
  induction n generalizing a cs with
  | zero =>
    rw [changesIn, List.append_nil]
    exact h
  | succ n ih =>
    rw [changesIn, ← List.append_assoc]
    exact ih h.step

theorem reachable (h : a.Recorded env cs) : a.Reachable env := by
  induction h with
  | start documents host p => exact .start documents host p
  | step _ ih => exact ih.step
  | next _ ended p ih => exact ih.next ended p

/-- **A store with a record follows it.** -/
theorem follows (h : a.Recorded env cs) : a.run.store.Follows cs := by
  induction h with
  | start documents _ _ => exact ⟨rfl, rfl, List.nodup_nil, nofun⟩
  | step _ ih => exact (Run.follows_step env ih).1
  | next _ _ _ ih => exact ih

/-- **What a run has queued is the book of its changes.** -/
theorem queued_eq (h : a.Recorded env cs) (named : ∀ sub ∈ made cs, sub.reference.Named) :
    a.queued = book [] cs := by
  induction h with
  | start => rfl
  | @step α a cs recorded ih =>
    rw [made, List.filterMap_append, List.forall_mem_append] at named
    have noticed := (Run.follows_step env recorded.follows).2 fun sub mem =>
      named.1 sub ((Change.enrolled_sublist_made _).subset mem)
    rw [Change.book_append, ← ih named.1]
    exact congrArg (a.queued ++ ·) noticed
  | next _ _ _ ih => exact ih named

end Recorded

/-- **The history of every subscription.**  Whatever listeners do, and however their deliveries are
sent: a subscription is owed how its reference reads when it is made, and then, in the order of the
changes and until it is removed, one delivery of each change that concerns it and nothing else.  A
write concerns it if it is to its document or to a document directly in its collection, and brings
what the reference reads in the documents right after the write; an injected error concerns all.
What is queued for one change is told to the subscriptions there are, those to documents first and
each kind in order of registration.  Only queries of a collection without a name are left out. -/
theorem Reachable.history {env : Environment σ L} {a : Audit σ L α} (h : a.Reachable env) :
    (∃ cs, a.Recorded env cs) ∧
    ∀ cs, a.Recorded env cs → (∀ sub ∈ made cs, sub.reference.Named) →
      a.sent ++ a.run.store.queue = a.queued.map Notice.delivery ∧
      (∀ before sub documents after, cs = before ++ .subscribed sub documents :: after →
        a.queued.filter (·.subscription = sub.id) = Change.greeting sub documents ::
          (after.takeWhile (!·.removes sub.id)).filterMap (·.notice? sub)) ∧
      (∀ before c after, cs = before ++ c :: after →
        a.queued = book [] before ++ told (enrolled before) c ++
          book (enrolled (before ++ [c])) after ∧
        ((told (enrolled before) c).map Notice.subscription).Sublist
          ((ranked (made cs)).map (·.id))) ∧
      ((made cs).map (·.id)).Nodup := by
  refine ⟨h.exists_recorded, fun cs recorded named =>
    ⟨h.balanced.balance, ?_, ?_, recorded.follows.distinct⟩⟩
  · rintro before sub documents after rfl
    rw [recorded.queued_eq named]
    exact Change.filter_book recorded.follows.distinct
  · rintro before c after rfl
    refine ⟨?_, Change.map_told_sublist⟩
    rw [recorded.queued_eq named, Change.book_append, Change.enrolled_concat, book,
      List.append_assoc]
    rfl

/-- The listeners on a collection and on a document in it that writes it when it is missing; then
the second one is removed, and the document is written again. -/
def unwatched : Audit Unit Bool Unit :=
  let removed := (watched.next (.perform (.remove 1))).after reactive 1
  (removed.next (.perform (.put "users/a" []))).after reactive 4

/-- …and what has happened there. -/
def unwatchedChanges : List (Change Bool) :=
  let there : OrderedMap Fields := .insert .empty "users/a" []
  [.subscribed ⟨0, .query ⟨[.collection "users"], []⟩, false⟩ .empty,
    .subscribed ⟨1, .document ⟨[.collection "users", .doc "a"]⟩, true⟩ .empty,
    .written "users/a" there, .removed 1, .written "users/a" (there.insert "users/a" [])]

/-- The second one has heard that the document was missing, of its own write, and no more. -/
theorem history_unwatched :
    unwatched.Reachable reactive ∧ unwatched.Recorded reactive unwatchedChanges ∧
    (∀ sub ∈ made unwatchedChanges, sub.reference.Named) ∧
    unwatched.queued.filter (·.subscription = 1) =
      [⟨1, .subscribed, true, .ok (.one (.missing "users/a"))⟩,
        ⟨1, .written "users/a", true, .ok (.one (.of "users/a" []))⟩] := by
  have recorded : unwatched.Recorded reactive unwatchedChanges :=
    .after 4 (.next (.after 1 (.next (.after 9 (.next (.after 4 (.start _ _ _)) rfl _)) rfl _)) rfl
      _)
  have named : ∀ sub ∈ made unwatchedChanges, sub.reference.Named := by
    have path : QueryRef.path ⟨[.collection "users"], []⟩ ≠ "" := by decide
    exact List.forall_mem_cons.mpr ⟨path, List.forall_mem_singleton.mpr trivial⟩
  have law := recorded.reachable.history.2 unwatchedChanges recorded named
  exact ⟨recorded.reachable, recorded, named, law.2.1 [_] _ _ _ rfl⟩

end Audit

end DocDispatch
