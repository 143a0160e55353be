import DocDispatch.Proofs.Store.Registration

/-!
# Proofs/Store/Orphans — a listener whose registration nobody got

    a ──listen──▸ [drain] ──cs──▸ b      the caller goes on with the registration…
    subs          subs, new       …      …or a panic sweeps it away, and `new` is there all the same

The listener is entered, under a new id, before anything is sent.  While the call sends what is
owed, listeners make changes `cs` of their own, and one of them may break the call off: its own
listener or another, on a delivery of this call or on one that an earlier panic has left.  Either
way the lists at the end are those of before with `new` behind them, after `cs`
(`Recorded.subscriptions_of_entered`).  The id was never handed out, and it is never given again; so
no call that anyone can make takes this listener off.
-/

namespace DocDispatch

open Change (made enrolled enroll)
open Subscription (ranked)

variable {σ L α β : Type}

/-! ## Changes and parts of the lists -/

namespace Change

variable {subs subs' : List (Subscription Reference L)}

/-- A change does to a part of the subscriptions what it does to all of them. -/
theorem filter_enroll_congr {p : Subscription Reference L → Bool}
    (h : subs.filter p = subs'.filter p) (c : Change L) :
    (enroll subs c).filter p = (enroll subs' c).filter p := by
  cases c with
  | subscribed sub documents => rw [enroll, enroll, List.filter_append, List.filter_append, h]
  | removed id => rw [enroll, enroll, List.filter_comm, h, List.filter_comm]
  | _ => exact h

theorem filter_foldl_enroll_congr {p : Subscription Reference L → Bool}
    (h : subs.filter p = subs'.filter p) (cs : List (Change L)) :
    (cs.foldl enroll subs).filter p = (cs.foldl enroll subs').filter p := by
  induction cs generalizing subs subs' with
  | nil => exact h
  | cons c cs ih => exact ih (filter_enroll_congr h c)

/-- In which order the two kinds stand among each other does not matter to what becomes of them. -/
theorem ranked_foldl_enroll (subs later : List (Subscription Reference L))
    (cs : List (Change L)) :
    ranked (cs.foldl enroll (ranked subs ++ later)) = ranked (cs.foldl enroll (subs ++ later)) := by
  have kind (t : Target) : (ranked subs ++ later).filter (·.reference.target = t) =
      (subs ++ later).filter (·.reference.target = t) := by
    cases t <;> simp +contextual [ranked]
  exact congrArg₂ (· ++ ·) (filter_foldl_enroll_congr (kind .document) cs)
    (filter_foldl_enroll_congr (kind .collection) cs)

/-- A subscription lasts through changes exactly if none of them removes it. -/
theorem mem_foldl_enroll_iff {sub : Subscription Reference L} {cs : List (Change L)}
    (old : ∀ other ∈ made cs, other.id ≠ sub.id) (there : subs.filter (·.id = sub.id) = [sub]) :
    sub ∈ cs.foldl enroll subs ↔ ∀ c ∈ cs, ¬ c.removes sub.id := by
  induction cs generalizing subs with
  | nil =>
    have mem : sub ∈ subs.filter (·.id = sub.id) := there ▸ List.mem_cons_self
    simpa using List.mem_of_mem_filter mem
  | cons c cs ih =>
    obtain ⟨first, rest⟩ := forall_mem_made_cons.mp old
    have after : (enroll subs c).filter (·.id = sub.id) = _ := filter_enroll first
    rw [List.foldl_cons, List.forall_mem_cons]
    cases removed : c.removes sub.id with
    | false =>
      rw [removed, if_neg nofun, there] at after
      simp [ih rest after]
    | true =>
      rw [removed, if_pos rfl] at after
      have gone := filter_foldl_enroll rest after
      simp only [not_true_eq_false, false_and, iff_false]
      exact fun mem => List.filter_eq_nil_iff.mp gone sub mem (decide_eq_true rfl)

end Change

/-! ## Calls and their changes -/

theorem Effect.eq_of_change?_removed {e : Effect L} {s : Store L} {id : Nat}
    (change : e.change? s = some (.removed id)) : e = .unsubscribe id := by
  cases e with
  | unsubscribe id' =>
    cases change
    rfl
  | subscribeQuery q listener =>
    rw [change?] at change
    cases found : s.runQuery q <;> rw [found] at change <;> cases change
  | _ => cases change

namespace Store

variable {freshId : Nat → String} {s : Store L} {c : Call L}

theorem operationEffect_ne_unsubscribe (id : Nat) :
    s.operationEffect freshId c ≠ .unsubscribe id := by
  unfold operationEffect
  split
  · exact nofun
  · split <;> exact nofun
  · dsimp only
    split_ifs <;> exact nofun
  · exact nofun
  · exact nofun
  · exact nofun

/-- Only a call to remove it takes a subscription off. -/
theorem eq_remove_of_change? {id : Nat}
    (change : (s.effect freshId c).change? s = some (.removed id)) : c = .remove id := by
  have effect := Effect.eq_of_change?_removed change
  unfold Store.effect at effect
  split at effect
  · cases effect
  · cases effect
  · cases effect
    rfl
  · split at effect
    · cases effect
    · exact absurd effect (operationEffect_ne_unsubscribe id)

/-- A call to listen that is refused changes nothing but the counters. -/
theorem refused_listen {r : Reference} {listener : L} {e : StoreError}
    (refused : (s.perform freshId (.listen r listener)).reply = .error e) :
    s.Untouched (s.perform freshId (.listen r listener)).store ∧
      (s.perform freshId (.listen r listener)).flushes = false := by
  refine (s.ends freshId rfl).untouched (Or.inr ?_)
  rw [refused]
  rfl

end Store

/-- The subscriptions of a store after some changes. -/
def Store.subscriptionsAfter (s : Store L) (cs : List (Change L)) :
    List (Subscription Reference L) :=
  ranked (cs.foldl enroll s.subscriptions)

namespace Audit

variable {env : Environment σ L}

/-- A call comes to its end, as in `Unwinds`, by way of the changes that listeners make until
then. -/
inductive UnwindsBy (env : Environment σ L) :
    Audit σ L α → List (Change L) → Audit σ L α → Prop
  | done {a : Audit σ L α} (h : a.run.stack = []) : UnwindsBy env a [] a
  | step {a b : Audit σ L α} {cs : List (Change L)} (h : a.run.stack ≠ [])
      (rest : UnwindsBy env (a.step env) cs b) :
      UnwindsBy env a ((a.run.change? env).toList ++ cs) b

namespace UnwindsBy

variable {a b : Audit σ L α} {cs : List (Change L)}

theorem unwinds (h : a.UnwindsBy env cs b) : a.Unwinds env b := by
  induction h with
  | done h => exact .done h
  | step h _ ih => exact .step h ih

theorem recorded (h : a.UnwindsBy env cs b) {earlier : List (Change L)}
    (recorded : a.Recorded env earlier) : b.Recorded env (earlier ++ cs) := by
  induction h generalizing earlier with
  | done _ => rwa [List.append_nil]
  | step _ _ ih => exact List.append_assoc .. ▸ ih recorded.step

end UnwindsBy

section

variable {a : Audit σ L α} {earlier : List (Change L)}

theorem Recorded.subscriptionsAfter_eq (h : a.Recorded env earlier) (cs : List (Change L)) :
    a.run.store.subscriptionsAfter cs = ranked (enrolled (earlier ++ cs)) := by
  have kinds := Change.ranked_foldl_enroll (enrolled earlier) [] cs
  rw [List.append_nil, List.append_nil] at kinds
  rw [Store.subscriptionsAfter, h.follows.subscriptions_eq, kinds, enrolled, enrolled,
    List.foldl_append]

variable {sub : Subscription Reference L} {documents : OrderedMap Fields}

/-- The lists at the end of a call that has entered `sub`, beside those without it. -/
theorem Recorded.subscriptions_of_entered (h : a.Recorded env earlier)
    (entered : a.run.change? env = some (.subscribed sub documents)) {cs : List (Change L)}
    {b : Audit σ L α} (ends : (a.step env).UnwindsBy env cs b) :
    b.run.store.subscriptions =
      a.run.store.subscriptionsAfter (.subscribed sub documents :: cs) ∧
    a.run.store.subscriptionsAfter cs = b.run.store.subscriptions.filter (·.id ≠ sub.id) ∧
    (sub ∈ b.run.store.subscriptions ↔ ∀ c ∈ cs, ¬ c.removes sub.id) := by
  have recorded := ends.recorded h.step
  rw [entered, Option.toList_some, List.append_assoc, List.singleton_append] at recorded
  obtain ⟨before, after⟩ := Change.others_of_distinct recorded.follows.distinct
  have subs_eq : b.run.store.subscriptions =
      ranked (cs.foldl enroll (enrolled earlier ++ [sub])) := by
    rw [recorded.follows.subscriptions_eq, enrolled, List.foldl_append]
    rfl
  have new : (enrolled earlier).filter (·.id = sub.id) = [] :=
    Change.filter_foldl_enroll before rfl
  refine ⟨?_, ?_, ?_⟩
  · rw [h.subscriptionsAfter_eq, recorded.follows.subscriptions_eq]
  · have others : (cs.foldl enroll (enrolled earlier ++ [sub])).filter (·.id ≠ sub.id) =
        (cs.foldl enroll (enrolled earlier)).filter (·.id ≠ sub.id) :=
      Change.filter_foldl_enroll_congr (by simp) cs
    have all : (cs.foldl enroll (enrolled earlier)).filter (·.id ≠ sub.id) =
        cs.foldl enroll (enrolled earlier) := by
      refine List.filter_eq_self.mpr fun other mem => ?_
      have none := Change.filter_foldl_enroll after new
      simpa using List.filter_eq_nil_iff.mp none other mem
    rw [h.subscriptionsAfter_eq, subs_eq, Subscription.filter_ranked, others, all, enrolled,
      List.foldl_append]
    rfl
  · rw [subs_eq, Subscription.mem_ranked]
    exact Change.mem_foldl_enroll_iff after (by rw [List.filter_append, new]; simp)

/-- A subscription that there is lasts through every step but the one that removes it. -/
theorem Recorded.mem_step (h : a.Recorded env earlier) (there : sub ∈ a.run.store.subscriptions)
    (kept : a.run.calling? ≠ some (.remove sub.id)) :
    sub ∈ (a.step env).run.store.subscriptions := by
  rw [h.follows.subscriptions_eq, Subscription.mem_ranked] at there
  rw [h.step.follows.subscriptions_eq, Subscription.mem_ranked]
  cases change : a.run.change? env with
  | none => rwa [Option.toList_none, List.append_nil]
  | some c =>
    rw [Option.toList_some, Change.enrolled_concat]
    cases c with
    | subscribed => exact List.mem_append_left _ there
    | removed id =>
      refine List.mem_filter.mpr ⟨there, decide_eq_true ?_⟩
      rintro rfl
      obtain ⟨c, calling, change⟩ := Option.bind_eq_some_iff.mp change
      exact kept (Store.eq_remove_of_change? change ▸ calling)
    | _ => exact there

end

/-- **What a call to listen leaves.**  One that is refused leaves the lists as they were.  One that
a listener makes is answered at once.  One from outside that is accepted has entered its listener,
whether the caller gets the registration or a panic sweeps it away: at its end the lists are those
of before with the new listener behind them, after the changes that listeners have made meanwhile,
and those changes alone would have left the same lists without it, which it is missing from only if
one of them removes it.  From then on it is taken off by nothing but a call that names its id, and
no other call to listen is ever answered with that: if the caller was swept away, nobody has it. -/
theorem Reachable.listener_left {a : Audit σ L α} (h : a.Reachable env) {r : Reference}
    {listener : L} (calling : a.run.calling? = some (.listen r listener)) :
    (∀ e, (a.run.store.perform env.freshId (.listen r listener)).reply = .error e →
      (a.step env).run.store.subscriptions = a.run.store.subscriptions ∧
      a.step env = { a with run := a.run.answered env }) ∧
    ∀ id, (a.run.store.perform env.freshId (.listen r listener)).reply = .ok id →
      (∀ next below, a.run.stack = .listener (.call (.listen r listener) next) :: below →
        (a.step env).run.stack = .listener (next (.ok id)) :: below) ∧
      (∀ next cs b, a.run.stack = [] → a.run.outer = .call (.listen r listener) next →
        (a.step env).UnwindsBy env cs b →
        (b.run.outer = next (.ok id) ∨ b.run.outer = .panic) ∧
        b.run.store.subscriptions = a.run.store.subscriptionsAfter
          (.subscribed ⟨id, r, listener⟩ a.run.store.documents :: cs) ∧
        a.run.store.subscriptionsAfter cs = b.run.store.subscriptions.filter (·.id ≠ id) ∧
        (⟨id, r, listener⟩ ∈ b.run.store.subscriptions ↔ ∀ c ∈ cs, ¬ c.removes id)) ∧
      ∀ {β : Type} (d : Audit σ L β), (a.step env).Later env d →
        (⟨id, r, listener⟩ ∈ d.run.store.subscriptions →
          d.run.calling? ≠ some (.remove id) →
          ⟨id, r, listener⟩ ∈ (d.step env).run.store.subscriptions) ∧
        ∀ r' listener',
          (d.run.store.perform env.freshId (.listen r' listener')).reply ≠ .ok id := by
  obtain ⟨earlier, recorded⟩ := h.exists_recorded
  refine ⟨fun e refused => ?_, fun id registered => ⟨fun next below hs => ?_,
    fun next cs b hs ho ends => ?_, fun d later => ?_⟩⟩
  · obtain ⟨untouched, silent⟩ := Store.refused_listen refused
    have step := step_of_untouched calling untouched silent
    refine ⟨?_, step⟩
    obtain ⟨-, store, -⟩ := Run.step_of_calling env calling
    rw [step, store, Store.subscriptions, untouched.documentSubs, untouched.querySubs]
    rfl
  · rw [← registered]
    have step : a.run.step env = _ := Run.step_listener_call h.balanced.orderly hs
    exact congrArg Run.stack step
  · refine ⟨?_, recorded.subscriptions_of_entered (change?_of_registered calling registered) ends⟩
    rw [← registered]
    have answered : (a.step env).run.outer =
        next (a.run.store.perform env.freshId (.listen r listener)).reply := by
      obtain ⟨step, -, -⟩ := Run.step_of_calling env calling
      rw [Audit.step, step, Run.flush_outer]
      simp only [Run.answered, hs, ho]
    exact answered ▸ ends.unwinds.outer
  · obtain ⟨cs, recorded', made⟩ :=
      recorded.exists_later (change?_of_registered calling registered) later
    refine ⟨fun there kept => recorded'.mem_step there kept, fun r' listener' again => ?_⟩
    have below := recorded'.follows.below _ made
    rw [← (Store.change?_of_registered again).1] at below
    exact Nat.lt_irrefl _ below

/-- Listeners that panic when they hear of a document that is there, or never. -/
def touchy : Environment Unit Bool where
  respond
    | true, .ok (.one ⟨_, _, some _⟩) => .panic
    | _, _ => .done ()
  freshId _ := ""

/-- Two touchy listeners on a document that is missing at first; when it is written, the first of
them breaks off the sending, and what the second is owed is left.  Then someone is about to
subscribe a silent listener to another document. -/
def interrupted : Audit Unit Bool (Except StoreError Nat) :=
  let user : Reference := .document ⟨[.collection "users", .doc "a"]⟩
  let listen : Program Unit Bool (Except StoreError Nat) := .perform (.listen user true)
  let first := (start .empty () listen).after touchy 4
  let second := (first.next listen).after touchy 4
  let left := (second.next (.perform (.put "users/a" []))).after touchy 3
  left.next (.perform (.listen (.document ⟨[.collection "users", .doc "b"]⟩) false))

/-- …and does: the call is broken off by the second of the touchy ones. -/
def orphaned : Audit Unit Bool (Except StoreError Nat) :=
  (interrupted.step touchy).after touchy 2

theorem interrupted_reachable : interrupted.Reachable touchy :=
  .next (.after 3 (.next (.after 4 (.next (.after 4 (.start _ _ _)) rfl _)) rfl _)) rfl _

theorem orphaned_unwindsBy : (interrupted.step touchy).UnwindsBy touchy [] orphaned :=
  .step nofun (.step nofun (.done rfl))

/-- The new listener is subscribed, and at no later time is a call to listen answered with the id
that it stands under. -/
theorem listener_left_orphaned :
    interrupted.Reachable touchy ∧ (interrupted.step touchy).UnwindsBy touchy [] orphaned ∧
    ⟨2, .document ⟨[.collection "users", .doc "b"]⟩, false⟩ ∈ orphaned.run.store.subscriptions ∧
    ∀ {β : Type} (d : Audit Unit Bool β), (interrupted.step touchy).Later touchy d →
      ∀ r listener, (d.run.store.perform touchy.freshId (.listen r listener)).reply ≠ .ok 2 := by
  have law := interrupted_reachable.listener_left rfl
  have accepted := law.2 2 rfl
  have ended := accepted.2.1 _ _ _ rfl rfl orphaned_unwindsBy
  exact ⟨interrupted_reachable, orphaned_unwindsBy, ended.2.2.2.mpr nofun,
    fun d later => (accepted.2.2 d later).2⟩

/-- **A call to listen that a panic breaks off leaves its listener behind.**  No listener has made
any change, the caller has been swept away, and yet the lists are not those of before. -/
theorem left_behind :
    interrupted.Reachable touchy ∧
    interrupted.run.calling? =
      some (.listen (.document ⟨[.collection "users", .doc "b"]⟩) false) ∧
    (interrupted.step touchy).UnwindsBy touchy [] orphaned ∧
    orphaned.run.ending = .panicked ∧
    interrupted.run.store.ids = [0, 1] ∧ orphaned.run.store.ids = [0, 1, 2] ∧
    orphaned.run.store.subscriptions ≠ interrupted.run.store.subscriptionsAfter [] := by
  refine ⟨interrupted_reachable, rfl, orphaned_unwindsBy, rfl, rfl, rfl, fun same => ?_⟩
  cases congrArg List.length same

end Audit

end DocDispatch
