import Mathlib.Data.List.Induction
import Mathlib.Data.List.Nodup
import DocDispatch.Proofs.Store.Children
import DocDispatch.Proofs.Store.Effect

/-!
# Proofs/Store/Changes — what there is to hear of a list of changes

    changes   c₁        c₂          c₃      …
    enrolled  [] ─────▸ subs ─────▸ subs ─▸ …       who is subscribed, in order of registration
    told      n₁ n₂     n₃          n₄ n₅ n₆        the documents' subscriptions first

A change is something that happened to a store, with nothing of the store but its documents right
after it.  No store occurs here: who is to hear what, and in which order, is told from the changes
alone.  `filter_book` reads that off for one subscription: its own history is how its reference read
when it was made, and then one notice of each change that concerns it, until it is removed.
-/

namespace DocDispatch

variable {L : Type}

namespace Reference

/-- What a reference reads in some documents: its own, or those its query finds. -/
def stateIn (documents : OrderedMap Fields) : Reference → Outcome
  | .document r => (Store.ofDocuments documents : Store Unit).documentOutcome r.path
  | .query q => (Store.ofDocuments documents : Store Unit).queryOutcome q

/-- **The writes that concern a reference**: those to its document, or to any document directly in
its collection, whether or not it passes the filters. -/
def ConcernedBy (path : String) : Reference → Prop
  | .document r => path = r.path
  | .query q => ∃ id : String, '/' ∉ id.toList ∧ path = q.path ++ "/" ++ id

instance (path : String) : (r : Reference) → Decidable (r.ConcernedBy path)
  | .document r => inferInstanceAs (Decidable (path = r.path))
  | .query _ => decidable_of_iff _ Store.isChild_iff

/-- A collection that is queried has a path that is not empty. -/
def Named : Reference → Prop
  | .document _ => True
  | .query q => q.path ≠ ""

end Reference

namespace Subscription

/-- **Subscriptions in the order in which they are told of a change**: those to documents first. -/
def ranked (subs : List (Subscription Reference L)) : List (Subscription Reference L) :=
  subs.filter (·.reference.target = .document) ++ subs.filter (·.reference.target = .collection)

theorem ranked_singleton (sub : Subscription Reference L) : ranked [sub] = [sub] := by
  unfold ranked
  cases h : sub.reference <;> simp [h, Reference.target]

/-- Ranking only reorders. -/
theorem mem_ranked {subs : List (Subscription Reference L)} {sub : Subscription Reference L} :
    sub ∈ ranked subs ↔ sub ∈ subs := by
  unfold ranked
  cases h : sub.reference <;> simp [h, Reference.target]

/-- Ranking keeps what is left after a removal in order… -/
theorem ranked_sublist {subs subs' : List (Subscription Reference L)} (h : subs.Sublist subs') :
    (ranked subs).Sublist (ranked subs') :=
  (h.filter _).append (h.filter _)

/-- …and commutes with leaving out. -/
theorem filter_ranked (subs : List (Subscription Reference L))
    (p : Subscription Reference L → Bool) : (ranked subs).filter p = ranked (subs.filter p) := by
  simp only [ranked, List.filter_append, List.filter_filter, Bool.and_comm]

end Subscription

open Subscription (ranked)

/-- **Something that happened to a store.** -/
inductive Change (L : Type) where
  /-- A document was written; `documents` are those there are right after. -/
  | written (path : String) (documents : OrderedMap Fields)
  /-- An error was injected. -/
  | failed (e : StoreError)
  | subscribed (sub : Subscription Reference L) (documents : OrderedMap Fields)
  | removed (id : Nat)

namespace Change

/-! ## Single changes -/

/-- **What a subscription hears of a change** that happens while it lasts. -/
def notice? (sub : Subscription Reference L) : Change L → Option (Notice L)
  | .written path documents =>
    if sub.reference.ConcernedBy path then
      some ⟨sub.id, .written path, sub.listener, sub.reference.stateIn documents⟩
    else none
  | .failed e => some ⟨sub.id, .failed, sub.listener, .error e⟩
  | .subscribed .. | .removed _ => none

/-- What a new subscription hears first: how its reference reads now. -/
def greeting (sub : Subscription Reference L) (documents : OrderedMap Fields) : Notice L :=
  ⟨sub.id, .subscribed, sub.listener, sub.reference.stateIn documents⟩

/-- All that is to hear of a change, given who is subscribed. -/
def told (subs : List (Subscription Reference L)) (c : Change L) : List (Notice L) :=
  match c with
  | .subscribed sub documents => [greeting sub documents]
  | c => (ranked subs).filterMap c.notice?

/-- **Who is subscribed after a change.** -/
def enroll (subs : List (Subscription Reference L)) : Change L → List (Subscription Reference L)
  | .subscribed sub _ => subs ++ [sub]
  | .removed id => subs.filter (·.id ≠ id)
  | .written .. | .failed _ => subs

/-- **The subscription a change makes, if it makes one.** -/
def subscription? : Change L → Option (Subscription Reference L)
  | .subscribed sub _ => some sub
  | _ => none

/-- Whether a change removes the subscription with an id. -/
def removes (id : Nat) : Change L → Bool
  | .removed id' => id' = id
  | _ => false

/-- A change tells a subscription in its own name. -/
theorem subscription_of_notice? {c : Change L} {sub : Subscription Reference L} {n : Notice L}
    (h : c.notice? sub = some n) : n.subscription = sub.id := by
  cases c with
  | written path documents =>
    obtain ⟨-, h⟩ := Option.ite_none_right_eq_some.mp h
    cases h
    rfl
  | failed e =>
    cases h
    rfl
  | subscribed => cases h
  | removed => cases h

/-- Removing tells nobody. -/
theorem notice?_of_removes {c : Change L} {id : Nat} (h : c.removes id)
    (sub : Subscription Reference L) : c.notice? sub = none := by
  cases c with
  | removed => rfl
  | _ => cases h

/-- A change is told to subscriptions in their order. -/
theorem map_filterMap_notice?_sublist (c : Change L) (subs : List (Subscription Reference L)) :
    ((subs.filterMap c.notice?).map Notice.subscription).Sublist (subs.map (·.id)) := by
  induction subs with
  | nil => exact .slnil
  | cons sub subs ih =>
    cases told : c.notice? sub with
    | none => simpa [told] using ih.cons sub.id
    | some n => simpa [told, subscription_of_notice? told] using ih

/-- Of what a change tells some subscriptions, an id hears what those under it are told… -/
theorem filter_filterMap_notice? (c : Change L) (subs : List (Subscription Reference L))
    (id : Nat) :
    (subs.filterMap c.notice?).filter (·.subscription = id) =
      (subs.filter (·.id = id)).filterMap c.notice? := by
  induction subs with
  | nil => rfl
  | cons sub subs ih =>
    cases told : c.notice? sub with
    | none => by_cases same : sub.id = id <;> simp [same, told, ih]
    | some n =>
      have own := subscription_of_notice? told
      by_cases same : sub.id = id <;> simp [same, told, own, ih]

/-- …and so it does of all there is to hear, unless the change subscribes someone under it. -/
theorem filter_told {subs : List (Subscription Reference L)} {c : Change L} {id : Nat}
    (old : ∀ sub, c.subscription? = some sub → sub.id ≠ id) :
    (told subs c).filter (·.subscription = id) =
      (ranked (subs.filter (·.id = id))).filterMap c.notice? := by
  have each : ((ranked subs).filterMap c.notice?).filter (·.subscription = id) =
      (ranked (subs.filter (·.id = id))).filterMap c.notice? := by
    rw [filter_filterMap_notice?, Subscription.filter_ranked]
  cases c with
  | subscribed sub documents =>
    have other : sub.id ≠ id := old sub rfl
    have silent (subs : List (Subscription Reference L)) :
        subs.filterMap (subscribed sub documents).notice? = [] :=
      List.filterMap_eq_nil_iff.mpr fun _ _ => rfl
    rw [silent]
    simp [told, greeting, other]
  | _ => exact each

/-- **A change concerns one id**: under another, who is enrolled stays. -/
theorem filter_enroll {subs : List (Subscription Reference L)} {c : Change L} {id : Nat}
    (old : ∀ sub, c.subscription? = some sub → sub.id ≠ id) :
    (enroll subs c).filter (·.id = id) =
      if c.removes id then [] else subs.filter (·.id = id) := by
  cases c with
  | written => rfl
  | failed => rfl
  | subscribed sub documents =>
    have other : sub.id ≠ id := old sub rfl
    simp [enroll, removes, other]
  | removed id' =>
    rw [enroll, List.filter_filter, removes]
    by_cases same : id' = id
    · subst same
      simp
    · rw [if_neg (by simpa using same)]
      refine List.filter_congr fun sub _ => ?_
      by_cases own : sub.id = id <;> simp [own, Ne.symm same]

/-! ## Lists of changes -/

/-- **The subscriptions made, in order of registration.** -/
def made (cs : List (Change L)) : List (Subscription Reference L) := cs.filterMap subscription?

/-- **Who is subscribed after some changes**, in order of registration. -/
def enrolled (cs : List (Change L)) : List (Subscription Reference L) := cs.foldl enroll []

theorem made_cons (c : Change L) (cs : List (Change L)) :
    made (c :: cs) = c.subscription?.toList ++ made cs := by
  rw [made, List.filterMap_cons]
  cases c.subscription? <;> rfl

/-- A change later makes its subscription later… -/
theorem made_concat (cs : List (Change L)) (c : Change L) :
    made (cs ++ [c]) = made cs ++ c.subscription?.toList := by
  rw [made, List.filterMap_append]
  cases h : c.subscription? <;> simp [made, h]

/-- …and enrolls or removes it last. -/
theorem enrolled_concat (cs : List (Change L)) (c : Change L) :
    enrolled (cs ++ [c]) = enroll (enrolled cs) c := by
  rw [enrolled, List.foldl_append]
  rfl

/-- **Whoever is subscribed has subscribed at some time, and stands where that time puts it.** -/
theorem enrolled_sublist_made (cs : List (Change L)) : (enrolled cs).Sublist (made cs) := by
  induction cs using List.reverseRecOn with
  | nil => exact .slnil
  | append_singleton cs c ih =>
    rw [enrolled_concat, made_concat]
    cases c with
    | subscribed sub documents => exact ih.append (.refl _)
    | removed id => exact (List.filter_sublist.trans ih).trans (List.sublist_append_left _ _)
    | _ => exact ih.trans (List.sublist_append_left _ _)

/-- **A change is told to documents' subscriptions first**, and to each kind in order of
registration. -/
theorem map_told_sublist {before after : List (Change L)} {c : Change L} :
    ((told (enrolled before) c).map Notice.subscription).Sublist
      ((ranked (made (before ++ c :: after))).map (·.id)) := by
  have there : (enrolled before).Sublist (made (before ++ c :: after)) := by
    rw [made, List.filterMap_append]
    exact (enrolled_sublist_made before).trans (List.sublist_append_left _ _)
  have each : (((ranked (enrolled before)).filterMap c.notice?).map Notice.subscription).Sublist
      ((ranked (made (before ++ c :: after))).map (·.id)) :=
    (map_filterMap_notice?_sublist c _).trans ((Subscription.ranked_sublist there).map _)
  cases c with
  | subscribed sub documents =>
    refine List.singleton_sublist.mpr (List.mem_map_of_mem (Subscription.mem_ranked.mpr ?_))
    exact List.mem_filterMap.mpr ⟨_, List.mem_append_right _ List.mem_cons_self, rfl⟩
  | _ => exact each

/-- **All that is to hear of some changes**, in order. -/
def book (subs : List (Subscription Reference L)) : List (Change L) → List (Notice L)
  | [] => []
  | c :: cs => told subs c ++ book (enroll subs c) cs

/-- **The book of two stretches is theirs, one after the other**, the second for whom the first has
left. -/
theorem book_append (subs : List (Subscription Reference L)) (cs cs' : List (Change L)) :
    book subs (cs ++ cs') = book subs cs ++ book (cs.foldl enroll subs) cs' := by
  induction cs generalizing subs with
  | nil => rfl
  | cons c cs ih => rw [List.cons_append, book, ih, book, List.foldl_cons, List.append_assoc]

theorem forall_mem_made_cons {P : Subscription Reference L → Prop} {c : Change L}
    {cs : List (Change L)} :
    (∀ sub ∈ made (c :: cs), P sub) ↔
      (∀ sub, c.subscription? = some sub → P sub) ∧ ∀ sub ∈ made cs, P sub := by
  rw [made_cons, List.forall_mem_append]
  simp

section

variable {id : Nat} {cs : List (Change L)} {subs : List (Subscription Reference L)}

/-- **Nobody is subscribed under an id that nobody subscribes under.** -/
theorem filter_foldl_enroll (old : ∀ sub ∈ made cs, sub.id ≠ id)
    (none : subs.filter (·.id = id) = []) : (cs.foldl enroll subs).filter (·.id = id) = [] := by
  induction cs generalizing subs with
  | nil => exact none
  | cons c cs ih =>
    obtain ⟨first, rest⟩ := forall_mem_made_cons.mp old
    refine ih rest ?_
    rw [filter_enroll first, none, ite_self]

/-- …and nobody hears anything under it. -/
theorem filter_book_of_absent (old : ∀ sub ∈ made cs, sub.id ≠ id)
    (none : subs.filter (·.id = id) = []) : (book subs cs).filter (·.subscription = id) = [] := by
  induction cs generalizing subs with
  | nil => rfl
  | cons c cs ih =>
    obtain ⟨first, rest⟩ := forall_mem_made_cons.mp old
    rw [book, List.filter_append, filter_told first, none, ih rest]
    · rfl
    · rw [filter_enroll first, none, ite_self]

/-- **A subscription that there is hears one notice of each change that concerns it**, until it is
removed. -/
theorem filter_book_of_enrolled {sub : Subscription Reference L}
    (old : ∀ sub' ∈ made cs, sub'.id ≠ sub.id) (there : subs.filter (·.id = sub.id) = [sub]) :
    (book subs cs).filter (·.subscription = sub.id) =
      (cs.takeWhile (!·.removes sub.id)).filterMap (·.notice? sub) := by
  induction cs generalizing subs with
  | nil => rfl
  | cons c cs ih =>
    obtain ⟨first, rest⟩ := forall_mem_made_cons.mp old
    have enrolled : (enroll subs c).filter (·.id = sub.id) = _ := filter_enroll first
    rw [book, List.filter_append, filter_told first, there, Subscription.ranked_singleton]
    cases removed : c.removes sub.id with
    | true =>
      rw [removed, if_pos rfl] at enrolled
      rw [filter_book_of_absent rest enrolled, List.takeWhile_cons_of_neg (by simp [removed])]
      simp [notice?_of_removes removed]
    | false =>
      rw [removed, if_neg nofun, there] at enrolled
      rw [ih rest enrolled, List.takeWhile_cons_of_pos (by simp [removed])]
      cases told : c.notice? sub <;> simp [told]

end

/-- **Where ids are different, none of those who subscribe before or after one has its id.** -/
theorem others_of_distinct {before after : List (Change L)} {sub : Subscription Reference L}
    {documents : OrderedMap Fields}
    (distinct : ((made (before ++ .subscribed sub documents :: after)).map (·.id)).Nodup) :
    (∀ other ∈ made before, other.id ≠ sub.id) ∧ ∀ other ∈ made after, other.id ≠ sub.id := by
  have made_eq : made (before ++ .subscribed sub documents :: after) =
      made before ++ sub :: made after := List.filterMap_append
  rw [made_eq, List.map_append, List.map_cons, List.nodup_middle, ← List.map_append] at distinct
  refine List.forall_mem_append.mp fun other mem same => ?_
  exact (List.nodup_cons.mp distinct).1 (same ▸ List.mem_map_of_mem mem)

/-- **The history of one subscription**: how its reference read when it was made, and then one
notice of each change that concerns it, until it is removed. -/
theorem filter_book {before after : List (Change L)} {sub : Subscription Reference L}
    {documents : OrderedMap Fields}
    (distinct : ((made (before ++ .subscribed sub documents :: after)).map (·.id)).Nodup) :
    (book [] (before ++ .subscribed sub documents :: after)).filter (·.subscription = sub.id) =
      greeting sub documents ::
        (after.takeWhile (!·.removes sub.id)).filterMap (·.notice? sub) := by
  obtain ⟨earlier, later⟩ := others_of_distinct distinct
  have there : (enroll (before.foldl enroll []) (.subscribed sub documents)).filter
      (·.id = sub.id) = [sub] := by
    rw [enroll, List.filter_append, filter_foldl_enroll earlier rfl]
    simp
  rw [book_append, List.filter_append, filter_book_of_absent earlier rfl, book, List.filter_append,
    filter_book_of_enrolled later there]
  simp [told, greeting]

end Change

end DocDispatch
