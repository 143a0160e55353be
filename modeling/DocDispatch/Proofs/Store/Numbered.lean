import Mathlib.Data.List.Nodup
import DocDispatch.Proofs.Store.Effect

/-!
# Proofs/Store/Numbered — an id belongs to one subscription

A store is *numbered* if its subscriptions, those to documents and those to queries together, have
different ids, all of them below the next one.  Every effect keeps a store numbered, so a notice
tells by its id which subscription it is for (`mem_noticesOf`).
-/

namespace DocDispatch

variable {L : Type}

namespace Store

/-- **The ids of all subscriptions.** -/
def ids (s : Store L) : List Nat := s.documentSubs.map (·.id) ++ s.querySubs.map (·.id)

theorem ids_listenDocument (s : Store L) (r : DocumentRef) (listener : L) :
    (s.listenDocument r listener).1.ids =
      s.documentSubs.map (·.id) ++ s.nextId :: s.querySubs.map (·.id) := by
  simp [ids, listenDocument, enqueue]

theorem ids_listenQuery {s : Store L} {q : QueryRef} {docs : List Snapshot}
    (found : s.runQuery q = .ok docs) (listener : L) :
    (s.listenQuery q listener).1.ids = s.ids ++ [s.nextId] := by
  simp [ids, listenQuery, found, enqueue]

theorem ids_unsubscribe_sublist (s : Store L) (id : Nat) : (s.unsubscribe id).ids.Sublist s.ids :=
  (List.filter_sublist.map _).append (List.filter_sublist.map _)

/-- **Different subscriptions have different ids, and no id is one to come.** -/
structure Numbered (s : Store L) : Prop where
  nodup : s.ids.Nodup
  below : ∀ id ∈ s.ids, id < s.nextId

namespace Numbered

variable {s : Store L}

theorem document_below (h : s.Numbered) {sub : Subscription DocumentRef L}
    (hs : sub ∈ s.documentSubs) : sub.id < s.nextId :=
  h.below _ (List.mem_append_left _ (List.mem_map_of_mem hs))

theorem query_below (h : s.Numbered) {sub : Subscription QueryRef L} (hs : sub ∈ s.querySubs) :
    sub.id < s.nextId :=
  h.below _ (List.mem_append_right _ (List.mem_map_of_mem hs))

theorem document_eq (h : s.Numbered) {sub sub' : Subscription DocumentRef L}
    (hs : sub ∈ s.documentSubs) (hs' : sub' ∈ s.documentSubs) (hid : sub.id = sub'.id) :
    sub = sub' :=
  List.inj_on_of_nodup_map (List.nodup_append.mp h.nodup).1 hs hs' hid

theorem query_eq (h : s.Numbered) {sub sub' : Subscription QueryRef L}
    (hs : sub ∈ s.querySubs) (hs' : sub' ∈ s.querySubs) (hid : sub.id = sub'.id) : sub = sub' :=
  List.inj_on_of_nodup_map (List.nodup_append.mp h.nodup).2.1 hs hs' hid

theorem document_ne_query (h : s.Numbered) {sub : Subscription DocumentRef L}
    {sub' : Subscription QueryRef L} (hs : sub ∈ s.documentSubs) (hs' : sub' ∈ s.querySubs) :
    sub.id ≠ sub'.id :=
  (List.nodup_append.mp h.nodup).2.2 _ (List.mem_map_of_mem hs) _ (List.mem_map_of_mem hs')

/-- A subscription under the next id, put anywhere among the ids. -/
theorem subscribed {front back : List Nat} {nextId : Nat} (nodup : (front ++ back).Nodup)
    (below : ∀ id ∈ front ++ back, id < nextId) :
    (front ++ nextId :: back).Nodup ∧ ∀ id ∈ front ++ nextId :: back, id < nextId + 1 := by
  constructor
  · rw [List.nodup_middle]
    exact List.nodup_cons.mpr ⟨fun mem => Nat.lt_irrefl _ (below _ mem), nodup⟩
  · intro id hid
    rcases List.mem_append.mp hid with hid | hid
    · exact Nat.lt_succ_of_lt (below id (List.mem_append_left _ hid))
    · rcases List.mem_cons.mp hid with rfl | hid
      · exact Nat.lt_succ_self _
      · exact Nat.lt_succ_of_lt (below id (List.mem_append_right _ hid))

theorem listenDocument (h : s.Numbered) (r : DocumentRef) (listener : L) :
    (s.listenDocument r listener).1.Numbered := by
  obtain ⟨nodup, below⟩ := subscribed h.nodup h.below
  rw [← ids_listenDocument s r listener] at nodup below
  exact ⟨nodup, below⟩

theorem listenQuery (h : s.Numbered) (q : QueryRef) (listener : L) :
    (s.listenQuery q listener).1.Numbered := by
  cases found : s.runQuery q with
  | error e =>
    rw [Store.listenQuery, found]
    exact h
  | ok docs =>
    have nodup := h.nodup
    have below := h.below
    rw [← List.append_nil s.ids] at nodup below
    obtain ⟨nodup, below⟩ := subscribed nodup below
    rw [← ids_listenQuery found listener] at nodup below
    refine ⟨nodup, ?_⟩
    simpa [Store.listenQuery, found, enqueue] using below

theorem unsubscribe (h : s.Numbered) (id : Nat) : (s.unsubscribe id).Numbered := by
  have fewer := s.ids_unsubscribe_sublist id
  exact ⟨h.nodup.sublist fewer, fun id hid => h.below id (fewer.subset hid)⟩

theorem apply (h : s.Numbered) (e : Effect L) : (e.apply s).Numbered := by
  cases e with
  | nothing => exact h
  | write path data => exact ⟨h.nodup, h.below⟩
  | failAll e => exact ⟨h.nodup, h.below⟩
  | subscribeDocument r listener => exact h.listenDocument r listener
  | subscribeQuery q listener => exact h.listenQuery q listener
  | unsubscribe id => exact h.unsubscribe id

end Numbered

/-! ## Notices and their subscriptions -/

theorem mem_noticesOf {s : Store L} {path : String} {n : Notice L} :
    n ∈ s.noticesOf path ↔
      (∃ sub ∈ s.documentSubs, sub.reference.path = path ∧
        n = ⟨sub.id, .written path, sub.listener, s.documentOutcome path⟩) ∨
      (∃ sub ∈ s.querySubs, sub.reference.path = Text.parentPath path ∧
        n = ⟨sub.id, .written path, sub.listener, s.queryOutcome sub.reference⟩) := by
  simp [noticesOf, and_assoc, eq_comm]

theorem subscription_mem_ids {s : Store L} {path : String} {n : Notice L}
    (h : n ∈ s.noticesOf path) : n.subscription ∈ s.ids := by
  rcases mem_noticesOf.mp h with ⟨sub, hs, _, rfl⟩ | ⟨sub, hs, _, rfl⟩
  · exact List.mem_append_left _ (List.mem_map_of_mem hs)
  · exact List.mem_append_right _ (List.mem_map_of_mem hs)

end Store

namespace Effect

theorem nextId_le_apply (e : Effect L) (s : Store L) : s.nextId ≤ (e.apply s).nextId := by
  cases e with
  | subscribeDocument r listener => exact Nat.le_succ _
  | subscribeQuery q listener =>
    simp only [apply, Store.listenQuery]
    cases s.runQuery q with
    | error e => exact Nat.le_refl _
    | ok docs => exact Nat.le_succ _
  | _ => exact Nat.le_refl _

/-- **A notice is for a subscription that is there, or for the one just made.** -/
theorem subscription_of_mem_notices {e : Effect L} {s : Store L} {n : Notice L}
    (h : n ∈ e.notices s) :
    n.subscription ∈ s.ids ∨ n.subscription = s.nextId ∧ s.nextId < (e.apply s).nextId := by
  cases e with
  | nothing => cases h
  | write path data =>
    have mem : n.subscription ∈
        { s with documents := s.documents.insert path data : Store L }.ids :=
      Store.subscription_mem_ids h
    exact Or.inl mem
  | failAll e =>
    rcases List.mem_append.mp h with h | h
    · obtain ⟨sub, hs, rfl⟩ := List.mem_map.mp h
      exact Or.inl (List.mem_append_left _ (List.mem_map_of_mem hs))
    · obtain ⟨sub, hs, rfl⟩ := List.mem_map.mp h
      exact Or.inl (List.mem_append_right _ (List.mem_map_of_mem hs))
  | subscribeDocument r listener =>
    obtain rfl := List.mem_singleton.mp h
    exact Or.inr ⟨rfl, Nat.lt_succ_self _⟩
  | subscribeQuery q listener =>
    simp only [notices, apply, Store.listenQuery] at h ⊢
    cases found : s.runQuery q with
    | error e =>
      rw [found] at h
      cases h
    | ok docs =>
      rw [found] at h
      obtain rfl := List.mem_singleton.mp h
      exact Or.inr ⟨rfl, Nat.lt_succ_self _⟩
  | unsubscribe id => cases h

theorem notice_below {e : Effect L} {s : Store L} (hs : s.Numbered) {n : Notice L}
    (h : n ∈ e.notices s) : n.subscription < (e.apply s).nextId := by
  rcases subscription_of_mem_notices h with h | ⟨h, new⟩
  · exact Nat.lt_of_lt_of_le (hs.below _ h) (nextId_le_apply e s)
  · exact h ▸ new

end Effect

end DocDispatch
