import DocDispatch.Proofs.Assoc
import DocDispatch.Proofs.Store.Effect
import DocDispatch.Proofs.Store.Matching

/-!
# Proofs/Store/Objects — stores whose documents are objects

    seeded with objects ──put, set, add: objects──▸ … ──update: any changes──▸ objects

Members of an object come in key order, and a document is an object.  An `ObjectStore` carries this
in its type, so that what is said of its documents need not assume it.  Nothing is lost by that: a
call that brings objects makes of an object store another one (`ObjectStore.perform`), and an update
does so whatever it brings, since all it does is insert.
-/

namespace DocDispatch

open Json (Value)

namespace FieldPath

/-- A write into an object leaves an object. -/
theorem ascending_write (keys : List String) (v : Value) {m : Fields} (h : m.Ascending) :
    (write keys v m).Ascending := by
  match keys with
  | [] => exact h
  | [k] => exact h.insert k v
  | k :: _ :: _ => exact h.insert k _

/-- …and so does an update, one write after another. -/
theorem ascending_update : ∀ (changes : Fields) {m : Fields}, m.Ascending →
    (update m changes).Ascending
  | [], _, h => h
  | p :: changes, _, h => ascending_update changes (ascending_write (steps p.1) p.2 h)

end FieldPath

/-- The data that a call brings is an object, unless it is changes by dotted names. -/
def Call.BringsObject {L : Type} : Call L → Prop
  | .put _ data | .set _ data _ | .add _ data => data.Ascending
  | _ => True

/-- What an effect writes is an object. -/
def Effect.WritesObject {L : Type} : Effect L → Prop
  | .write _ data => data.Ascending
  | _ => True

/-- **A store of objects**: the fields of each document are in key order. -/
structure ObjectStore (L : Type) extends Store L where
  ordered : ∀ p ∈ documents.members, p.2.Ascending

namespace ObjectStore

variable {L : Type}

/-- The documents as a store keeps them. -/
def kept (documents : OrderedMap (OrderedMap Value)) : OrderedMap Fields where
  members := documents.members.map fun p => (p.1, p.2.members)
  ascending := by
    rw [Assoc.Ascending, List.pairwise_map]
    exact documents.ascending

/-- A store seeded with objects. -/
def ofDocuments (documents : OrderedMap (OrderedMap Value)) : ObjectStore L where
  toStore := .ofDocuments (kept documents)
  ordered := by
    intro p mem
    obtain ⟨⟨path, data⟩, -, rfl⟩ := List.mem_map.mp mem
    exact data.ascending

variable (s : ObjectStore L)

/-- What is found under a path is an object. -/
theorem ordered_get? {path : String} {data : Fields} (there : s.documents.get? path = some data) :
    data.Ascending :=
  s.ordered _ (Assoc.mem_of_get? there)

/-- **What matches a query is an object.** -/
theorem ordered_matching {q : QueryRef} : ∀ p ∈ s.matching q, p.2.Ascending :=
  fun p mem => s.ordered p (List.mem_filter.mp mem).1

/-! ## A call keeps objects -/

/-- Setting a document leaves an object there, merged or not. -/
theorem ascending_dataToSet (path : String) {data : Fields} (h : data.Ascending)
    (options : SetOptions) : (s.dataToSet path data options).Ascending := by
  unfold Store.dataToSet
  split
  next existing _ there => exact (s.ordered_get? there).merge data
  next => exact h

/-- An operation that brings an object writes one, if it writes. -/
theorem operationEffect_writesObject (freshId : Nat → String) {c : Call L} (h : c.BringsObject) :
    (s.operationEffect freshId c).WritesObject := by
  cases c with
  | set r data options =>
    cases r with
    | document r => exact s.ascending_dataToSet r.path h options
    | query q => trivial
  | update r data =>
    cases r with
    | document r =>
      unfold Store.operationEffect
      dsimp only
      split
      next => trivial
      next existing there => exact FieldPath.ascending_update data (s.ordered_get? there)
    | query q => trivial
  | add r data =>
    cases r with
    | document r => trivial
    | query q =>
      unfold Store.operationEffect
      dsimp only
      split
      · split
        · trivial
        · exact h
      · trivial
  | listen r listener => cases r <;> trivial
  | _ => trivial

/-- …and so does any other call. -/
theorem effect_writesObject (freshId : Nat → String) {c : Call L} (h : c.BringsObject) :
    (s.effect freshId c).WritesObject := by
  have operation : (if s.pendingFailure.isSome then Effect.nothing
      else s.operationEffect freshId c).WritesObject := by
    split
    · trivial
    · exact s.operationEffect_writesObject freshId h
  cases c with
  | put path data => exact h
  | failListeners e => trivial
  | remove id => trivial
  | _ => exact operation

/-- An effect that writes no other documents than objects keeps those there are. -/
theorem ordered_apply {e : Effect L} (h : e.WritesObject) :
    ∀ p ∈ (e.apply s.toStore).documents.members, p.2.Ascending := by
  cases e with
  | write path data =>
    intro p mem
    rcases Assoc.mem_insert mem with rfl | mem
    · exact h
    · exact s.ordered p mem
  | subscribeQuery q listener =>
    simp only [Effect.apply, Store.listenQuery]
    split <;> exact s.ordered
  | _ => exact s.ordered

/-- **A call that brings an object makes of an object store another one.** -/
def perform (freshId : Nat → String) {c : Call L} (h : c.BringsObject) : ObjectStore L where
  toStore := (s.toStore.perform freshId c).store
  ordered := by
    obtain ⟨_, _, _, performed⟩ := s.toStore.perform_store freshId c
    rw [performed]
    exact s.ordered_apply (s.effect_writesObject freshId h)

end ObjectStore

end DocDispatch
