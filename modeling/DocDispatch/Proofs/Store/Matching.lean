import DocDispatch.Proofs.Store.Children

/-!
# Proofs/Store/Matching — what a query finds

A query that finds anything finds the documents directly in its collection that satisfy its filters,
in path order (`runQuery_eq_ok`).  Their paths differ only in the last segment, which is their id,
so the order of paths is the order of ids, and no two documents share one (`pairwise_id_matching`).
-/

namespace DocDispatch

namespace Store

/-! ## Paths and ids -/

/-- **The path of a document directly in a collection is the collection's, with its id.** -/
theorem eq_child_of_isChild {collection path : String} (h : isChild collection path) :
    path = collection ++ "/" ++ Text.lastSegment path := by
  obtain ⟨id, hid, rfl⟩ := isChild_iff.mp h
  rw [Text.lastSegment_child collection hid]

theorem append_lt_append_iff (xs : List Char) {ys zs : List Char} :
    xs ++ ys < xs ++ zs ↔ ys < zs := by
  induction xs with
  | nil => rfl
  | cons x xs ih =>
    rw [List.cons_append, List.cons_append, List.cons_lt_cons_iff, ih]
    exact ⟨fun h => (h.resolve_left (Char.lt_irrefl x)).2, fun h => Or.inr ⟨rfl, h⟩⟩

/-- **In one collection, documents come in order of their ids.** -/
theorem id_lt_of_isChild {collection path later : String} (h : isChild collection path)
    (h' : isChild collection later) (lt : path < later) :
    Text.lastSegment path < Text.lastSegment later := by
  rw [eq_child_of_isChild h, eq_child_of_isChild h', String.lt_iff, String.toList_append,
    String.toList_append (s := collection ++ "/"), append_lt_append_iff] at lt
  exact String.lt_iff.mpr lt

/-! ## Documents that match -/

/-- **Whether every filter can be tried on a document's data, and holds.** -/
def holds (filters : List Filter) (data : Fields) : Bool :=
  match satisfies data filters with
  | .ok kept => kept
  | .error _ => false

/-- **What is selected is what every filter holds of, with its data and its id.** -/
theorem select_eq_ok {filters : List Filter} : ∀ {m : Assoc Fields} {docs : List Snapshot},
    select filters m = .ok docs →
      docs = (m.filter fun p => holds filters p.2).map fun p => Snapshot.of p.1 p.2
  | [], docs, h => (Except.ok.inj h).symm
  | (path, data) :: m, docs, h => by
      rw [select] at h
      cases tried : satisfies data filters with
      | error e =>
        rw [tried] at h
        cases h
      | ok kept =>
        cases later : select filters m with
        | error e =>
          rw [tried, later] at h
          cases h
        | ok rest =>
          rw [tried, later] at h
          have ih := select_eq_ok later
          have first : holds filters data = kept := by rw [holds, tried]
          cases kept <;> simp [first, ← ih] <;> exact (Except.ok.inj h).symm

variable {L : Type}

/-- **The documents that match a query**, by path: those directly in its collection that every
filter holds of. -/
def matching (s : Store L) (q : QueryRef) : Assoc Fields :=
  s.documents.members.filter fun p => isChild q.path p.1 && holds q.filters p.2

theorem isChild_of_mem_matching {s : Store L} {q : QueryRef} {p : String × Fields}
    (h : p ∈ s.matching q) : isChild q.path p.1 := by
  have kept := (List.mem_filter.mp h).2
  rw [Bool.and_eq_true] at kept
  exact kept.1

/-- **A query that finds anything finds the documents that match it.** -/
theorem runQuery_eq_ok {s : Store L} {q : QueryRef} {docs : List Snapshot}
    (h : s.runQuery q = .ok docs) :
    docs = (s.matching q).map fun p => Snapshot.of p.1 p.2 := by
  rw [runQuery] at h
  split at h
  · rw [select_eq_ok h, children_eq_filter s.documents.ascending, List.filter_filter]
    simp only [matching, Bool.and_comm]
  · cases h

/-- **Documents that match come in strictly ascending order of their ids.** -/
theorem pairwise_id_matching (s : Store L) (q : QueryRef) :
    (s.matching q).Pairwise fun p p' => Text.lastSegment p.1 < Text.lastSegment p'.1 :=
  (s.documents.ascending.filter _).imp_of_mem fun h h' lt =>
    id_lt_of_isChild (isChild_of_mem_matching h) (isChild_of_mem_matching h') lt

end Store

end DocDispatch
