import DocDispatch.Proofs.FieldPath.Write

/-!
# Proofs/FieldPath/Update — what an update leaves, and what the same one leaves again

    update m [a, a.b, a.c, d]     write a, then a.b, then a.c, then d

An update is its writes, in the order of their keys, and in that order nothing is written above a
path after it.  So an update leaves what was written last at each path, objects above, and the rest
as it was (`Updated`).  The same update again wipes at `a` what it had written below, and then
writes just that once more; what is left is what any part of it left, updated by the whole
(`update_update_of_sublist`).
-/

namespace DocDispatch.FieldPath

open Json (Value)

/-- Whether a path goes on below another one. -/
def Below (p q : List String) : Prop := q <+: p ∧ q ≠ p

instance (p q : List String) : Decidable (Below p q) := inferInstanceAs (Decidable (_ ∧ _))

variable {p : List String} {changes : Fields}

theorem update_cons (m : Fields) (c : String × Value) (changes : Fields) :
    update m (c :: changes) = update (write (steps c.1) c.2 m) changes := rfl

/-! ## Reading after an update -/

/-- **What is apart from every change reads as before.** -/
theorem read_update_of_apart (h : ∀ c ∈ changes, Apart p (steps c.1)) (m : Fields) :
    read (update m changes) p = read m p := by
  induction changes generalizing m with
  | nil => rfl
  | cons c changes ih =>
    obtain ⟨first, rest⟩ := List.forall_mem_cons.mp h
    rw [update_cons, ih rest, read_write_of_apart c.2 m first]

/-- An object stays one if nothing is written at its path or above. -/
theorem exists_read_update (h : ∀ c ∈ changes, ¬ steps c.1 <+: p) (m : Fields)
    (there : ∃ o, read m p = some (.object o)) :
    ∃ o, read (update m changes) p = some (.object o) := by
  induction changes generalizing m with
  | nil => exact there
  | cons c changes ih =>
    obtain ⟨first, rest⟩ := List.forall_mem_cons.mp h
    refine ih rest (write (steps c.1) c.2 m) ?_
    by_cases below : p <+: steps c.1
    · exact exists_read_write c.2 m below fun same => first (same ▸ List.prefix_rfl)
    · rwa [read_write_of_apart c.2 m ⟨below, first⟩]

/-- **An update up to one of its writes, and the writes after that**, none of which is at its path
or above. -/
theorem exists_update_eq (ascending : changes.Ascending) {c : String × Value} (h : c ∈ changes) :
    ∃ before after, changes = before ++ c :: after ∧ (∀ d ∈ after, ¬ steps d.1 <+: steps c.1) ∧
      ∀ m, update m changes = update (write (steps c.1) c.2 (update m before)) after := by
  obtain ⟨before, after, rfl⟩ := List.append_of_mem h
  have order := (List.pairwise_append.mp (pairwise_of_ascending ascending)).2.1
  exact ⟨before, after, rfl, (List.pairwise_cons.mp order).1, fun _ => List.foldl_append⟩

/-- **What an update leaves of a document**, by the steps to it. -/
structure Updated (m changes m' : Fields) : Prop where
  /-- What was written is there, unless something else was written below it… -/
  written : ∀ c ∈ changes, (∀ d ∈ changes, ¬ Below (steps d.1) (steps c.1)) →
    read m' (steps c.1) = some c.2
  /-- …what is apart from all that was written is as it was… -/
  kept : ∀ p, (∀ c ∈ changes, Apart p (steps c.1)) → read m' p = read m p
  /-- …and above what was written there are objects. -/
  opened : ∀ c ∈ changes, ∀ p, Below (steps c.1) p → ∃ o, read m' p = some (.object o)

/-- **An update is what its changes say**, in key order and for any document. -/
theorem updated (ascending : changes.Ascending) (m : Fields) :
    Updated m changes (update m changes) := by
  refine ⟨fun c mem last => ?written, fun p apart => ?kept, fun c mem p below => ?opened⟩
  case written =>
    obtain ⟨before, after, rfl, later, update⟩ := exists_update_eq ascending mem
    rw [update, read_update_of_apart, read_write_self c.2 _ (steps_ne_nil c.1)]
    intro d hd
    refine ⟨fun begins => last d (by simp [hd]) ⟨begins, fun same => ?_⟩, later d hd⟩
    exact later d hd (same ▸ List.prefix_rfl)
  case kept => exact read_update_of_apart apart m
  case opened =>
    obtain ⟨before, after, -, later, update⟩ := exists_update_eq ascending mem
    rw [update]
    exact exists_read_update (fun d hd begins => later d hd (begins.trans below.1)) _
      (exists_read_write c.2 _ below.1 below.2)

/-! ## Updating again -/

/-- A write that nothing was written above wipes what was written at its path or below, and can be
done before the rest. -/
theorem write_update (h : ∀ c ∈ changes, ¬ Below p (steps c.1)) (start : p ≠ []) (v : Value)
    (m : Fields) :
    write p v (update m changes) =
      update (write p v m) (changes.filter fun c => ¬ p <+: steps c.1) := by
  induction changes generalizing m with
  | nil => rfl
  | cons c changes ih =>
    obtain ⟨first, rest⟩ := List.forall_mem_cons.mp h
    rw [update_cons, ih rest]
    by_cases below : p <+: steps c.1
    · rw [write_write_of_isPrefix v c.2 m start below,
        List.filter_cons_of_neg (by simpa using below)]
    · have apart : Apart p (steps c.1) :=
        ⟨below, fun begins => first ⟨begins, fun same => below (same ▸ List.prefix_rfl)⟩⟩
      rw [write_comm v c.2 m apart, List.filter_cons_of_pos (by simpa using below), update_cons]

/-- **An update makes nothing of a part of it that was done before.** -/
theorem update_update_of_sublist
    (order : changes.Pairwise fun c d => ¬ steps d.1 <+: steps c.1) {part : Fields}
    (h : part.Sublist changes) (m : Fields) :
    update (update m part) changes = update m changes := by
  induction changes generalizing part m with
  | nil =>
    rw [List.sublist_nil.mp h]
    rfl
  | cons c changes ih =>
    obtain ⟨first, rest⟩ := List.pairwise_cons.mp order
    have above : ∀ d ∈ part, ¬ Below (steps c.1) (steps d.1) := fun d hd below => by
      rcases List.mem_cons.mp (h.subset hd) with rfl | hd
      · exact below.2 rfl
      · exact first d hd below.1
    have left : (part.filter fun d => ¬ steps c.1 <+: steps d.1).Sublist changes := by
      have filtered := h.filter fun d => ¬ steps c.1 <+: steps d.1
      rw [List.filter_cons_of_neg (by simp)] at filtered
      exact filtered.trans List.filter_sublist
    rw [update_cons, write_update above (steps_ne_nil c.1), ih rest left, update_cons]

/-- **The same update again changes nothing.** -/
theorem update_update (ascending : changes.Ascending) (m : Fields) :
    update (update m changes) changes = update m changes :=
  update_update_of_sublist (pairwise_of_ascending ascending) (List.Sublist.refl changes) m

end DocDispatch.FieldPath
