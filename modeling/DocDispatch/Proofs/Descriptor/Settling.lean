import DocDispatch.Proofs.Descriptor.Reading
import DocDispatch.Proofs.Descriptor.Rules

/-!
# Proofs/Descriptor/Settling — readers that go through the rules in order

    ├── x settles ──┼── f a settles ──┤
    start          mid               stop

A reader *settles* a stretch of the rules when it succeeds only if all of them are kept and fails
only as the first of them that is broken.  One reader after another settles one stretch after
another (`Settles.bind`), and a list that is read item by item the rules for its items
(`settles_mapM`).
-/

namespace DocDispatch

namespace Descriptor

/-- The first place of a stage. -/
abbrev stage (k : ℕ) : ℕ ×ₗ ℕ := toLex (k, 0)

section

variable {α β : Type} {broken : Rule → Option DescriptorError} {start mid stop : ℕ ×ₗ ℕ}
  {x : Checked α} {r : Rule}

/-- No rule from one place in the order up to another is broken. -/
def Kept (broken : Rule → Option DescriptorError) (start stop : ℕ ×ₗ ℕ) : Prop :=
  ∀ s : Rule, start ≤ s.position → s.position < stop → broken s = none

/-- **A reader settles the rules from one place in the order up to another**: it succeeds only if
none of them is broken, and fails only as the first of them that is. -/
structure Settles (broken : Rule → Option DescriptorError) (start stop : ℕ ×ₗ ℕ)
    (x : Checked α) : Prop where
  passed : ∀ a, x = .ok a → Kept broken start stop
  failed : ∀ e, x = .error e → ∃ r, broken r = some e ∧ Kept broken start r.position

/-- What is kept up to a place and from there on is kept throughout. -/
theorem Kept.trans (early : Kept broken start mid) (late : Kept broken mid stop) :
    Kept broken start stop := fun s after before =>
  (lt_or_ge s.position mid).elim (early s after) fun later => late s later before

/-- **One reader after another** settles what the one settles and then what the other does. -/
theorem Settles.bind {f : α → Checked β} (first : Settles broken start mid x)
    (next : ∀ a, x = .ok a → Settles broken mid stop (f a)) :
    Settles broken start stop (x >>= f) where
  passed b done := by
    obtain ⟨a, passed, done⟩ := bind_eq_ok_iff.mp done
    exact (first.passed a passed).trans ((next a passed).passed b done)
  failed e fails := by
    rcases bind_eq_error_iff.mp fails with fails | ⟨a, passed, fails⟩
    · exact first.failed e fails
    · obtain ⟨r, isBroken, kept⟩ := (next a passed).failed e fails
      exact ⟨r, isBroken, (first.passed a passed).trans kept⟩

/-- No rule is inside an empty stretch. -/
theorem kept_empty : Kept broken start start := fun _ after before =>
  absurd before (not_lt.mpr after)

/-- One that is kept is kept up to the next rule. -/
theorem kept_rule (r : Rule) (next : ∀ s : Rule, r.position < s.position → stop ≤ s.position)
    (kept : broken r = none) : Kept broken r.position stop := by
  intro s after before
  rcases eq_or_lt_of_le after with same | later
  · rwa [← Rule.position_injective same]
  · exact absurd before (not_lt.mpr (next s later))

/-- **A reader for one rule, with which there is nothing else to settle.** -/
theorem Settles.of_rule (r : Rule) (reads : ∀ e, x = .error e ↔ broken r = some e)
    (next : ∀ s : Rule, r.position < s.position → stop ≤ s.position) :
    Settles broken r.position stop x where
  passed a done := by
    refine kept_rule r next (Option.eq_none_iff_forall_ne_some.mpr fun e isBroken => ?_)
    rw [(reads e).mpr isBroken] at done
    cases done
  failed e fails := ⟨r, (reads e).mp fails, kept_empty⟩

/-- **Where no rule is broken there is nothing to fail with.** -/
theorem Settles.of_kept (kept : Kept broken start stop) (a : α) :
    Settles broken start stop (.ok a : Checked α) where
  passed _ _ := kept
  failed _ fails := nomatch fails

/-- **A broken rule settles any stretch that begins with it.** -/
theorem Settles.of_broken {e : DescriptorError} (r : Rule) (isBroken : broken r = some e) :
    Settles broken r.position stop (.error e : Checked α) where
  passed _ done := nomatch done
  failed _ fails := by
    cases fails
    exact ⟨r, isBroken, kept_empty⟩

/-- Rules that are kept need no reader. -/
theorem Settles.after (kept : Kept broken start mid) (rest : Settles broken mid stop x) :
    Settles broken start stop x :=
  (Settles.of_kept kept ()).bind fun _ _ => rest

/-- Reading nothing settles nothing. -/
theorem Settles.done (a : α) : Settles broken start start (.ok a : Checked α) :=
  .of_kept kept_empty a

/-- What becomes of the result makes no difference. -/
theorem Settles.map (f : α → β) (settles : Settles broken start stop x) :
    Settles broken start stop (x.map f) := by
  cases x with
  | error e =>
    refine ⟨fun _ done => (nomatch done), fun e' fails => settles.failed e' ?_⟩
    cases fails
    rfl
  | ok a => exact ⟨fun _ _ => settles.passed a rfl, fun _ fails => nomatch fails⟩

/-! ## Rules that follow one another -/

/-- Behind a place comes the next one of its stage, at the earliest. -/
theorem succ_le {k i : ℕ} {p : ℕ ×ₗ ℕ} (later : toLex (k, i) < p) : toLex (k, i + 1) ≤ p := by
  rw [Prod.Lex.lt_iff] at later
  rw [Prod.Lex.le_iff]
  simp only [ofLex_toLex] at later ⊢
  omega

/-- Between two stages there is nothing but what belongs to the first. -/
theorem exists_index {k n : ℕ} {p : ℕ ×ₗ ℕ} (after : toLex (k, n) ≤ p)
    (before : p < stage (k + 1)) : ∃ i, n ≤ i ∧ p = toLex (k, i) := by
  rw [Prod.Lex.le_iff] at after
  rw [Prod.Lex.lt_iff] at before
  simp only [ofLex_toLex] at after before
  refine ⟨(ofLex p).2, by omega, ?_⟩
  have same : (ofLex p).1 = k := by omega
  exact congrArg (fun k => toLex (k, (ofLex p).2)) same

/-- The stages at which there is a rule for every index. -/
def families : List ℕ := [1, 7, 10, 12, 13]

/-- At the other stages there is only one rule. -/
theorem stage_succ_le {k : ℕ} (single : k ∉ families) {s : Rule} (later : stage k < s.position) :
    stage (k + 1) ≤ s.position := by
  rw [Prod.Lex.lt_iff] at later
  rw [Prod.Lex.le_iff]
  cases s <;> simp_all [Rule.position, families] <;> omega

/-- **A family of rules that is kept from an index on is kept to the end of its stage.** -/
theorem kept_family {k n : ℕ} (rule : ℕ → Rule) (place : ∀ i, (rule i).position = toLex (k, i))
    (kept : ∀ i, n ≤ i → broken (rule i) = none) :
    Kept broken (toLex (k, n)) (stage (k + 1)) := by
  intro s after before
  obtain ⟨i, late, same⟩ := exists_index after before
  rw [Rule.position_injective (same.trans (place i).symm)]
  exact kept i late

/-- **A list is read item by item, with a rule for each.** -/
theorem settles_mapM {γ : Type} {k : ℕ} (rule : ℕ → Rule)
    (place : ∀ i, (rule i).position = toLex (k, i)) {f : β → Checked γ}
    {fault : β → Option DescriptorError} (reads : ∀ b e, f b = .error e ↔ fault b = some e)
    {items : List β} {n : ℕ} (seen : ∀ i, broken (rule (n + i)) = items[i]?.bind fault) :
    Settles broken (toLex (k, n)) (stage (k + 1)) (items.mapM f) := by
  induction items generalizing n with
  | nil =>
    refine .of_kept (kept_family rule place fun i late => ?_) []
    rw [← Nat.add_sub_of_le late, seen]
    rfl
  | cons b items ih =>
    rw [List.mapM_cons]
    have first : Settles broken (toLex (k, n)) (toLex (k, n + 1)) (f b) := by
      have here : ∀ e, f b = .error e ↔ broken (rule n) = some e := fun e => by
        rw [reads, ← Nat.add_zero n, seen 0]
        rfl
      rw [← place n]
      exact .of_rule (rule n) here fun s later => succ_le (place n ▸ later)
    have rest : Settles broken (toLex (k, n + 1)) (stage (k + 1)) (items.mapM f) := by
      refine ih fun i => ?_
      rw [Nat.add_assoc, Nat.add_comm 1, seen]
      rfl
    exact first.bind fun _ _ => rest.bind fun _ _ => .done _

end

end Descriptor

end DocDispatch
