import DocDispatch.FieldPath
import DocDispatch.Proofs.Assoc
import DocDispatch.Proofs.Text.Path

/-!
# Proofs/FieldPath/Write — one write after another, by where their paths part

    after a write to q            reading p          writing p
    q begins with p               what is there      the write to q is lost
    …and goes on                  an object          likewise
    neither begins with other     as before          in either order the same

Writing goes down a path and makes objects where it finds none; reading goes down a path and gives
nothing where it finds none.  A place without an object and a place with an empty one look the same
to both (`bind_below`), so a write is a function of what stands in a place (`placed`), and what two
paths have in common can be taken off step by step.

The keys of a map of changes come in ascending order as texts, and a text whose steps begin another
is not above it.  So no change writes above one that came before it (`pairwise_of_ascending`).
-/

namespace DocDispatch.FieldPath

open Json (Value)

/-- Neither path begins with the other. -/
def Apart (p q : List String) : Prop := ¬ p <+: q ∧ ¬ q <+: p

instance (p q : List String) : Decidable (Apart p q) := inferInstanceAs (Decidable (_ ∧ _))

/-- Being apart is mutual. -/
theorem Apart.symm {p q : List String} (h : Apart p q) : Apart q p := ⟨h.2, h.1⟩

theorem Apart.ne_nil {p q : List String} (h : Apart p q) : q ≠ [] := fun empty =>
  h.2 (empty ▸ List.nil_prefix)

/-- What has a step in common is apart after it. -/
theorem Apart.tail {k : String} {p q : List String} (h : Apart (k :: p) (k :: q)) : Apart p q :=
  ⟨fun begins => h.1 (List.cons_prefix_cons.mpr ⟨rfl, begins⟩),
    fun begins => h.2 (List.cons_prefix_cons.mpr ⟨rfl, begins⟩)⟩

/-! ## What stands in a place -/

/-- The object in a place, an empty one where there is none. -/
def opened (old : Option Value) : Fields := (old.bind Value.asObject?).getD []

theorem opened_object (m : Fields) : opened (some (.object m)) = m := rfl

/-- What stands in a place after a write below it. -/
def placed : List String → Value → Option Value → Value
  | [], v, _ => v
  | k :: ks, v, old => .object ((opened old).insert k (placed ks v ((opened old).get? k)))

/-- Writing opens the member on the way and places the value below it. -/
theorem write_cons (k : String) (ks : List String) (v : Value) (m : Fields) :
    write (k :: ks) v m = m.insert k (placed ks v (m.get? k)) := by
  induction ks generalizing k m with
  | nil => rfl
  | cons k' ks ih =>
    rw [write, ih]
    rfl

/-- **A write is what happens to the object it writes in.** -/
theorem object_write {ks : List String} (h : ks ≠ []) (v : Value) (m : Fields) :
    .object (write ks v m) = placed ks v (some (.object m)) := by
  cases ks with
  | nil => exact absurd rfl h
  | cons k ks =>
    rw [write_cons]
    rfl

/-- Where there is no object, nothing is below, as in an empty one. -/
theorem bind_below (old : Option Value) (k : String) (ks : List String) :
    (old.bind fun v => below v (k :: ks)) = ((opened old).get? k).bind fun v => below v ks := by
  cases old with
  | none => rfl
  | some v => cases v <;> rfl

theorem below_placed_cons (k : String) (ks : List String) (v : Value) (old : Option Value)
    (p : List String) :
    below (placed (k :: ks) v old) (k :: p) = below (placed ks v ((opened old).get? k)) p := by
  rw [placed, below, Value.get?, Assoc.get?_insert_self]
  rfl

/-! ## Reading after a write -/

/-- **What is placed is there**… -/
theorem below_placed_self (ks : List String) (v : Value) (old : Option Value) :
    below (placed ks v old) ks = some v := by
  induction ks generalizing old with
  | nil => rfl
  | cons k ks ih => rw [below_placed_cons, ih]

/-- …what is apart stays where it was… -/
theorem below_placed_of_apart {p q : List String} (h : Apart p q) (v : Value)
    (old : Option Value) : below (placed q v old) p = old.bind fun u => below u p := by
  induction p generalizing q old with
  | nil => exact absurd List.nil_prefix h.1
  | cons j p ih =>
    cases q with
    | nil => exact absurd rfl h.ne_nil
    | cons k q =>
      rw [bind_below]
      by_cases same : j = k
      · subst same
        rw [below_placed_cons, ih h.tail]
      · rw [placed, below, Value.get?, Assoc.get?_insert_of_ne same]

/-- …and on the way there are objects. -/
theorem exists_below_placed {p q : List String} (h : p <+: q) (other : p ≠ q) (v : Value)
    (old : Option Value) : ∃ m, below (placed q v old) p = some (.object m) := by
  induction p generalizing q old with
  | nil =>
    cases q with
    | nil => exact absurd rfl other
    | cons k q => exact ⟨_, rfl⟩
  | cons j p ih =>
    cases q with
    | nil => exact absurd h (by simp)
    | cons k q =>
      obtain ⟨rfl, tail⟩ := List.cons_prefix_cons.mp h
      rw [below_placed_cons]
      exact ih tail (fun same => other (same ▸ rfl)) _

section

variable {p q : List String} (v w : Value) (m : Fields)

/-- **What is written is read**… -/
theorem read_write_self (h : p ≠ []) : read (write p v m) p = some v := by
  rw [read, object_write h, below_placed_self]

/-- …a path apart reads as before… -/
theorem read_write_of_apart (h : Apart p q) : read (write q v m) p = read m p := by
  rw [read, object_write h.ne_nil, below_placed_of_apart h]
  rfl

/-- …and on the way there are objects. -/
theorem exists_read_write (h : p <+: q) (other : p ≠ q) :
    ∃ o, read (write q v m) p = some (.object o) := by
  have more : q ≠ [] := fun empty => other (by rw [empty] at h ⊢; exact List.prefix_nil.mp h)
  rw [read, object_write more]
  exact exists_below_placed h other v _

end

/-! ## Writing after a write -/

/-- **Placing above hides what was placed below.** -/
theorem placed_placed_of_isPrefix {p q : List String} (h : p <+: q) (v w : Value)
    (old : Option Value) : placed p v (some (placed q w old)) = placed p v old := by
  induction p generalizing q old with
  | nil => rfl
  | cons j p ih =>
    cases q with
    | nil => exact absurd h (by simp)
    | cons k q =>
      obtain ⟨rfl, tail⟩ := List.cons_prefix_cons.mp h
      simp only [placed, opened_object, Assoc.get?_insert_self, Assoc.insert_insert_self, ih tail]

/-- …and placing apart may be done in either order. -/
theorem placed_comm {p q : List String} (h : Apart p q) (v w : Value) (old : Option Value) :
    placed p v (some (placed q w old)) = placed q w (some (placed p v old)) := by
  induction p generalizing q old with
  | nil => exact absurd List.nil_prefix h.1
  | cons j p ih =>
    cases q with
    | nil => exact absurd rfl h.ne_nil
    | cons k q =>
      by_cases same : j = k
      · subst same
        simp only [placed, opened_object, Assoc.get?_insert_self, Assoc.insert_insert_self,
          ih h.tail]
      · simp only [placed, opened_object, Assoc.get?_insert_of_ne same,
          Assoc.get?_insert_of_ne (Ne.symm same), Assoc.insert_comm same]

section

variable {p q : List String} (v w : Value) (m : Fields)

/-- **A write wipes what was written at its path or below it**… -/
theorem write_write_of_isPrefix (start : p ≠ []) (h : p <+: q) :
    write p v (write q w m) = write p v m := by
  apply Value.object.inj
  rw [object_write start, object_write start, object_write (h.ne_nil start),
    placed_placed_of_isPrefix h]

/-- …and writes to paths that are apart can change places. -/
theorem write_comm (h : Apart p q) : write p v (write q w m) = write q w (write p v m) := by
  apply Value.object.inj
  rw [object_write h.symm.ne_nil, object_write h.ne_nil, object_write h.ne_nil,
    object_write h.symm.ne_nil, placed_comm h]

end

/-! ## The order of names -/

theorem steps_ne_nil (name : String) : steps name ≠ [] := by
  simp [steps, Text.split, Text.pieces_ne_nil]

/-- A name whose steps begin another's is not above it. -/
theorem not_lt_of_isPrefix {a b : String} (h : steps a <+: steps b) : ¬ b < a :=
  (Text.isPrefix_of_split h).le

/-- **No change is above one that comes before it.** -/
theorem pairwise_of_ascending {changes : Fields} (h : changes.Ascending) :
    changes.Pairwise fun c d => ¬ steps d.1 <+: steps c.1 :=
  h.imp fun lt above => not_lt_of_isPrefix above lt

end DocDispatch.FieldPath
