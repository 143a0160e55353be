/-!
# Assoc — finite maps from text, as members in key order

A JSON object, the documents of a store and the entities of a collection are read in ascending
order of their keys.  Each is a list of members in which keys strictly increase (`Ascending`):
`insert` replaces a member or puts a new one at its place, `erase` drops one, and both keep the
order.  `OrderedMap` carries the order as a proof, for the maps that are not nested in a value.
-/

namespace DocDispatch

/-- The members of a finite map whose keys are texts. -/
abbrev Assoc (α : Type) := List (String × α)

namespace Assoc

variable {α : Type}

/-- Keys strictly increase along the members, so no key occurs twice. -/
def Ascending (m : Assoc α) : Prop := m.Pairwise fun a b => a.1 < b.1

/-- The value under a key. -/
def get? : Assoc α → String → Option α
  | [], _ => none
  | (k', v) :: m, k => if k' = k then some v else get? m k

def contains (m : Assoc α) (k : String) : Bool := (get? m k).isSome

/-- Puts `v` under `k`: in place of the value already there, else before the first larger key. -/
def insert (k : String) (v : α) : Assoc α → Assoc α
  | [] => [(k, v)]
  | (k', v') :: m =>
    if k = k' then (k, v) :: m
    else if k < k' then (k, v) :: (k', v') :: m
    else (k', v') :: insert k v m

def erase (m : Assoc α) (k : String) : Assoc α := m.filter fun p => p.1 ≠ k

/-- All members of `r` put over `m`. -/
def merge (m r : Assoc α) : Assoc α := r.foldl (fun acc p => insert p.1 p.2 acc) m

/-- Members in any order, of which the last one under a key counts. -/
def ofList (members : List (String × α)) : Assoc α := merge [] members

/-! ## Reading after a change -/

theorem get?_insert_self (k : String) (v : α) : ∀ m : Assoc α, get? (insert k v m) k = some v
  | [] => by simp [insert, get?]
  | (k', v') :: m => by
      unfold insert
      split
      · simp [get?]
      · split
        · simp [get?]
        · rename_i h _
          simp [get?, Ne.symm h, get?_insert_self k v m]

theorem get?_insert_of_ne {j k : String} (h : j ≠ k) (v : α) :
    ∀ m : Assoc α, get? (insert k v m) j = get? m j
  | [] => by simp [insert, get?, Ne.symm h]
  | (k', v') :: m => by
      unfold insert
      split
      · rename_i hk
        subst hk
        simp [get?, Ne.symm h]
      · split
        · simp [get?, Ne.symm h]
        · by_cases hj : k' = j <;> simp [get?, hj, get?_insert_of_ne h v m]

theorem get?_erase_self (m : Assoc α) (k : String) : get? (erase m k) k = none := by
  induction m with
  | nil => rfl
  | cons p m ih =>
    obtain ⟨k', v'⟩ := p
    by_cases h : k' = k
    · simpa [erase, h] using ih
    · have : erase ((k', v') :: m) k = (k', v') :: erase m k := by simp [erase, h]
      rw [this, get?, if_neg h, ih]

theorem get?_erase_of_ne (m : Assoc α) {j k : String} (h : j ≠ k) :
    get? (erase m k) j = get? m j := by
  induction m with
  | nil => rfl
  | cons p m ih =>
    obtain ⟨k', v'⟩ := p
    by_cases hk : k' = k
    · have : erase ((k', v') :: m) k = erase m k := by simp [erase, hk]
      rw [this, ih, get?, if_neg (by rw [hk]; exact Ne.symm h)]
    · have : erase ((k', v') :: m) k = (k', v') :: erase m k := by simp [erase, hk]
      rw [this, get?, get?, ih]

/-! ## The order is kept -/

theorem mem_insert {k : String} {v : α} {p : String × α} :
    ∀ {m : Assoc α}, p ∈ insert k v m → p = (k, v) ∨ p ∈ m
  | [], h => by simpa [insert] using h
  | (k', v') :: m, h => by
      unfold insert at h
      split at h
      · rcases List.mem_cons.mp h with h | h
        · exact Or.inl h
        · exact Or.inr (List.mem_cons_of_mem _ h)
      · split at h
        · exact List.mem_cons.mp h
        · rcases List.mem_cons.mp h with h | h
          · exact Or.inr (h ▸ List.mem_cons_self)
          · rcases mem_insert h with h | h
            · exact Or.inl h
            · exact Or.inr (List.mem_cons_of_mem _ h)

theorem lt_of_not_lt_of_ne {a b : String} (h : ¬ a < b) (hne : a ≠ b) : b < a :=
  Decidable.byContradiction fun hba => hne (String.le_antisymm hba h)

theorem Ascending.insert (k : String) (v : α) :
    ∀ {m : Assoc α}, Ascending m → Ascending (insert k v m)
  | [], _ => by simp [Assoc.insert, Ascending]
  | (k', v') :: m, h => by
      obtain ⟨hhead, htail⟩ := List.pairwise_cons.mp h
      unfold Assoc.insert
      split
      · rename_i hk
        exact List.pairwise_cons.mpr ⟨fun p hp => hk ▸ hhead p hp, htail⟩
      · split
        · rename_i hlt
          refine List.pairwise_cons.mpr ⟨fun p hp => ?_, h⟩
          rcases List.mem_cons.mp hp with rfl | hp
          · exact hlt
          · exact String.lt_trans hlt (hhead p hp)
        · rename_i hne hlt
          refine List.pairwise_cons.mpr ⟨fun p hp => ?_, Ascending.insert k v htail⟩
          rcases mem_insert hp with rfl | hp
          · exact lt_of_not_lt_of_ne hlt hne
          · exact hhead p hp

theorem Ascending.merge {m : Assoc α} (h : Ascending m) :
    ∀ r : Assoc α, Ascending (merge m r)
  | [] => h
  | (k, v) :: r => (h.insert k v).merge r

theorem ascending_ofList (members : List (String × α)) : Ascending (ofList members) :=
  Ascending.merge List.Pairwise.nil members

end Assoc

/-- **A finite map from text whose members are in key order.** -/
structure OrderedMap (α : Type) where
  members : Assoc α
  ascending : members.Ascending
deriving DecidableEq

namespace OrderedMap

variable {α : Type}

def empty : OrderedMap α := ⟨[], List.Pairwise.nil⟩

instance : Inhabited (OrderedMap α) := ⟨empty⟩

def get? (m : OrderedMap α) (k : String) : Option α := m.members.get? k

def contains (m : OrderedMap α) (k : String) : Bool := m.members.contains k

def insert (m : OrderedMap α) (k : String) (v : α) : OrderedMap α :=
  ⟨m.members.insert k v, m.ascending.insert k v⟩

/-- Members in any order, of which the last one under a key counts. -/
def ofList (members : List (String × α)) : OrderedMap α :=
  ⟨Assoc.ofList members, Assoc.ascending_ofList members⟩

def size (m : OrderedMap α) : Nat := m.members.length

end OrderedMap

end DocDispatch
