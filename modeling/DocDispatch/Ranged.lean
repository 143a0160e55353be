/-!
# Ranged — integers between two bounds

`Ranged low high` holds the integers from `low` up to, but not including, `high`.  JSON integers and
the integers of a filter are ranged, so that a value in hand never needs a side condition on its
size.
-/

namespace DocDispatch

/-- An integer from `low` up to, but not including, `high`. -/
structure Ranged (low high : Int) where
  val : Int
  low_le : low ≤ val
  lt_high : val < high
deriving DecidableEq

namespace Ranged

variable {low high : Int}

def ofInt? (n : Int) : Option (Ranged low high) :=
  if h : low ≤ n ∧ n < high then some ⟨n, h.1, h.2⟩ else none

theorem ofInt?_val (n : Ranged low high) : ofInt? n.val = some n := by
  simp [ofInt?, n.low_le, n.lt_high]

theorem val_of_ofInt? {n : Int} {r : Ranged low high} (h : ofInt? n = some r) : r.val = n := by
  unfold ofInt? at h
  split at h
  · cases h
    rfl
  · cases h

/-- The same integer under weaker bounds. -/
def widen {low' high' : Int} (hl : low' ≤ low) (hh : high ≤ high') (n : Ranged low high) :
    Ranged low' high' :=
  ⟨n.val, Int.le_trans hl n.low_le, Int.lt_of_lt_of_le n.lt_high hh⟩

end Ranged

end DocDispatch
