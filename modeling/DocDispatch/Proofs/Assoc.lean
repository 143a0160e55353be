import Mathlib.Data.List.Induction
import DocDispatch.Assoc

/-!
# Proofs/Assoc — a map in key order is its look-ups

Two lists of members in key order that answer every look-up alike are the same list
(`Ascending.ext`), so changes of maps are compared by what can be read afterwards.  Putting members
that are in key order over a map with smaller keys only appends them (`merge_eq_append`).
-/

namespace DocDispatch.Assoc

variable {α : Type}

instance (m : Assoc α) : Decidable m.Ascending := inferInstanceAs (Decidable (m.Pairwise _))

/-- Nothing is found under a key that no member has. -/
theorem get?_eq_none {k : String} : ∀ {m : Assoc α}, (∀ p ∈ m, p.1 ≠ k) → get? m k = none
  | [], _ => rfl
  | p :: m, h => by
      rw [get?, if_neg (h p List.mem_cons_self)]
      exact get?_eq_none fun q hq => h q (List.mem_cons_of_mem _ hq)

/-- What is found is a member. -/
theorem mem_of_get? {k : String} {v : α} : ∀ {m : Assoc α}, get? m k = some v → (k, v) ∈ m
  | (k', v') :: m, h => by
      rw [get?] at h
      split at h
      · rename_i same
        obtain rfl := Option.some.inj h
        exact same ▸ List.mem_cons_self
      · exact List.mem_cons_of_mem _ (mem_of_get? h)

/-- **Behind a member in key order nothing else has its key.** -/
theorem Ascending.get?_tail {p : String × α} {m : Assoc α} (h : Ascending (p :: m)) :
    get? m p.1 = none :=
  get?_eq_none fun q hq same =>
    String.lt_irrefl q.1 (same.symm ▸ (List.pairwise_cons.mp h).1 q hq)

/-- **The members of a map in key order are what can be looked up in it.** -/
theorem Ascending.get?_eq_some_iff {k : String} {v : α} : ∀ {m : Assoc α}, Ascending m →
    (get? m k = some v ↔ (k, v) ∈ m)
  | [], _ => by simp [get?]
  | (k', v') :: m, h => by
      have ih := get?_eq_some_iff (k := k) (v := v) h.of_cons
      have absent : get? m k' = none := h.get?_tail
      by_cases hk : k' = k
      · subst hk
        rw [absent] at ih
        simp [get?, ← ih, eq_comm]
      · simp [get?, hk, ih, Ne.symm hk]

/-- The first key of one map is not below the first key of another that has it too. -/
theorem not_lt_of_get?_eq {p q : String × α} {m m' : Assoc α} (h' : Ascending (q :: m'))
    (same : get? (p :: m) p.1 = get? (q :: m') p.1) : ¬ p.1 < q.1 := by
  intro below
  have absent : get? (q :: m') p.1 = none := get?_eq_none fun r hr equal => by
    rcases List.mem_cons.mp hr with rfl | hr
    · exact String.lt_irrefl _ (equal ▸ below)
    · exact String.lt_irrefl _ (equal ▸ String.lt_trans below ((List.pairwise_cons.mp h').1 r hr))
  rw [absent, get?, if_pos rfl] at same
  cases same

/-- **Maps in key order with the same look-ups are the same.** -/
theorem Ascending.ext : ∀ {m m' : Assoc α}, Ascending m → Ascending m' →
    (∀ k, get? m k = get? m' k) → m = m'
  | [], [], _, _, _ => rfl
  | [], p :: m', _, _, same => by simpa [get?] using same p.1
  | p :: m, [], _, _, same => by simpa [get?] using same p.1
  | p :: m, q :: m', h, h', same => by
      have key : p.1 = q.1 := Decidable.byContradiction fun other =>
        not_lt_of_get?_eq h (same q.1).symm
          (lt_of_not_lt_of_ne (not_lt_of_get?_eq h' (same p.1)) other)
      have value : p.2 = q.2 := by simpa [get?, key] using same p.1
      have tails (k : String) : get? m k = get? m' k := by
        by_cases hk : p.1 = k
        · rw [← hk, h.get?_tail, key, h'.get?_tail]
        · simpa [get?, hk, key ▸ hk] using same k
      rw [Prod.ext key value, Ascending.ext h.of_cons h'.of_cons tails]

/-! ## Putting one member after another -/

/-- **The later of two inserts under one key counts** — the earlier leaves no trace. -/
theorem insert_insert_self (k : String) (v w : α) :
    ∀ m : Assoc α, insert k v (insert k w m) = insert k v m
  | [] => by simp [insert]
  | (k', v') :: m => by
      have ih := insert_insert_self k v w m
      grind [insert]

/-- **Members with two keys can be put in either order, whatever the order of the map.** -/
theorem insert_comm {j k : String} (h : j ≠ k) (v w : α) :
    ∀ m : Assoc α, insert j v (insert k w m) = insert k w (insert j v m)
  | [] => by
      have connected {a b : String} : ¬ a < b → a ≠ b → b < a := lt_of_not_lt_of_ne
      have asymm {a b : String} : a < b → ¬ b < a := String.lt_asymm
      grind [insert]
  | (k', v') :: m => by
      have ih := insert_comm h v w m
      have connected {a b : String} : ¬ a < b → a ≠ b → b < a := lt_of_not_lt_of_ne
      have trans {a b c : String} : a < b → b < c → a < c := String.lt_trans
      have irrefl (a : String) : ¬ a < a := String.lt_irrefl a
      grind [insert]

/-- **Putting a member where it is already changes nothing.** -/
theorem Ascending.insert_of_get? {m : Assoc α} (h : Ascending m) {k : String} {v : α}
    (there : get? m k = some v) : Assoc.insert k v m = m := by
  refine Ascending.ext (h.insert k v) h fun j => ?_
  by_cases hj : j = k
  · rw [hj, get?_insert_self, there]
  · rw [get?_insert_of_ne hj]

/-- **A new member is put in at its place**, and nothing else is changed. -/
theorem Ascending.exists_insert_eq {k : String} (v : α) :
    ∀ {m : Assoc α}, Ascending m → get? m k = none →
      ∃ before after, m = before ++ after ∧ Assoc.insert k v m = before ++ (k, v) :: after
  | [], _, _ => ⟨[], [], rfl, rfl⟩
  | p :: m, h, absent => by
      have other : p.1 ≠ k := fun same => by
        rw [get?, if_pos same] at absent
        cases absent
      rw [get?, if_neg other] at absent
      rw [Assoc.insert, if_neg (Ne.symm other)]
      by_cases first : k < p.1
      · exact ⟨[], p :: m, rfl, by rw [if_pos first, List.nil_append]⟩
      · obtain ⟨before, after, rfl, put⟩ := Ascending.exists_insert_eq v h.of_cons absent
        exact ⟨p :: before, after, rfl, by rw [if_neg first, put, List.cons_append]⟩

/-! ## Members put over a map -/

/-- Inserting behind every other key appends, so that members that come in order are kept as they
come. -/
theorem insert_eq_append {k : String} (v : α) :
    ∀ {m : Assoc α}, (∀ p ∈ m, p.1 < k) → insert k v m = m ++ [(k, v)]
  | [], _ => rfl
  | p :: m, h => by
      have below : p.1 < k := h p List.mem_cons_self
      have other : k ≠ p.1 := fun same => String.lt_irrefl k (same.symm ▸ below)
      have later : ¬ k < p.1 := fun above => String.lt_irrefl k (String.lt_trans above below)
      rw [insert, if_neg other, if_neg later,
        insert_eq_append v fun q hq => h q (List.mem_cons_of_mem _ hq), List.cons_append]

/-- **Merging what comes behind in order appends it** — nothing is replaced and nothing moves. -/
theorem merge_eq_append : ∀ {r m : Assoc α}, Ascending (m ++ r) → merge m r = m ++ r
  | [], m, _ => (List.append_nil m).symm
  | (k, v) :: r, m, h => by
      have below : ∀ p ∈ m, p.1 < k := fun p hp =>
        (List.pairwise_append.mp h).2.2 p hp (k, v) List.mem_cons_self
      have moved : m ++ (k, v) :: r = (m ++ [(k, v)]) ++ r := by simp
      change merge (insert k v m) r = _
      rw [insert_eq_append v below, moved]
      exact merge_eq_append (moved ▸ h)

/-- …and members in order are the map they make. -/
theorem Ascending.ofList_eq {m : Assoc α} (h : Ascending m) : ofList m = m := merge_eq_append h

theorem ascending_pair {k k' : String} (h : k < k') (v v' : α) : Ascending [(k, v), (k', v')] :=
  List.pairwise_pair.mpr h

/-- **No key occurs twice in order.** -/
theorem Ascending.distinct {m : Assoc α} (h : Ascending m) : m.Pairwise fun p q => p.1 ≠ q.1 := by
  refine h.imp fun {p q} below same => ?_
  rw [same] at below
  exact String.lt_irrefl q.1 below

/-- **What was put over a map hides what was there.** -/
theorem get?_merge : ∀ {r : Assoc α}, (r.Pairwise fun p q => p.1 ≠ q.1) →
    ∀ (m : Assoc α) (k : String), get? (merge m r) k = (get? r k).or (get? m k)
  | [], _, m, k => rfl
  | (k', v) :: r, h, m, k => by
      change get? (merge (insert k' v m) r) k = _
      rw [get?_merge h.of_cons]
      by_cases hk : k' = k
      · subst hk
        have absent : get? r k' = none :=
          get?_eq_none fun q hq => ((List.pairwise_cons.mp h).1 q hq).symm
        rw [absent, get?_insert_self, get?, if_pos rfl]
        rfl
      · rw [get?_insert_of_ne (Ne.symm hk), get?, if_neg hk]

/-- **Members with keys of their own are found wherever they stood.** -/
theorem get?_ofList {r : Assoc α} (h : r.Pairwise fun p q => p.1 ≠ q.1) (k : String) :
    get? (ofList r) k = get? r k := by
  rw [ofList, get?_merge h, get?, Option.or_none]

/-- The last member is inserted last. -/
theorem ofList_concat (r : Assoc α) (p : String × α) :
    ofList (r ++ [p]) = insert p.1 p.2 (ofList r) := by
  rw [ofList, merge, List.foldl_append]
  rfl

/-- **Of the members under a key the last one counts.** -/
theorem get?_ofList_eq_some_iff {r : Assoc α} {k : String} {v : α} : get? (ofList r) k = some v ↔
    ∃ before after, r = before ++ (k, v) :: after ∧ ∀ p ∈ after, p.1 ≠ k := by
  constructor
  · intro h
    induction r using List.reverseRecOn with
    | nil => cases h
    | append_singleton r p ih =>
      rw [ofList_concat] at h
      by_cases same : k = p.1
      · rw [same, get?_insert_self, Option.some_inj] at h
        exact ⟨r, [], by rw [same, ← h], by simp⟩
      · rw [get?_insert_of_ne same] at h
        obtain ⟨before, after, rfl, others⟩ := ih h
        refine ⟨before, after ++ [p], by simp, ?_⟩
        exact List.forall_mem_append.mpr ⟨others, by simpa using Ne.symm same⟩
  · rintro ⟨before, after, rfl, others⟩
    induction after using List.reverseRecOn with
    | nil => rw [ofList_concat, get?_insert_self]
    | append_singleton after p ih =>
      obtain ⟨others, other⟩ := List.forall_mem_append.mp others
      rw [← List.cons_append, ← List.append_assoc, ofList_concat,
        get?_insert_of_ne (other p List.mem_cons_self).symm, ih others]

/-- **Making a map forgets no key** and makes up none. -/
theorem exists_get?_ofList_iff {r : Assoc α} {k : String} :
    (∃ v, get? (ofList r) k = some v) ↔ ∃ p ∈ r, p.1 = k := by
  induction r using List.reverseRecOn with
  | nil => simp [ofList, merge, get?]
  | append_singleton r p ih =>
    rw [ofList_concat]
    by_cases same : k = p.1
    · simp [same, get?_insert_self]
    · rw [get?_insert_of_ne same, ih]
      simp [Ne.symm same]

/-- Members of a merge come from one side or the other. -/
theorem mem_merge {p : String × α} : ∀ {r m : Assoc α}, p ∈ merge m r → p ∈ m ∨ p ∈ r
  | [], _, h => Or.inl h
  | q :: r, m, h => by
      have h : p ∈ merge (insert q.1 q.2 m) r := h
      rcases mem_merge h with h | h
      · rcases mem_insert h with rfl | h
        · exact Or.inr List.mem_cons_self
        · exact Or.inl h
      · exact Or.inr (List.mem_cons_of_mem _ h)

/-- …so those of a map come from the list it is made of. -/
theorem mem_of_mem_ofList {p : String × α} {r : Assoc α} (h : p ∈ ofList r) : p ∈ r :=
  (mem_merge h).resolve_left List.not_mem_nil

/-- **A map put over one member it does not have is the map with that member.** -/
theorem Ascending.merge_singleton {m : Assoc α} (h : Ascending m) {k : String}
    (absent : get? m k = none) (v : α) : Assoc.merge [(k, v)] m = Assoc.insert k v m := by
  refine Ascending.ext (Ascending.merge (List.pairwise_singleton ..) m) (h.insert k v) fun j => ?_
  rw [get?_merge h.distinct]
  by_cases hj : j = k
  · subst hj
    rw [absent, get?_insert_self, get?, if_pos rfl]
    rfl
  · rw [get?_insert_of_ne hj, get?, if_neg (Ne.symm hj)]
    exact Option.or_none

end DocDispatch.Assoc

/-- **Maps with the same members are equal**: the order is no further data. -/
theorem DocDispatch.OrderedMap.ext {α : Type} :
    ∀ {m m' : OrderedMap α}, m.members = m'.members → m = m'
  | ⟨_, _⟩, ⟨_, _⟩, rfl => rfl

theorem DocDispatch.OrderedMap.ofList_members {α : Type} :
    ∀ m : OrderedMap α, ofList m.members = m
  | ⟨_, ascending⟩ => by simp only [ofList, ascending.ofList_eq]

/-- **Inserting what is there already changes nothing.** -/
theorem DocDispatch.OrderedMap.insert_of_get? {α : Type} {k : String} {v : α} :
    ∀ {m : OrderedMap α}, m.get? k = some v → m.insert k v = m
  | ⟨_, ascending⟩, there => by simp only [insert, ascending.insert_of_get? there]
