import DocDispatch.Json.Record
import DocDispatch.Proofs.Assoc

/-!
# Proofs/Json/ReadBack — what is written is read as what it was

A value whose objects are in key order is what its own tree spells (`Value.toValue?_toTree`).
`ReadsBack write read a` says as much of anything that has a JSON form: reading what `a` is written
as gives `a`.  It lifts through lists, maps and values that may be null.  A record is read field by
field: what a reader finds under its names is what was written there (`Record.get?_written`).
-/

namespace DocDispatch.Json

/-! ## Values -/

/-- Order is a matter of each item… -/
theorem Value.orderedItems_iff {items : List Value} :
    OrderedItems items ↔ ∀ v ∈ items, v.Ordered := by
  induction items with
  | nil => simp [OrderedItems]
  | cons v items ih => simp [OrderedItems, ih]

/-- …and of each member… -/
theorem Value.orderedMembers_iff {members : List (String × Value)} :
    OrderedMembers members ↔ ∀ p ∈ members, p.2.Ordered := by
  induction members with
  | nil => simp [OrderedMembers]
  | cons p members ih => simp [OrderedMembers, ih]

theorem Value.ordered_array {items : List Value} :
    (Value.array items).Ordered ↔ ∀ v ∈ items, v.Ordered := by
  rw [Ordered, orderedItems_iff]

/-- …and of the keys where there are any. -/
theorem Value.ordered_object {members : List (String × Value)} :
    (Value.object members).Ordered ↔ Assoc.Ascending members ∧ ∀ p ∈ members, p.2.Ordered := by
  rw [Ordered, orderedMembers_iff]

/-- **Values made of members are in order whatever order these came in.** -/
theorem Value.ordered_ofMembers {members : List (String × Value)}
    (h : ∀ p ∈ members, p.2.Ordered) : (ofMembers members).Ordered :=
  ordered_object.mpr
    ⟨Assoc.ascending_ofList members, fun p hp => h p (Assoc.mem_of_mem_ofList hp)⟩

theorem Value.itemsToTree_eq_map (items : List Value) : itemsToTree items = items.map toTree := by
  induction items with
  | nil => rfl
  | cons v items ih => rw [itemsToTree, ih, List.map_cons]

theorem Value.membersToTree_eq_map (members : List (String × Value)) :
    membersToTree members = members.map fun p => (some p.1, p.2.toTree) := by
  induction members with
  | nil => rfl
  | cons p members ih => rw [membersToTree, ih, List.map_cons]

mutual

/-- **A value in key order is what its tree spells.** -/
theorem Value.toValue?_toTree : ∀ {v : Value}, v.Ordered → v.toTree.toValue? = some v
  | .null, _ | .bool _, _ | .number _, _ | .string _, _ => rfl
  | .array items, h => by
      rw [Value.toTree, Tree.toValue?, Value.itemsToValue?_itemsToTree h]
      rfl
  | .object members, h => by
      obtain ⟨ascending, h⟩ := h
      rw [Value.toTree, Tree.toValue?, Value.membersToValue?_membersToTree h, Option.map_some,
        Value.ofMembers, ascending.ofList_eq]

/-- …and so is a list of them… -/
theorem Value.itemsToValue?_itemsToTree : ∀ {items : List Value}, OrderedItems items →
    Tree.itemsToValue? (itemsToTree items) = some items
  | [], _ => rfl
  | v :: items, ⟨head, tail⟩ => by
      simp only [Value.itemsToTree, Tree.itemsToValue?, Value.toValue?_toTree head,
        Value.itemsToValue?_itemsToTree tail, Option.bind_eq_bind, Option.bind_some]

/-- …and so are the members of an object. -/
theorem Value.membersToValue?_membersToTree : ∀ {members : List (String × Value)},
    OrderedMembers members → Tree.membersToValue? (membersToTree members) = some members
  | [], _ => rfl
  | (k, v) :: members, ⟨head, tail⟩ => by
      simp only [Value.membersToTree, Tree.membersToValue?, Value.toValue?_toTree head,
        Value.membersToValue?_membersToTree tail, Option.bind_eq_bind, Option.bind_some]

end

/-- **An object is read as its members.** -/
theorem Value.toFields?_toTree {fields : Fields} (h : (Value.object fields).Ordered) :
    (Value.object fields).toTree.toFields? = some fields := by
  rw [toTree, Tree.toFields?, membersToValue?_membersToTree h.2, Option.map_some, h.1.ofList_eq]

theorem Value.isReadable_toTree {v : Value} (h : v.Ordered) : v.toTree.isReadable = true := by
  rw [Tree.isReadable, toValue?_toTree h, Option.isSome_some]

/-! ## Reading back -/

variable {α : Type} {write : α → Value} {read : Tree → Option α}

/-- Reading what `a` is written as gives `a`. -/
def ReadsBack (write : α → Value) (read : Tree → Option α) (a : α) : Prop :=
  read (write a).toTree = some a

namespace ReadsBack

theorem string (s : String) : ReadsBack Value.string Tree.toString? s := rfl

/-- **A value in order reads back as itself.** -/
theorem value {v : Value} (h : v.Ordered) : ReadsBack id Tree.toValue? v := Value.toValue?_toTree h

/-- …an object as its members… -/
theorem fields {fields : Fields} (h : (Value.object fields).Ordered) :
    ReadsBack Value.object Tree.toFields? fields :=
  Value.toFields?_toTree h

/-- Items that read back one by one do so together. -/
theorem mapM_map {β : Type} {f : β → Option α} {g : α → β} {items : List α}
    (h : ∀ a ∈ items, f (g a) = some a) : (items.map g).mapM f = some items := by
  induction items with
  | nil => rfl
  | cons a items ih =>
    simp only [List.map_cons, List.mapM_cons, h a List.mem_cons_self,
      ih fun b hb => h b (List.mem_cons_of_mem _ hb), Option.bind_eq_bind, Option.bind_some]
    rfl

/-- **Lists read back where their items do**… -/
theorem list {items : List α} (h : ∀ a ∈ items, ReadsBack write read a) :
    ReadsBack (fun items => .array (items.map write)) (Tree.toList? read) items := by
  rw [ReadsBack, Value.toTree, Value.itemsToTree_eq_map, List.map_map, Tree.toList?]
  exact mapM_map h

/-- …and maps where their values do. -/
theorem map {m : OrderedMap α} (h : ∀ p ∈ m.members, ReadsBack write read p.2) :
    ReadsBack (fun m : OrderedMap α => .object (m.members.map fun p => (p.1, write p.2)))
      (Tree.toMap? read) m := by
  rw [ReadsBack, Value.toTree, Value.membersToTree_eq_map, List.map_map, Tree.toMap?, mapM_map]
  · rw [Option.bind_eq_bind, Option.bind_some, OrderedMap.ofList_members]
  · intro p hp
    have back : read (write p.2).toTree = some p.2 := h p hp
    simp only [Function.comp_apply, back, Option.bind_eq_bind, Option.bind_some]

/-- **What is never written as null can be told from null.** -/
theorem option {o : Option α} (h : ∀ a ∈ o, write a ≠ .null ∧ ReadsBack write read a) :
    ReadsBack (Value.ofOption write) (Tree.toOption? read) o := by
  cases o with
  | none => rfl
  | some a =>
    obtain ⟨written, back⟩ := h a rfl
    rw [ReadsBack] at back ⊢
    rw [Value.ofOption, Tree.toOption?, back, Option.map_some]
    intro null
    cases hw : write a <;> simp_all [Value.toTree]

end ReadsBack

/-! ## Records -/

namespace Record

/-- **Reading goes on with the field that was read.** -/
theorem bind_eq_some {β : Type} {field : Option α} {rest : α → Option β} {a : α} {b : β}
    (h : field = some a) (h' : rest a = some b) : field >>= rest = some b := by
  rw [h]
  exact h'

/-- What is found of the members of an object under the names. -/
def written (names : List String) (members : List (String × Value)) : Record :=
  ⟨(members.filter (·.1 ∈ names)).map fun p => (p.1, p.2.toTree), false⟩

/-- A record that was written holds the members its reader knows. -/
theorem get?_written {names : List String} {name : String} (here : name ∈ names)
    (members : List (String × Value)) :
    Assoc.get? (written names members).fields name =
      (Assoc.get? members name).map Value.toTree := by
  induction members with
  | nil => rfl
  | cons p members ih =>
    obtain ⟨k, v⟩ := p
    by_cases hk : k = name
    · subst hk
      simp [written, here, Assoc.get?]
    · by_cases known : k ∈ names
      · simpa [written, known, Assoc.get?, hk] using ih
      · simpa [written, known, Assoc.get?, hk] using ih

/-- No member in key order is there twice, so a derived reader takes them all. -/
theorem known?_membersToTree {names : List String} {members : List (String × Value)}
    (h : Assoc.Ascending members) :
    known? names (Value.membersToTree members) = some (written names members).fields := by
  induction members with
  | nil => rfl
  | cons p members ih =>
    obtain ⟨k, v⟩ := p
    rw [Value.membersToTree, known?, ih h.of_cons]
    by_cases known : k ∈ names
    · have once : Assoc.get? (written names members).fields k = none := by
        rw [get?_written known, h.get?_tail, Option.map_none]
      simpa [known, written] using once
    · simp [known, written]

/-- **An object in key order spells the record of what it has under the names.** -/
theorem ofTree?_toTree (names : List String) {members : List (String × Value)}
    (h : Assoc.Ascending members) :
    ofTree? names (Value.object members).toTree = some (written names members) := by
  rw [Value.toTree, ofTree?, known?_membersToTree h]
  rfl

/-- **What a writer has written is a record to its reader.** -/
theorem ofTree?_ofMembers (names : List String) (members : List (String × Value)) :
    ofTree? names (Value.ofMembers members).toTree =
      some (written names (Assoc.ofList members)) :=
  ofTree?_toTree names (Assoc.ascending_ofList members)

variable {names : List String} {members : List (String × Value)} {name : String}

/-- A required member reads back… -/
theorem required?_written {a : α} (here : name ∈ names)
    (held : Assoc.get? members name = some (write a)) (back : ReadsBack write read a) :
    (written names members).required? name read = some a := by
  rw [required?, get?_written here, held]
  exact back

/-- …one that may be null… -/
theorem nullable?_written {a : Option α} {write : Option α → Value} (here : name ∈ names)
    (held : Assoc.get? members name = some (write a))
    (back : ReadsBack write (Tree.toOption? read) a) :
    (written names members).nullable? name read = some a := by
  rw [nullable?, get?_written here, held]
  exact back

/-- …and one that has a default, for it was written too. -/
theorem defaulted?_written {a default : α} (here : name ∈ names)
    (held : Assoc.get? members name = some (write a)) (back : ReadsBack write read a) :
    (written names members).defaulted? name default read = some a := by
  rw [defaulted?, get?_written here, held]
  exact back

/-- **A field that is written only if there is something to write.** -/
theorem optional?_written {a : Option α} (here : name ∈ names)
    (held : Assoc.get? members name = a.map write)
    (back : ∀ x ∈ a, write x ≠ .null ∧ ReadsBack write read x) :
    (written names members).defaulted? name none (Tree.toOption? read) = some a := by
  cases a with
  | none =>
    rw [defaulted?, get?_written here, held]
    rfl
  | some x =>
    have held : Assoc.get? members name = some (Value.ofOption write (some x)) := held
    exact defaulted?_written here held (ReadsBack.option back)

end Record

end DocDispatch.Json
