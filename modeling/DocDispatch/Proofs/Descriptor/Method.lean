import DocDispatch.Action
import DocDispatch.Proofs.Descriptor.Reading

/-!
# Proofs/Descriptor/Method — the same call by another method

The method of a query is a property of its own: all that another method changes in what a value
spells is the method.  Reading needs no data and no options, so every descriptor can be turned into
one that reads (`ofJson_withMethod_get`), and the action that carries it is otherwise the same
(`stripped_withMethod`).
-/

namespace DocDispatch

open Json (Value)

/-! ## Properties that stay -/

namespace Assoc

variable {α : Type}

/-- What a member gives does not depend on the others. -/
theorem Gives.insert_of_ne {m : Fields} {key key' : String} {unset : α}
    {spells : Value → α → Prop} {a : α} (h : m.Gives key unset spells a) (other : key ≠ key')
    (v : Value) : Gives (m.insert key' v) key unset spells a := by
  unfold Gives at h ⊢
  rw [get?_insert_of_ne other]
  exact h

/-- What is put under a key goes with it. -/
theorem erase_insert (k : String) (v : α) :
    ∀ m : Assoc α, (m.insert k v).erase k = m.erase k
  | [] => by simp [insert, erase]
  | p :: m => by
      have ih := erase_insert k v m
      unfold insert
      split
      · rename_i same
        simp [erase, same]
      · split
        · simp [erase]
        · simp only [erase, List.filter_cons] at ih ⊢
          rw [ih]

end Assoc

/-! ## Another method -/

namespace Json.Value

/-- The descriptor with another method in its query. -/
def withMethod (v : Value) (name : String) : Value :=
  match v with
  | .object config =>
    match Assoc.get? config "query" with
    | some (.object q) =>
      .object (Assoc.insert "query" (.object (Assoc.insert "method" (.string name) q)) config)
    | _ => .object config
  | v => v

end Json.Value

namespace Query

/-- **Naming another method keeps the rest of a query.** -/
theorem SpelledBy.get {q : Query} {m : Fields} (h : q.SpelledBy m) :
    SpelledBy { q with method := .get } (m.insert "method" (.string Method.get.name)) where
  method := Assoc.get?_insert_self _ _ _
  takes := by
    obtain ⟨data, options, -, hdata, hoptions⟩ := h.takes
    exact ⟨data, options, .tail _ (.head _), hdata.insert_of_ne (by decide) _,
      hoptions.insert_of_ne (by decide) _⟩
  collection := (Assoc.get?_insert_of_ne (by decide) _ _).trans h.collection
  named := h.named
  doc := h.doc.insert_of_ne (by decide) _
  subcollections := h.subcollections.insert_of_ne (by decide) _
  inner := h.inner
  filters := h.filters.insert_of_ne (by decide) _
  parsed := h.parsed

end Query

namespace Descriptor

/-- The descriptor that reads what another one addresses. -/
def get (d : Descriptor) : Descriptor := { d with query := { d.query with method := .get } }

/-- **With the method for reading, a value spells the descriptor that reads.** -/
theorem ofJson_withMethod_get {v : Value} {d : Descriptor} (read : ofJson v = .ok d) :
    ofJson (v.withMethod Method.get.name) = .ok d.get := by
  obtain ⟨config, rfl, spelled⟩ := ofJson_eq_ok_iff.mp read
  obtain ⟨q, there, query⟩ := spelled.query
  refine ofJson_eq_ok_iff.mpr ⟨Assoc.insert "query"
    (.object (Assoc.insert "method" (.string Method.get.name) q)) config, ?_, ?_⟩
  · simp only [Value.withMethod, there]
  · exact {
      types := (Assoc.get?_insert_of_ne (by decide) _ _).trans spelled.types
      bailout := spelled.bailout.insert_of_ne (by decide) _
      query := ⟨_, Assoc.get?_insert_self _ _ _, query.get⟩
      schema := spelled.schema.insert_of_ne (by decide) _
      payload := spelled.payload.trans (Assoc.get?_insert_of_ne (by decide) _ _).symm
      metadata := spelled.metadata.trans (Assoc.get?_insert_of_ne (by decide) _ _).symm }

end Descriptor

namespace Action

/-- The action with another method in the descriptor under its marker. -/
def withMethod (a : Action) (marker name : String) : Action :=
  match a.get? marker with
  | some v => a.insert marker (v.withMethod name)
  | none => a

variable {a : Action} {marker : String} {v : Value}

/-- The action carries the same call, by another method… -/
theorem get?_withMethod (marked : a.get? marker = some v) (name : String) :
    (a.withMethod marker name).get? marker = some (v.withMethod name) := by
  rw [withMethod, marked]
  exact Assoc.get?_insert_self _ _ _

/-- …and without its call it is the same action. -/
theorem stripped_withMethod (a : Action) (marker name : String) :
    (a.withMethod marker name).stripped marker = a.stripped marker := by
  unfold withMethod
  cases a.get? marker with
  | none => rfl
  | some v => exact congrArg Action.mk (Assoc.erase_insert marker _ a.fields)

end Action

end DocDispatch
