import DocDispatch.Descriptor.Codec
import DocDispatch.Proofs.Json.ReadBack
import DocDispatch.Reference.Codec
import DocDispatch.Replay.Script
import DocDispatch.Schema.Normalize

/-!
# Proofs/RoundTrip — everything that is written as JSON is read back

Actions, responses, query snapshots, schema descriptors, set options, normalized responses, scripts
and references read back as what they were (`written_reads_back`): one document is not taken for a
list of one, an operand keeps its kind, and what was left out is absent again.  Members that hold
arbitrary JSON have to be JSON, every object in them in key order (`Ordered`); nothing else is
asked.
-/

namespace DocDispatch

open Json (ReadsBack Record Tree Value)

/-- An action is a JSON object. -/
def Action.Ordered (a : Action) : Prop := (Value.object a.fields).Ordered

theorem Action.readsBack {a : Action} (h : a.Ordered) : ReadsBack toJson ofTree? a := by
  rw [ReadsBack, toJson, ofTree?, Value.toFields?_toTree h]
  rfl

/-! ## Parts of a descriptor -/

/-- **Parts of descriptors read back as they are.** -/
theorem SchemaDescriptor.readsBack (s : SchemaDescriptor) : ReadsBack toJson ofTree? s := by
  obtain ⟨name, key, transform⟩ := s
  have text (t : String) : Value.string t ≠ .null ∧ ReadsBack Value.string Tree.toString? t :=
    ⟨nofun, ReadsBack.string t⟩
  refine Record.bind_eq_some (Record.ofTree?_ofMembers ..) <|
    Record.bind_eq_some (a := name) ?_ <| Record.bind_eq_some (a := key) ?_ <|
    Record.bind_eq_some (a := transform) ?_ rfl
  · refine Record.required?_written (by simp) ?_ (ReadsBack.string name)
    cases key <;> cases transform <;>
      exact (Assoc.get?_ofList (by simp [optionalMember]) _).trans rfl
  · refine Record.optional?_written (by simp) ?_ fun t _ => text t
    cases key <;> cases transform <;>
      exact (Assoc.get?_ofList (by simp [optionalMember]) _).trans rfl
  · refine Record.optional?_written (by simp) ?_ fun t _ => text t
    cases key <;> cases transform <;>
      exact (Assoc.get?_ofList (by simp [optionalMember]) _).trans rfl

theorem SetOptions.readsBack : ∀ o : SetOptions, ReadsBack toJson ofTree? o
  | ⟨false⟩ | ⟨true⟩ => by rfl

/-! ## Snapshots and responses -/

namespace Snapshot

/-- The data, where there is any, is a JSON object. -/
def Ordered (s : Snapshot) : Prop := ∀ fields ∈ s.data, (Value.object fields).Ordered

theorem ordered_toJson {s : Snapshot} (h : s.Ordered) : s.toJson.Ordered := by
  obtain ⟨id, path, data⟩ := s
  apply Value.ordered_ofMembers
  cases data with
  | none => simp [Value.ofOption, Value.Ordered]
  | some fields =>
    have data : (Value.object fields).Ordered := h fields rfl
    simpa [Value.ofOption, Value.Ordered] using data

theorem readsBack {s : Snapshot} (h : s.Ordered) : ReadsBack toJson ofTree? s := by
  obtain ⟨id, path, data⟩ := s
  have back : ReadsBack (Value.ofOption Value.object) (Tree.toOption? Tree.toFields?) data :=
    ReadsBack.option fun fields hf => ⟨nofun, ReadsBack.fields (h fields hf)⟩
  refine Record.bind_eq_some (Record.ofTree?_ofMembers ..) <|
    Record.bind_eq_some (a := id) ?_ <| Record.bind_eq_some (a := path) ?_ <|
    Record.bind_eq_some (a := data) ?_ rfl
  · exact Record.required?_written (by simp) ((Assoc.get?_ofList (by simp) _).trans rfl)
      (ReadsBack.string id)
  · exact Record.required?_written (by simp) ((Assoc.get?_ofList (by simp) _).trans rfl)
      (ReadsBack.string path)
  · exact Record.nullable?_written (by simp) ((Assoc.get?_ofList (by simp) _).trans rfl) back

end Snapshot

namespace QuerySnapshot

/-- Every document in order. -/
def Ordered (q : QuerySnapshot) : Prop := ∀ s ∈ q.docs, s.Ordered

theorem readsBack {q : QuerySnapshot} (h : q.Ordered) : ReadsBack toJson ofTree? q := by
  refine Record.bind_eq_some (Record.ofTree?_toTree _ (by simp [Assoc.Ascending])) <|
    Record.bind_eq_some (a := q.docs) ?_ rfl
  exact Record.required?_written (by simp) rfl
    (ReadsBack.list fun s hs => Snapshot.readsBack (h s hs))

end QuerySnapshot

namespace Response

/-- Every document of the response has JSON data. -/
def Ordered (r : Response Snapshot) : Prop := ∀ s ∈ r.toList, s.Ordered

theorem readsBack : ∀ {r : Response Snapshot}, r.Ordered →
    ReadsBack (toJson Snapshot.toJson) ofTree? r
  | .many docs, h => by
      have h : ∀ s ∈ docs, s.Ordered := h
      have readable : (Value.array (docs.map Snapshot.toJson)).toTree.isReadable = true := by
        refine Value.isReadable_toTree (Value.ordered_array.mpr fun v hv => ?_)
        obtain ⟨s, hs, rfl⟩ := List.mem_map.mp hv
        exact Snapshot.ordered_toJson (h s hs)
      have back := ReadsBack.list fun s hs => Snapshot.readsBack (h s hs)
      rw [ReadsBack] at back ⊢
      rw [toJson, ofTree?, if_pos readable, back]
  | .one s, h => by
      have h : s.Ordered := h s (List.mem_singleton_self s)
      have readable : s.toJson.toTree.isReadable = true :=
        Value.isReadable_toTree (Snapshot.ordered_toJson h)
      -- A document is written as an object, which is no list of documents.
      have other : s.toJson.toTree.toList? Snapshot.ofTree? = none := rfl
      have back : Snapshot.ofTree? s.toJson.toTree = some s := Snapshot.readsBack h
      rw [ReadsBack, toJson, ofTree?, if_pos readable, other, back]
      rfl

end Response

namespace Normalized

/-- The entities and the ids are JSON values. -/
structure Ordered (n : Normalized) : Prop where
  entities : ∀ p ∈ n.entities.members, ∀ q ∈ p.2.members, q.2.Ordered
  ids : ∀ id ∈ n.ids, id.Ordered

theorem readsBack {n : Normalized} (h : n.Ordered) : ReadsBack toJson ofTree? n := by
  have entities := ReadsBack.map fun p hp =>
    ReadsBack.map fun q hq => ReadsBack.value (h.entities p hp q hq)
  have ids := ReadsBack.list fun id hid => ReadsBack.value (h.ids id hid)
  refine Record.bind_eq_some (Record.ofTree?_toTree _ (Assoc.ascending_pair (by decide) _ _)) <|
    Record.bind_eq_some (a := n.entities) ?_ <| Record.bind_eq_some (a := n.ids) ?_ rfl
  · exact Record.required?_written (by simp) (by simp [Assoc.get?]) entities
  · exact Record.required?_written (by simp) (by simp [Assoc.get?]) ids

end Normalized

/-! ## References -/

namespace Filter

theorem Operator.readsBack (op : Operator) : ReadsBack toJson ofTree? op := ofText?_text op

theorem Operand.readsBack : ∀ o : Operand, ReadsBack toJson ofTree? o
  | .integer n => by
      simp only [ReadsBack, toJson, Value.toTree, ofTree?, Ranged.widen, Ranged.ofInt?_val]
  | .float _ | .text _ => rfl

theorem readsBack (f : Filter) : ReadsBack toJson ofTree? f := by
  obtain ⟨field, operator, operand⟩ := f
  refine Record.bind_eq_some (Record.ofTree?_ofMembers ..) <|
    Record.bind_eq_some (a := field) ?_ <| Record.bind_eq_some (a := operator) ?_ <|
    Record.bind_eq_some (a := operand) ?_ rfl
  · exact Record.required?_written (by simp) ((Assoc.get?_ofList (by simp) _).trans rfl)
      (ReadsBack.string field)
  · exact Record.required?_written (by simp) ((Assoc.get?_ofList (by simp) _).trans rfl)
      operator.readsBack
  · exact Record.required?_written (by simp) ((Assoc.get?_ofList (by simp) _).trans rfl)
      operand.readsBack

end Filter

theorem Segment.readsBack : ∀ s : Segment, ReadsBack toJson ofTree? s
  | .collection _ | .doc _ => rfl

theorem DocumentRef.readsBack (r : DocumentRef) : ReadsBack toJson ofTree? r := by
  refine Record.bind_eq_some (Record.ofTree?_toTree _ (by simp [Assoc.Ascending])) <|
    Record.bind_eq_some (a := r.segments) ?_ rfl
  exact Record.required?_written (by simp) rfl (ReadsBack.list fun s _ => s.readsBack)

/-- A query reads back with its filters… -/
theorem QueryRef.readsBack (r : QueryRef) : ReadsBack toJson ofTree? r := by
  refine Record.bind_eq_some (Record.ofTree?_toTree _ (Assoc.ascending_pair (by decide) _ _)) <|
    Record.bind_eq_some (a := r.segments) ?_ <| Record.bind_eq_some (a := r.filters) ?_ rfl
  · exact Record.required?_written (by simp) rfl (ReadsBack.list fun s _ => s.readsBack)
  · exact Record.required?_written (by simp) rfl (ReadsBack.list fun f _ => f.readsBack)

/-- …and a reference with its tag. -/
theorem Reference.readsBack : ∀ r : Reference, ReadsBack toJson ofTree? r
  | .document r => by
      have back : DocumentRef.ofTree? r.toJson.toTree = some r := r.readsBack
      simp only [ReadsBack, toJson, Value.toTree, Value.membersToTree, ofTree?, Tree.toChoice?,
        back, Option.map_some]
  | .query r => by
      have back : QueryRef.ofTree? r.toJson.toTree = some r := r.readsBack
      simp only [ReadsBack, toJson, Value.toTree, Value.membersToTree, ofTree?, Tree.toChoice?,
        back, Option.map_some]

/-! ## Scripts -/

namespace Script

/-- The documents, the state and the actions are JSON values. -/
structure Ordered (s : Script) : Prop where
  documents : ∀ p ∈ s.documents.members, (Value.object p.2).Ordered
  state : s.state.Ordered
  actions : ∀ a ∈ s.actions, a.Ordered

theorem readsBack {s : Script} (h : s.Ordered) : ReadsBack toJson ofTree? s := by
  obtain ⟨documents, state, bailouts, actions⟩ := s
  refine Record.bind_eq_some (Record.ofTree?_ofMembers ..) <|
    Record.bind_eq_some (a := documents) ?_ <| Record.bind_eq_some (a := state) ?_ <|
    Record.bind_eq_some (a := bailouts) ?_ <| Record.bind_eq_some (a := actions) ?_ rfl
  · exact Record.defaulted?_written (by simp) ((Assoc.get?_ofList (by simp) _).trans rfl)
      (ReadsBack.map fun p hp => ReadsBack.fields (h.documents p hp))
  · exact Record.defaulted?_written (by simp) ((Assoc.get?_ofList (by simp) _).trans rfl)
      (ReadsBack.value h.state)
  · exact Record.defaulted?_written (by simp) ((Assoc.get?_ofList (by simp) _).trans rfl)
      (ReadsBack.map fun p _ => ReadsBack.string p.2)
  · exact Record.defaulted?_written (by simp) ((Assoc.get?_ofList (by simp) _).trans rfl)
      (ReadsBack.list fun a ha => Action.readsBack (h.actions a ha))

end Script

/-! ## All of them -/

/-- **What is written as JSON reads back as what it was.** -/
theorem written_reads_back :
    (∀ a : Action, a.Ordered → ReadsBack Action.toJson Action.ofTree? a) ∧
    (∀ r : Response Snapshot, r.Ordered →
      ReadsBack (Response.toJson Snapshot.toJson) Response.ofTree? r) ∧
    (∀ q : QuerySnapshot, q.Ordered → ReadsBack QuerySnapshot.toJson QuerySnapshot.ofTree? q) ∧
    (∀ s : SchemaDescriptor, ReadsBack SchemaDescriptor.toJson SchemaDescriptor.ofTree? s) ∧
    (∀ o : SetOptions, ReadsBack SetOptions.toJson SetOptions.ofTree? o) ∧
    (∀ n : Normalized, n.Ordered → ReadsBack Normalized.toJson Normalized.ofTree? n) ∧
    (∀ s : Script, s.Ordered → ReadsBack Script.toJson Script.ofTree? s) ∧
    (∀ r : Reference, ReadsBack Reference.toJson Reference.ofTree? r) :=
  ⟨fun _ h => Action.readsBack h, fun _ h => Response.readsBack h,
    fun _ h => QuerySnapshot.readsBack h, SchemaDescriptor.readsBack, SetOptions.readsBack,
    fun _ h => Normalized.readsBack h, fun _ h => Script.readsBack h, Reference.readsBack⟩

/-- A missing document alone and in a list, a script, and a reference with a whole number, the
binary64 number equal to it and its digits as operands. -/
theorem written_reads_back_missing :
    (∀ r ∈ [Response.one (Snapshot.missing "users/a"), .many [Snapshot.missing "users/a"],
        .many []],
      ReadsBack (Response.toJson Snapshot.toJson) Response.ofTree? r) ∧
    ReadsBack Action.toJson Action.ofTree?
      ⟨[("meta", .object [("at", .null)]), ("type", .string "GO")]⟩ ∧
    ReadsBack QuerySnapshot.toJson QuerySnapshot.ofTree? ⟨[Snapshot.of "users/a" []]⟩ ∧
    ReadsBack Normalized.toJson Normalized.ofTree?
      ⟨OrderedMap.ofList [("users", OrderedMap.ofList [("a", .object [("id", .string "a")])])],
        [.string "a"]⟩ ∧
    ReadsBack Script.toJson Script.ofTree?
      ⟨OrderedMap.ofList [("users/a", [])], .null, OrderedMap.empty, [.ofType "GO"]⟩ ∧
    ReadsBack Reference.toJson Reference.ofTree? (Reference.build [
      .segment (.collection "users"), .filter ⟨"n", .eq, .integer ⟨1, by decide, by decide⟩⟩,
      .filter ⟨"n", .isIn, .float (Binary64.ofInt 1)⟩, .filter ⟨"n", .ne, .text "1"⟩]) := by
  obtain ⟨actions, responses, queries, -, -, entities, scripts, references⟩ := written_reads_back
  refine ⟨fun r hr => responses r ?_, actions _ ?_, queries _ ?_, entities _ ⟨?_, ?_⟩,
    scripts _ ⟨?_, trivial, ?_⟩, references _⟩
  · simp only [List.mem_cons, List.not_mem_nil, or_false] at hr
    obtain rfl | rfl | rfl := hr <;>
      simp [Response.Ordered, Response.toList, Snapshot.Ordered, Snapshot.missing, Snapshot.ofPath]
  · exact Value.ordered_object.mpr ⟨Assoc.ascending_pair (by decide) _ _, by
      simp [Value.Ordered, Value.OrderedMembers, Assoc.Ascending]⟩
  · simp [QuerySnapshot.Ordered, Snapshot.Ordered, Snapshot.of, Snapshot.ofPath, Value.Ordered,
      Value.OrderedMembers, Assoc.Ascending]
  · intro p hp q hq
    obtain rfl := List.mem_singleton.mp hp
    obtain rfl := List.mem_singleton.mp hq
    simp [Value.Ordered, Value.OrderedMembers, Assoc.Ascending]
  · simp [Value.Ordered]
  · intro p hp
    obtain rfl := List.mem_singleton.mp hp
    simp [Value.Ordered, Value.OrderedMembers, Assoc.Ascending]
  · simp [Action.Ordered, Action.ofType, Value.Ordered, Value.OrderedMembers, Assoc.Ascending]

end DocDispatch
