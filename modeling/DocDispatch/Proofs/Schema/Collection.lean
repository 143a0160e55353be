import DocDispatch.Proofs.Assoc
import DocDispatch.Proofs.Store.Objects
import DocDispatch.Schema.Normalize

/-!
# Proofs/Schema/Collection — normalizing a collection loses no document

    documents   users/a        users/b        users/b/posts/x
    response    a              b
    ids         "a"            "b"
    entities    a ↦ data + id  b ↦ data + id

Under the default key and without a transform, a document that has no field of its own under the key
becomes its data with its id, filed under that id.  Ids of one collection are pairwise distinct and
in order, so filing them one after another builds the map without ever replacing an entity.
-/

namespace DocDispatch

open Json (Value)

namespace Snapshot

/-- The data of a document with its id under the default key. -/
def withId (path : String) (data : Fields) : Fields :=
  Assoc.insert Schema.defaultKey (.string (Text.lastSegment path)) data

/-- **A document that has no field of the name becomes its data with its id.** -/
theorem entity_of {path : String} {data : Fields} (ordered : data.Ascending)
    (unnamed : Assoc.get? data Schema.defaultKey = none) :
    (Snapshot.of path data).entity = withId path data :=
  ordered.merge_singleton unnamed _

/-- …under which the id is found. -/
theorem get?_withId (path : String) (data : Fields) :
    Assoc.get? (withId path data) Schema.defaultKey = some (.string (Text.lastSegment path)) :=
  Assoc.get?_insert_self _ _ _

end Snapshot

namespace Schema

/-! ## Filing documents -/

/-- A document that has no id of its own, filed under the id that it has in the store. -/
def filedById (path : String) (data : Fields) : Filed :=
  ⟨.string (Text.lastSegment path), Text.lastSegment path, .object (Snapshot.withId path data)⟩

section

variable {schema : Schema} (key : schema.key = defaultKey) (plain : schema.transform = none)

include key plain

/-- So it is filed under that id. -/
theorem fileDocument_of {path : String} {data : Fields} (ordered : data.Ascending)
    (unnamed : Assoc.get? data defaultKey = none) (index : Nat) :
    schema.fileDocument index (Snapshot.of path data) = .ok (filedById path data) := by
  have entity : AsEntity.entity (Snapshot.of path data) =
      (.ok (Snapshot.withId path data) : Except SchemaError Fields) :=
    congrArg Except.ok (Snapshot.entity_of ordered unnamed)
  have kept : schema.transformed (.object (Snapshot.withId path data)) =
      .ok (.object (Snapshot.withId path data)) := by
    rw [transformed, plain]
  have filed : schema.file index (.object (Snapshot.withId path data)) =
      .ok (filedById path data) := by
    simp only [file, key, Snapshot.get?_withId]
    rfl
  rw [fileDocument, entity]
  change (schema.transformed (.object (Snapshot.withId path data))).bind _ = _
  rw [kept]
  change (schema.file index (.object (Snapshot.withId path data))).mapError _ = _
  rw [filed]
  rfl

/-- Documents without an id of their own are filed in order, each under the id it has. -/
theorem fileAll_of : ∀ {m : Assoc Fields}, (∀ p ∈ m, p.2.Ascending) →
    (∀ p ∈ m, Assoc.get? p.2 defaultKey = none) → ∀ index : Nat,
      schema.fileAll index (m.map fun p => Snapshot.of p.1 p.2) =
        .ok (m.map fun p => filedById p.1 p.2)
  | [], _, _, _ => rfl
  | p :: m, ordered, unnamed, index => by
      have first : schema.fileDocument index (Snapshot.of p.1 p.2) = .ok (filedById p.1 p.2) :=
        fileDocument_of key plain (ordered p List.mem_cons_self)
          (unnamed p List.mem_cons_self) index
      have rest := fileAll_of (fun q hq => ordered q (List.mem_cons_of_mem _ hq))
        (fun q hq => unnamed q (List.mem_cons_of_mem _ hq)) (index + 1)
      rw [List.map_cons, fileAll, first]
      change (schema.fileAll (index + 1) _).bind _ = _
      rw [rest]
      rfl

end

end Schema

namespace Store

variable {L : Type}

/-- The entities of the documents that match a query, by id. -/
def entitiesById (s : Store L) (q : QueryRef) : Assoc Value :=
  (s.matching q).map fun p => (Text.lastSegment p.1, .object (Snapshot.withId p.1 p.2))

/-- Ids are in order and none occurs twice, so entities by id are a map. -/
theorem ascending_entitiesById (s : Store L) (q : QueryRef) : (s.entitiesById q).Ascending :=
  List.pairwise_map.mpr (s.pairwise_id_matching q)

/-- The documents that match a query, normalized. -/
theorem normalize_matching {s : ObjectStore L} {q : QueryRef} {schema : Schema}
    (key : schema.key = Schema.defaultKey) (plain : schema.transform = none)
    (unnamed : ∀ p ∈ s.matching q, Assoc.get? p.2 Schema.defaultKey = none) :
    schema.normalize (.many ((s.matching q).map fun p => Snapshot.of p.1 p.2)) = .ok {
      entities := .ofList [(schema.name, ⟨s.entitiesById q, s.ascending_entitiesById q⟩)]
      ids := (s.matching q).map fun p => .string (Text.lastSegment p.1) } := by
  have filed := Schema.fileAll_of key plain s.ordered_matching unnamed 0
  have byText : ((s.matching q).map fun p => Schema.filedById p.1 p.2).map
      (fun f => (f.text, f.entity)) = s.entitiesById q := by
    rw [List.map_map]
    rfl
  have entities : OrderedMap.ofList (s.entitiesById q) =
      ⟨s.entitiesById q, s.ascending_entitiesById q⟩ := by
    simp only [OrderedMap.ofList, (s.ascending_entitiesById q).ofList_eq]
  rw [Schema.normalize, Response.toList, filed]
  change Except.ok _ = _
  rw [byText, entities, List.map_map]
  rfl

/-- **Normalizing what a query finds loses no document.**  Under the default key and without a
transform, if no document that matches the query has a field of that name, then the response can be
normalized; its ids are those of the matching documents, as strings, in strictly ascending order;
and the entities of the schema's collection are the data of those documents, each with its id and
under it, and nothing else.  The id is what a document's path has after the collection's. -/
theorem normalize_queryOutcome {s : ObjectStore L} {q : QueryRef} {response : Response Snapshot}
    (found : s.queryOutcome q = .ok response) {schema : Schema}
    (key : schema.key = Schema.defaultKey) (plain : schema.transform = none)
    (unnamed : ∀ p ∈ s.matching q, Assoc.get? p.2 Schema.defaultKey = none) :
    ∃ (n : Normalized) (byId : OrderedMap Value), schema.normalize response = .ok n ∧
      n.ids = (s.matching q).map (fun p => .string (Text.lastSegment p.1)) ∧
      ((s.matching q).map fun p => Text.lastSegment p.1).Pairwise (· < ·) ∧
      n.entities.members = [(schema.name, byId)] ∧ byId.members = s.entitiesById q ∧
      ∀ p ∈ s.matching q, p.1 = q.path ++ "/" ++ Text.lastSegment p.1 := by
  obtain ⟨docs, run, rfl⟩ : ∃ docs, s.runQuery q = .ok docs ∧ .many docs = response := by
    unfold queryOutcome at found
    cases run : s.runQuery q with
    | error e =>
      rw [run] at found
      cases found
    | ok docs =>
      rw [run] at found
      exact ⟨docs, rfl, Except.ok.inj found⟩
  rw [runQuery_eq_ok run]
  exact ⟨_, _, normalize_matching key plain unnamed, rfl,
    List.pairwise_map.mpr (s.pairwise_id_matching q), rfl, rfl,
    fun p hp => eq_child_of_isChild (isChild_of_mem_matching hp)⟩

/-- A member of a team. -/
def member (team : String) : OrderedMap Value := .ofList [("team", .string team)]

/-- A collection with documents that match and one that does not, among documents that are not in
it. -/
def hired : ObjectStore Unit :=
  .ofDocuments (.ofList [("users/b", member "blue"), ("users/c", member "red"),
    ("users/a/posts/x", member "blue"), ("usersold/a", member "blue")])

/-- The store once a further document has been put, before the others. -/
def staff : ObjectStore Unit :=
  hired.perform (fun _ => "") (c := .put "users/a" (member "blue").members)
    (member "blue").ascending

/-- The members of one team. -/
def blue : QueryRef := ⟨[.collection "users"], [⟨"team", .eq, .text "blue"⟩]⟩

/-- The members of one team, by their ids. -/
theorem normalize_queryOutcome_staff :
    ∃ (n : Normalized) (byId : OrderedMap Value),
      Schema.normalize ⟨"users", none, none⟩ (.many [
        Snapshot.of "users/a" [("team", .string "blue")],
        Snapshot.of "users/b" [("team", .string "blue")]]) = .ok n ∧
      n.ids = [.string "a", .string "b"] ∧ n.entities.members = [("users", byId)] ∧
      byId.members = [
        ("a", .object [("id", .string "a"), ("team", .string "blue")]),
        ("b", .object [("id", .string "b"), ("team", .string "blue")])] := by
  have found : staff.queryOutcome blue = .ok (.many [
      Snapshot.of "users/a" [("team", .string "blue")],
      Snapshot.of "users/b" [("team", .string "blue")]]) := rfl
  have key : Schema.key ⟨"users", none, none⟩ = Schema.defaultKey := rfl
  obtain ⟨n, byId, normalized, ids, -, entities, members, -⟩ :=
    normalize_queryOutcome found key rfl (by decide)
  exact ⟨n, byId, normalized, ids, entities, members⟩

end Store

end DocDispatch
