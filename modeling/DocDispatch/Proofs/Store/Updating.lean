import DocDispatch.Proofs.Dispatch.Operating
import DocDispatch.Proofs.FieldPath.Update

/-!
# Proofs/Store/Updating — a document that is updated, once and again

    users · a        {"at": 1}
    update           {"at": {"city": "Ulm", "zip": 7}, "at.city": "Bonn"}
    users · a        {"at": {"city": "Bonn", "zip": 7}}

An update writes every change at the place its dotted key names, and the document then stands in the
store as `FieldPath.update` leaves it.  What can be read of it is what was written last
(`exists_updated`), by the names that filters read fields by; and updating the document so again
changes no document of the store (`update_again`).  Changes are members of an object, so they come
in key order: a change to a place comes before those below it.
-/

namespace DocDispatch.Store

variable {L : Type} (freshId : Nat → String) (changes : OrderedMap Json.Value) {s : Store L}
  {r : DocumentRef} {document : Fields}

/-- **What can be read of a document after an update.**  A document that is there is updated, if no
failure is pending: the store holds the outcome, and answers with it.  Reading it by dotted names
gives what the changes say, unless they also change something below; all that is apart from every
change reads as it did; and above every change there is an object. -/
theorem exists_updated (there : s.documents.get? r.path = some document)
    (unharmed : s.pendingFailure = none) :
    ∃ updated,
      (s.perform freshId (.update (.document r) changes.members)).reply =
        .ok (.one (.of r.path updated)) ∧
      (s.perform freshId (.update (.document r) changes.members)).store.documents.get? r.path =
        some updated ∧
      FieldPath.Updated document changes.members updated := by
  rw [perform_update unharmed there]
  exact ⟨_, rfl, get?_write s r.path _, FieldPath.updated changes.ascending document⟩

/-- A user… -/
def user : DocumentRef := ⟨[.collection "users", .doc "a"]⟩

/-- …whose address is no object and whose phones are a list… -/
def unsorted : Fields := [("at", .bool true), ("phones", .array [.string "1"])]

/-- …and changes to them, two of which are below others, one by an empty step. -/
def moved : OrderedMap Json.Value where
  members := [("at", .object [("city", .string "Ulm"), ("zip", .string "7")]),
    ("at.city", .string "Bonn"), ("at.city.", .null), ("phones.home", .string "2")]
  ascending := by decide

/-- The store with that user. -/
def users : Store Unit := .ofDocuments (.ofList [("users/a", unsorted)])

/-- Below a change that is itself below another. -/
theorem exists_updated_moved :
    ∃ updated, (users.perform (fun _ => "") (.update (.document user) moved.members)).reply =
        .ok (.one (.of "users/a" updated)) ∧
      FieldPath.read updated ["at", "city", ""] = some .null ∧
      (∃ o, FieldPath.read updated ["at", "city"] = some (.object o)) ∧
      FieldPath.read updated ["phones", "work"] = none := by
  obtain ⟨updated, reply, -, reads⟩ :=
    exists_updated (fun _ => "") moved (s := users) (r := user) rfl rfl
  refine ⟨updated, reply, ?_, ?_, ?_⟩
  · exact reads.written ("at.city.", .null) (by simp [moved]) (by decide)
  · exact reads.opened ("at.city.", .null) (by simp [moved]) ["at", "city"] (by decide)
  · exact reads.kept ["phones", "work"] (by decide)

/-- **The same update again changes nothing**: wherever the document stands that an update has left,
the update leaves all documents as they are, and is answered with that document. -/
theorem update_again (there : s.documents.get? r.path = some document)
    (unharmed : s.pendingFailure = none) {t : Store L}
    (kept : t.documents.get? r.path =
      (s.perform freshId (.update (.document r) changes.members)).store.documents.get? r.path)
    (unharmed' : t.pendingFailure = none) :
    (t.perform freshId (.update (.document r) changes.members)).store.documents = t.documents ∧
    (t.perform freshId (.update (.document r) changes.members)).reply =
      (s.perform freshId (.update (.document r) changes.members)).reply := by
  have first : t.documents.get? r.path = some (FieldPath.update document changes.members) := by
    rw [kept, perform_update unharmed there]
    exact get?_write s r.path _
  rw [perform_update unharmed' first, perform_update unharmed there,
    FieldPath.update_update changes.ascending]
  exact ⟨OrderedMap.insert_of_get? first, rfl⟩

/-- The update of a user, done again right away. -/
theorem update_again_moved :
    let updated := (users.perform (fun _ => "") (.update (.document user) moved.members)).store
    (updated.perform (fun _ => "") (.update (.document user) moved.members)).store.documents =
        updated.documents ∧
      updated.documents.get? "users/a" = some
        [("at", .object [("city", .object [("", .null)]), ("zip", .string "7")]),
          ("phones", .object [("home", .string "2")])] :=
  ⟨(update_again (fun _ => "") moved (s := users) (r := user) rfl rfl rfl rfl).1, rfl⟩

end DocDispatch.Store
