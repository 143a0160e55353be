import Mathlib.Data.List.Forall2
import DocDispatch.Proofs.Assoc
import DocDispatch.Schema.Normalize

/-!
# Proofs/Schema/Filing — what becomes of the documents of a response

    document  ──entity──▸  fields  ──transform──▸  value  ──key──▸  id  ──text──▸  filed
                 ╰not an object      ╰refused, panic   ╰not an object    ╰missing, invalid

A document is filed (`Files`), or it fails at the first of the checks on this way that it does not
pass (`FailsWith`).  Normalizing goes through the documents in order: the first that fails decides
how the response fails, and otherwise the entities are those filed last under their ids
(`normalize_iff`).
-/

namespace DocDispatch

open Json (Value)

namespace Schema

/-! ## One document -/

/-- What the transform makes of an entity, or the entity itself if there is none. -/
inductive Becomes (s : Schema) (fields : Fields) : Value → Prop
  | same (plain : s.transform = none) : Becomes s fields (.object fields)
  | transformed {name : String} {transform : Transform} {v : Value}
      (given : s.transform = some (name, transform))
      (made : transform (.object fields) = .entity v) : Becomes s fields v

variable {D : Type} [AsEntity D]

/-- **A document that is filed**: it becomes an object whose field under the key has a text. -/
inductive Files (s : Schema) (doc : D) : Filed → Prop
  | mk {fields entity : Fields} {id : Value} {text : String}
      (isEntity : AsEntity.entity doc = .ok fields) (becomes : s.Becomes fields (.object entity))
      (keyed : Assoc.get? entity s.key = some id) (hasText : idText? id = some text) :
      Files s doc ⟨id, text, .object entity⟩

/-- **The first check that the document at some place does not pass**, with what is reported. -/
inductive FailsWith (s : Schema) (index : Nat) (doc : D) : Fault SchemaError → Prop
  | noEntity {e : SchemaError} (h : AsEntity.entity doc = .error e) :
      FailsWith s index doc (.error e)
  | refused {fields : Fields} {name message : String} {transform : Transform}
      (isEntity : AsEntity.entity doc = .ok fields) (given : s.transform = some (name, transform))
      (made : transform (.object fields) = .refused message) :
      FailsWith s index doc (.error (.transform name message))
  | panicked {fields : Fields} {name : String} {transform : Transform}
      (isEntity : AsEntity.entity doc = .ok fields) (given : s.transform = some (name, transform))
      (made : transform (.object fields) = .panicked) : FailsWith s index doc .panic
  | notObject {fields : Fields} {v : Value} (isEntity : AsEntity.entity doc = .ok fields)
      (becomes : s.Becomes fields v) (other : v.kind ≠ .object) :
      FailsWith s index doc (.error (.notObject v.kind))
  | missingKey {fields entity : Fields} (isEntity : AsEntity.entity doc = .ok fields)
      (becomes : s.Becomes fields (.object entity))
      (missing : Assoc.get? entity s.key = none ∨ Assoc.get? entity s.key = some .null) :
      FailsWith s index doc (.error (.missingKey s.key index))
  | invalidKey {fields entity : Fields} {id : Value} (isEntity : AsEntity.entity doc = .ok fields)
      (becomes : s.Becomes fields (.object entity)) (keyed : Assoc.get? entity s.key = some id)
      (invalid : id.kind = .array ∨ id.kind = .object) :
      FailsWith s index doc (.error (.invalidKey s.key index id.kind))

/-- What an entity becomes is what the transform makes of it. -/
theorem transformed_of_becomes {s : Schema} {fields : Fields} {v : Value} (h : s.Becomes fields v) :
    s.transformed (.object fields) = .ok v := by
  rcases h with plain | ⟨given, made⟩
  · rw [transformed, plain]
  · simp only [transformed, given, made]

section

variable {s : Schema} {index : Nat} {doc : D}

/-- What is an entity is transformed and then filed. -/
theorem fileDocument_of_entity {fields : Fields} (isEntity : AsEntity.entity doc = .ok fields) :
    s.fileDocument index doc =
      (s.transformed (.object fields)).bind fun v => (s.file index v).mapError Fault.error := by
  rw [fileDocument, isEntity]
  rfl

/-- A document is filed as what its entity becomes… -/
theorem fileDocument_of_becomes {fields : Fields} {v : Value}
    (isEntity : AsEntity.entity doc = .ok fields) (becomes : s.Becomes fields v) :
    s.fileDocument index doc = (s.file index v).mapError Fault.error := by
  rw [fileDocument_of_entity isEntity, transformed_of_becomes becomes]
  rfl

/-- …so it is filed where it files… -/
theorem fileDocument_of_files {f : Filed} (h : s.Files doc f) :
    s.fileDocument index doc = .ok f := by
  obtain @⟨fields, entity, id, text, isEntity, becomes, keyed, hasText⟩ := h
  rw [fileDocument_of_becomes isEntity becomes]
  cases id with
  | null => cases hasText
  | _ => simp only [file, keyed, hasText, Except.mapError]

/-- …and fails where it fails. -/
theorem fileDocument_of_failsWith {fault : Fault SchemaError} (h : s.FailsWith index doc fault) :
    s.fileDocument index doc = .error fault := by
  cases h with
  | noEntity h =>
    rw [fileDocument, h]
    rfl
  | refused isEntity given made | panicked isEntity given made =>
    rw [fileDocument_of_entity isEntity]
    simp only [transformed, given, made]
    rfl
  | @notObject _ v isEntity becomes other =>
    rw [fileDocument_of_becomes isEntity becomes]
    cases v with
    | object => exact absurd rfl other
    | _ => rfl
  | missingKey isEntity becomes missing =>
    rw [fileDocument_of_becomes isEntity becomes]
    rcases missing with missing | missing
    · simp only [file, missing, Except.mapError]
    · simp only [file, missing, Except.mapError]
  | @invalidKey _ _ id isEntity becomes keyed invalid =>
    rw [fileDocument_of_becomes isEntity becomes]
    cases id with
    | array | object => simp only [file, keyed, idText?, Except.mapError]
    | _ => simp [Value.kind] at invalid

/-- There is nothing else that can become of a document. -/
theorem files_or_failsWith (s : Schema) (index : Nat) (doc : D) :
    (∃ f, s.Files doc f) ∨ ∃ fault, s.FailsWith index doc fault := by
  cases isEntity : AsEntity.entity doc with
  | error e => exact .inr ⟨_, .noEntity isEntity⟩
  | ok fields =>
    have keyed {v : Value} (becomes : s.Becomes fields v) :
        (∃ f, s.Files doc f) ∨ ∃ fault, s.FailsWith index doc fault := by
      cases v with
      | object entity =>
        cases keyed : Assoc.get? entity s.key with
        | none => exact .inr ⟨_, .missingKey isEntity becomes (.inl keyed)⟩
        | some id =>
          cases id with
          | null => exact .inr ⟨_, .missingKey isEntity becomes (.inr keyed)⟩
          | array => exact .inr ⟨_, .invalidKey isEntity becomes keyed (.inl rfl)⟩
          | object => exact .inr ⟨_, .invalidKey isEntity becomes keyed (.inr rfl)⟩
          | _ => exact .inl ⟨_, .mk isEntity becomes keyed rfl⟩
      | _ => exact .inr ⟨_, .notObject isEntity becomes nofun⟩
    cases given : s.transform with
    | none => exact keyed (.same given)
    | some named =>
      cases made : named.2 (.object fields) with
      | entity v => exact keyed (.transformed given made)
      | refused message => exact .inr ⟨_, .refused isEntity given made⟩
      | panicked => exact .inr ⟨_, .panicked isEntity given made⟩

end

/-! ## All documents -/

section

variable {s : Schema}

/-- **The first document that fails ends the filing**… -/
theorem fileAll_cons_of_failsWith {index : Nat} {doc : D} {fault : Fault SchemaError}
    (fails : s.FailsWith index doc fault) (docs : List D) :
    s.fileAll index (doc :: docs) = .error fault := by
  rw [fileAll, fileDocument_of_failsWith fails]
  rfl

/-- …and before it they are filed one by one. -/
theorem fileAll_cons_of_files {index : Nat} {doc : D} {f : Filed} (files : s.Files doc f)
    (docs : List D) :
    s.fileAll index (doc :: docs) = (s.fileAll (index + 1) docs).map (f :: ·) := by
  rw [fileAll, fileDocument_of_files files]
  change (s.fileAll (index + 1) docs).bind _ = _
  cases s.fileAll (index + 1) docs <;> rfl

/-- **All documents are filed exactly if each of them is**, in order. -/
theorem fileAll_eq_ok_iff : ∀ (docs : List D) (index : Nat) {filed : List Filed},
    s.fileAll index docs = .ok filed ↔ List.Forall₂ s.Files docs filed
  | [], index, filed => by
      rw [List.forall₂_nil_left_iff, fileAll, Except.ok.injEq, eq_comm]
  | doc :: docs, index, filed => by
      have ih {rest : List Filed} : s.fileAll (index + 1) docs = .ok rest ↔
          List.Forall₂ s.Files docs rest := fileAll_eq_ok_iff docs (index + 1)
      rw [List.forall₂_cons_left_iff]
      constructor
      · intro h
        obtain ⟨f, files⟩ | ⟨fault, fails⟩ := files_or_failsWith s index doc
        · rw [fileAll_cons_of_files files] at h
          cases filedRest : s.fileAll (index + 1) docs with
          | error =>
            rw [filedRest] at h
            cases h
          | ok rest =>
            rw [filedRest] at h
            cases h
            exact ⟨f, rest, files, ih.mp filedRest, rfl⟩
        · rw [fileAll_cons_of_failsWith fails] at h
          cases h
      · rintro ⟨f, rest, files, filesRest, rfl⟩
        rw [fileAll_cons_of_files files, ih.mpr filesRest]
        rfl

/-- **The first document that fails decides how all of them fail.** -/
theorem fileAll_eq_error_iff (fault : Fault SchemaError) : ∀ (docs : List D) (index : Nat),
    s.fileAll index docs = .error fault ↔ ∃ before doc after, docs = before ++ doc :: after ∧
      (∀ d ∈ before, ∃ f, s.Files d f) ∧ s.FailsWith (index + before.length) doc fault
  | [], index => by simp [fileAll]
  | doc :: docs, index => by
      have ih := fileAll_eq_error_iff fault docs (index + 1)
      have later {f : Filed} (files : s.Files doc f) :
          s.fileAll index (doc :: docs) = .error fault ↔
            s.fileAll (index + 1) docs = .error fault := by
        rw [fileAll_cons_of_files files]
        cases s.fileAll (index + 1) docs <;> simp [Except.map]
      constructor
      · intro h
        obtain ⟨f, files⟩ | ⟨fault, fails⟩ := files_or_failsWith s index doc
        · obtain ⟨before, failing, after, rfl, filesBefore, fails⟩ := ih.mp ((later files).mp h)
          refine ⟨doc :: before, failing, after, rfl, ?_, ?_⟩
          · exact List.forall_mem_cons.mpr ⟨⟨f, files⟩, filesBefore⟩
          · rwa [List.length_cons, Nat.add_comm before.length, ← Nat.add_assoc]
        · rw [fileAll_cons_of_failsWith fails] at h
          cases h
          exact ⟨[], doc, docs, rfl, by simp, fails⟩
      · rintro ⟨_ | ⟨first, before⟩, failing, after, same, filesBefore, fails⟩ <;> cases same
        · exact fileAll_cons_of_failsWith fails docs
        · obtain ⟨⟨f, files⟩, filesBefore⟩ := List.forall_mem_cons.mp filesBefore
          rw [later files, ih]
          refine ⟨before, failing, after, rfl, filesBefore, ?_⟩
          rwa [List.length_cons, Nat.add_comm before.length, ← Nat.add_assoc] at fails

end

/-! ## The entities -/

/-- **The entities kept of filed documents**: those of one collection, and of the documents with one
text the last. -/
structure Keeps (s : Schema) (filed : List Filed) (n : Normalized) : Prop where
  ids : n.ids = filed.map Filed.id
  collections : n.entities.members.map Prod.fst = [s.name]
  last (text : String) (v : Value) : n.entity? s.name text = some v ↔
    ∃ before f after, filed = before ++ f :: after ∧ f.text = text ∧ f.entity = v ∧
      ∀ g ∈ after, g.text ≠ text

/-- The entities made of filed documents. -/
def normalized (s : Schema) (filed : List Filed) : Normalized where
  entities := .ofList [(s.name, .ofList (filed.map fun f => (f.text, f.entity)))]
  ids := filed.map Filed.id

section

variable {s : Schema}

/-- Entities are looked up by the texts of their ids. -/
theorem entity?_normalized (filed : List Filed) (text : String) :
    (s.normalized filed).entity? s.name text =
      Assoc.get? (Assoc.ofList (filed.map fun f => (f.text, f.entity))) text := by
  have collection : (s.normalized filed).entities.get? s.name =
      some (.ofList (filed.map fun f => (f.text, f.entity))) := Assoc.get?_insert_self _ _ _
  rw [Normalized.entity?, collection]
  rfl

/-- **What has been filed is kept**, the last under each text. -/
theorem keeps_normalized (filed : List Filed) : s.Keeps filed (s.normalized filed) where
  ids := rfl
  collections := rfl
  last text v := by
    rw [entity?_normalized, Assoc.get?_ofList_eq_some_iff]
    constructor
    · rintro ⟨before, after, whole, others⟩
      obtain ⟨before, rest, rfl, rfl, tail⟩ := List.map_eq_append_iff.mp whole
      obtain ⟨f, after, rfl, same, rfl⟩ := List.map_eq_cons_iff.mp tail
      cases same
      exact ⟨before, f, after, rfl, rfl, rfl, fun g hg => others _ (List.mem_map_of_mem hg)⟩
    · rintro ⟨before, f, after, rfl, rfl, rfl, others⟩
      exact ⟨before.map _, after.map _, by rw [List.map_append, List.map_cons],
        List.forall_mem_map.mpr others⟩

theorem Keeps.exists_byText {filed : List Filed} {n : Normalized} (h : s.Keeps filed n) :
    ∃ byText : OrderedMap Value, n.entities.members = [(s.name, byText)] ∧
      ∀ text, n.entity? s.name text = Assoc.get? byText.members text := by
  obtain ⟨⟨name, byText⟩, members, rfl⟩ := List.map_eq_singleton_iff.mp h.collections
  refine ⟨byText, members, fun text => ?_⟩
  have collection : n.entities.get? s.name = some byText := by
    rw [OrderedMap.get?, members]
    exact if_pos rfl
  rw [Normalized.entity?, collection]
  rfl

/-- What is kept determines the entities. -/
theorem Keeps.unique {filed : List Filed} {n m : Normalized} (hn : s.Keeps filed n)
    (hm : s.Keeps filed m) : n = m := by
  obtain ⟨byText, members, found⟩ := hn.exists_byText
  obtain ⟨byText', members', found'⟩ := hm.exists_byText
  have same : byText = byText' :=
    OrderedMap.ext <| byText.ascending.ext byText'.ascending fun text => Option.ext fun v => by
      rw [← found, ← found', hn.last, hm.last]
  have entities : n.entities = m.entities := OrderedMap.ext (by rw [members, members', same])
  have ids : n.ids = m.ids := by rw [hn.ids, hm.ids]
  cases n
  cases m
  rw [Normalized.mk.injEq]
  exact ⟨entities, ids⟩

/-- A response is normalized by filing its documents in order. -/
theorem normalize_eq {response : Response D} :
    s.normalize response = (s.fileAll 0 response.toList).map s.normalized := by
  rw [normalize]
  cases s.fileAll 0 response.toList <;> rfl

/-- **It succeeds where every document files**… -/
theorem normalize_eq_ok_iff {response : Response D} {n : Normalized} :
    s.normalize response = .ok n ↔
      ∃ filed, List.Forall₂ s.Files response.toList filed ∧ s.Keeps filed n := by
  simp only [← fileAll_eq_ok_iff response.toList 0]
  rw [normalize_eq]
  constructor
  · intro h
    cases filed : s.fileAll 0 response.toList with
    | error =>
      rw [filed] at h
      cases h
    | ok filed' =>
      rw [filed] at h
      cases h
      exact ⟨filed', rfl, keeps_normalized filed'⟩
  · rintro ⟨filed, all, keeps⟩
    rw [all, keeps.unique (keeps_normalized filed)]
    rfl

/-- …and fails by the first that does not, and as that one does. -/
theorem normalize_eq_error_iff {response : Response D} {fault : Fault SchemaError} :
    s.normalize response = .error fault ↔
      ∃ before doc after, response.toList = before ++ doc :: after ∧
        (∀ d ∈ before, ∃ f, s.Files d f) ∧ s.FailsWith before.length doc fault := by
  have failed : s.normalize response = .error fault ↔
      s.fileAll 0 response.toList = .error fault := by
    rw [normalize_eq]
    cases s.fileAll 0 response.toList <;> simp [Except.map]
  rw [failed, fileAll_eq_error_iff]
  simp only [Nat.zero_add]

/-- An entity is filed under the text of its own id. -/
theorem Files.keyed {doc : D} {f : Filed} (h : s.Files doc f) : ∃ entity,
    f.entity = .object entity ∧ Assoc.get? entity s.key = some f.id ∧
      idText? f.id = some f.text := by
  obtain ⟨-, -, keyed, hasText⟩ := h
  exact ⟨_, rfl, keyed, hasText⟩

/-- **What is kept is under the text of its own id**, and under the text of each id something is. -/
theorem Keeps.keyed {docs : List D} {filed : List Filed} {n : Normalized}
    (files : List.Forall₂ s.Files docs filed) (h : s.Keeps filed n) :
    (∀ text, (∃ v, n.entity? s.name text = some v) ↔ ∃ id ∈ n.ids, idText? id = some text) ∧
      ∀ text v, n.entity? s.name text = some v → ∃ entity id, v = .object entity ∧
        Assoc.get? entity s.key = some id ∧ idText? id = some text := by
  have each : ∀ f ∈ filed, ∃ entity, f.entity = .object entity ∧
      Assoc.get? entity s.key = some f.id ∧ idText? f.id = some f.text := by
    clear h
    induction files with
    | nil => simp
    | cons file _ ih => exact List.forall_mem_cons.mpr ⟨file.keyed, ih⟩
  constructor
  · intro text
    rw [h.unique (keeps_normalized filed), entity?_normalized, Assoc.exists_get?_ofList_iff]
    constructor
    · rintro ⟨_, hp, rfl⟩
      obtain ⟨f, hf, rfl⟩ := List.mem_map.mp hp
      obtain ⟨-, -, -, hasText⟩ := each f hf
      exact ⟨f.id, List.mem_map_of_mem hf, hasText⟩
    · rintro ⟨_, hid, hasText⟩
      obtain ⟨f, hf, rfl⟩ := List.mem_map.mp hid
      obtain ⟨-, -, -, hasText'⟩ := each f hf
      exact ⟨_, List.mem_map_of_mem hf, Option.some_inj.mp (hasText'.symm.trans hasText)⟩
  · intro text v found
    obtain ⟨before, f, after, rfl, rfl, rfl, -⟩ := (h.last text v).mp found
    obtain ⟨entity, isObject, keyed, hasText⟩ := each f (by simp)
    exact ⟨entity, f.id, isObject, keyed, hasText⟩

/-- A document of a store is its id under its own fields. -/
theorem entity_snapshot {doc : Snapshot} (ordered : (doc.data.getD []).Ascending) : ∃ fields,
    AsEntity.entity doc = .ok fields ∧ ∀ key, Assoc.get? fields key =
      (Assoc.get? (doc.data.getD []) key).or (if "id" = key then some (.string doc.id) else none) :=
  ⟨_, rfl, Assoc.get?_merge ordered.distinct _⟩

/-- Of JSON values the objects are entities. -/
theorem entity_value {v : Value} {e : SchemaError} :
    AsEntity.entity v = .error e ↔ v.kind ≠ .object ∧ e = .notObject v.kind := by
  cases v with
  | object fields => exact ⟨nofun, fun h => absurd rfl h.1⟩
  | _ =>
    exact ⟨fun h => ⟨nofun, (Except.error.inj h).symm⟩, fun h => congrArg Except.error h.2.symm⟩

/-- **How a response is normalized.**  The first document that fails decides how it fails; otherwise
every document is filed, there is one id for each of them, in order, and the entities are those
filed last under their texts, each under the text of its own id.  A document of a store is an entity
by its fields, put over its id, and a JSON value if it is an object. -/
theorem normalize_iff (s : Schema) (response : Response D) :
    (∀ fault, s.normalize response = .error fault ↔
      ∃ before doc after, response.toList = before ++ doc :: after ∧
        (∀ d ∈ before, ∃ f, s.Files d f) ∧ s.FailsWith before.length doc fault) ∧
    (∀ n, s.normalize response = .ok n ↔
      ∃ filed, List.Forall₂ s.Files response.toList filed ∧ s.Keeps filed n) ∧
    (∀ n, s.normalize response = .ok n → n.ids.length = response.toList.length ∧
      (∀ text, (∃ v, n.entity? s.name text = some v) ↔ ∃ id ∈ n.ids, idText? id = some text) ∧
      ∀ text v, n.entity? s.name text = some v → ∃ entity id, v = .object entity ∧
        Assoc.get? entity s.key = some id ∧ idText? id = some text) ∧
    (∀ doc : Snapshot, (doc.data.getD []).Ascending → ∃ fields, AsEntity.entity doc = .ok fields ∧
      ∀ key, Assoc.get? fields key = (Assoc.get? (doc.data.getD []) key).or
        (if "id" = key then some (.string doc.id) else none)) ∧
    ∀ (v : Value) (e : SchemaError),
      AsEntity.entity v = .error e ↔ v.kind ≠ .object ∧ e = .notObject v.kind := by
  refine ⟨fun _ => normalize_eq_error_iff, fun _ => normalize_eq_ok_iff, fun n h => ?_,
    fun _ => entity_snapshot, fun _ _ => entity_value⟩
  obtain ⟨filed, files, keeps⟩ := normalize_eq_ok_iff.mp h
  refine ⟨?_, keeps.keyed files⟩
  rw [keeps.ids, List.length_map, files.length_eq]

/-- The first document has an id of its own, a boolean with the text of the second one's id. -/
theorem normalize_iff_sameText : ∃ n : Normalized,
    Schema.normalize ⟨"users", none, none⟩ (.many [
      Snapshot.of "users/a" [("id", .bool true)],
      Snapshot.of "users/true" [("name", .string "b")]]) = .ok n ∧
    n.ids = [.bool true, .string "true"] ∧
    n.entity? "users" "true" = some (.object [("id", .string "true"), ("name", .string "b")]) ∧
    n.entity? "users" "a" = none := by
  let users : Schema := ⟨"users", none, none⟩
  let filed : List Filed := [
    ⟨.bool true, "true", .object [("id", .bool true)]⟩,
    ⟨.string "true", "true", .object [("id", .string "true"), ("name", .string "b")]⟩]
  have files : List.Forall₂ users.Files [Snapshot.of "users/a" [("id", .bool true)],
      Snapshot.of "users/true" [("name", .string "b")]] filed :=
    .cons (.mk rfl (.same rfl) rfl rfl) (.cons (.mk rfl (.same rfl) rfl rfl) .nil)
  have keeps := users.keeps_normalized filed
  obtain ⟨-, normalized, kept, -⟩ := users.normalize_iff (.many [
    Snapshot.of "users/a" [("id", .bool true)], Snapshot.of "users/true" [("name", .string "b")]])
  have normalized := (normalized (users.normalized filed)).mpr ⟨filed, files, keeps⟩
  refine ⟨_, normalized, rfl, (keeps.last _ _).mpr ⟨[_], _, [], rfl, rfl, rfl, nofun⟩, ?_⟩
  have texts : ∀ id ∈ (users.normalized filed).ids, idText? id ≠ some "a" := by
    simp [Schema.normalized, filed, idText?]
  by_contra found
  obtain ⟨id, hid, text⟩ :=
    ((kept _ normalized).2.1 "a").mp (Option.ne_none_iff_exists'.mp found)
  exact texts id hid text

end

end Schema

end DocDispatch
