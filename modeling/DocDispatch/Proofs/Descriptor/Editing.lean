import Mathlib.Logic.Relation
import DocDispatch.Proofs.Descriptor.Reading

/-!
# Proofs/Descriptor/Editing — edits that do not change what is read

    {types, bailout, query, schema, payload, meta}
                       │       └ {name, key, transform}
                       └ {method, collection, doc, subcollections, where, data, options}
                                                        │                          └ {merge}
                                                        └ [{collection, doc}, …]

The reader looks into objects of five kinds, and into each of them for some properties only.  An
`Edit` adds or takes away a property that says nothing: one that is null, one that is not looked
for, or an empty document.  However many edits are made, and wherever, what is read stays what it
was, be it a descriptor or the rule that is broken (`ofJson_of_edited`).

Three properties are the exception.  Payload and metadata are handed on as they are, null or not;
and the types are required as they stand, so that an error tells null from nothing.
-/

namespace DocDispatch

open Json (Value)

namespace Descriptor

/-! ## Edits -/

/-- The objects the reader looks into. -/
inductive Part where
  | descriptor
  | query
  | options
  | schema
  | step
deriving DecidableEq

namespace Part

/-- The properties that are looked for. -/
def known : Part → List String
  | .descriptor => ["types", "bailout", "query", "schema", "payload", "meta"]
  | .query => ["method", "collection", "doc", "subcollections", "where", "data", "options"]
  | .options => ["merge"]
  | .schema => ["name", "key", "transform"]
  | .step => ["collection", "doc"]

/-- The properties for which null is not the same as nothing. -/
def told : Part → List String
  | .descriptor => ["types", "payload", "meta"]
  | _ => []

/-- The properties whose objects are looked into, and as what. -/
def children : Part → List (String × Part)
  | .descriptor => [("query", .query), ("schema", .schema)]
  | .query => [("options", .options)]
  | _ => []

end Part

/-- **One edit of an object that says nothing**, in the object itself or in one inside it. -/
inductive Edit : Part → Fields → Fields → Prop
  | addNull {part : Part} {m : Fields} {key : String} (untold : key ∉ part.told)
      (absent : m.get? key = none) : Edit part m (m.insert key .null)
  | deleteNull {part : Part} {m : Fields} {key : String} (untold : key ∉ part.told)
      (null : m.get? key = some .null) : Edit part m (m.erase key)
  | addOther {part : Part} {m : Fields} {key : String} (unknown : key ∉ part.known) (v : Value) :
      Edit part m (m.insert key v)
  | deleteOther {part : Part} {m : Fields} {key : String} (unknown : key ∉ part.known) :
      Edit part m (m.erase key)
  | addEmptyDoc {part : Part} {m : Fields} (known : "doc" ∈ part.known)
      (absent : m.get? "doc" = none) : Edit part m (m.insert "doc" (.string ""))
  | deleteEmptyDoc {part : Part} {m : Fields} (known : "doc" ∈ part.known)
      (empty : m.get? "doc" = some (.string "")) : Edit part m (m.erase "doc")
  | inside {part child : Part} {m c c' : Fields} {key : String}
      (isChild : (key, child) ∈ part.children) (there : m.get? key = some (.object c))
      (edit : Edit child c c') : Edit part m (m.insert key (.object c'))
  | insideStep {m s s' : Fields} {before after : List Value}
      (there : m.get? "subcollections" = some (.array (before ++ .object s :: after)))
      (edit : Edit .step s s') :
      Edit .query m (m.insert "subcollections" (.array (before ++ .object s' :: after)))

/-- One edit of a value that is read as a descriptor. -/
inductive Edited : Value → Value → Prop
  | object {m m' : Fields} (edit : Edit .descriptor m m') : Edited (.object m) (.object m')

/-! ## What the readers see -/

section

variable {m m' : Fields}

/-- Nothing of a query is seen but the properties that are looked for. -/
theorem readQuery_congr
    (plain : ∀ key ∈ ["method", "collection", "where", "data"], m'.present? key = m.present? key)
    (subcollections : ∀ requestType,
      readSubcollections requestType m' = readSubcollections requestType m)
    (doc : readSegment m' "doc" = readSegment m "doc") (options : readOptions m' = readOptions m)
    (requestType : String) : readQuery requestType m' = readQuery requestType m := by
  have method : readMethodName m' = readMethodName m := by
    simp only [readMethodName, plain "method" (by decide)]
  have collection : readCollection m' = readCollection m := by
    simp only [readCollection, readSegment, plain "collection" (by decide)]
  have filters : readFilters m' = readFilters m := by
    simp only [readFilters, readExpressions, plain "where" (by decide)]
  have data : readData m' = readData m := by
    simp only [readData, plain "data" (by decide)]
  simp only [readQuery, method, collection, subcollections, readDoc, doc, filters, data, options]

/-- Nothing of a descriptor is seen but the properties that are looked for. -/
theorem ofFields_congr
    (told : ∀ key ∈ Part.descriptor.told, m'.get? key = m.get? key)
    (bailout : m'.present? "bailout" = m.present? "bailout")
    (query : ∀ requestType,
      readQueryObject m' >>= readQuery requestType = readQueryObject m >>= readQuery requestType)
    (schema : readSchema m' = readSchema m) : ofFields m' = ofFields m := by
  -- The query is read as one step, so that an edit inside it comes in as one hypothesis.
  have inOrder (config : Fields) : ofFields config = (do
      let types ← readTypes (config.get? "types")
      let bailout ← readBailout config
      let query ← readQueryObject config >>= readQuery types.request
      let schema ← readSchema config
      pure { types, schema, bailout, query
             payload := config.get? "payload"
             metadata := config.get? "meta" }) := by
    simp only [ofFields, bind_assoc]
  have bailout : readBailout m' = readBailout m := by simp only [readBailout, bailout]
  rw [inOrder, inOrder, told "types" (by decide), told "payload" (by decide),
    told "meta" (by decide), bailout, schema]
  simp only [query]

/-- Entries are read one by one. -/
theorem readSteps_congr {v v' : Value} (same : ∀ index, readStep index v' = readStep index v)
    (before after : List Value) (index : Nat) :
    readSteps index (before ++ v' :: after) = readSteps index (before ++ v :: after) := by
  induction before generalizing index with
  | nil => simp only [List.nil_append, readSteps, same]
  | cons _ before ih => simp only [List.cons_append, readSteps, ih]

end

/-- What is read of a part is the same of two objects. -/
def Part.Same : Part → Fields → Fields → Prop
  | .descriptor, m, m' => ofFields m' = ofFields m
  | .query, m, m' => ∀ requestType, readQuery requestType m' = readQuery requestType m
  | .options, m, m' => SetOptions.ofFields m' = SetOptions.ofFields m
  | .schema, m, m' => readSchemaFields m' = readSchemaFields m
  | .step, m, m' => ∀ index, readStepFields index m' = readStepFields index m

/-! ## One edit -/

/-- Two objects that differ under one property at most. -/
def OnlyAt (key : String) (m m' : Fields) : Prop := ∀ j, j ≠ key → m'.get? j = m.get? j

section

variable {m m' : Fields} {key : String}

/-- An insert is a change at its key only… -/
theorem onlyAt_insert (key : String) (v : Value) (m : Fields) : OnlyAt key m (m.insert key v) :=
  fun _ other => Assoc.get?_insert_of_ne other _ _

/-- …and so is an erasure. -/
theorem onlyAt_erase (key : String) (m : Fields) : OnlyAt key m (m.erase key) :=
  fun _ other => Assoc.get?_erase_of_ne _ other

/-- Other keys read as before… -/
theorem OnlyAt.get? (only : OnlyAt key m m') {keys : List String} (elsewhere : key ∉ keys) :
    ∀ j ∈ keys, m'.get? j = m.get? j :=
  fun j here => only j (ne_of_mem_of_not_mem here elsewhere)

/-- …null or not. -/
theorem OnlyAt.present? (only : OnlyAt key m m') {keys : List String} (elsewhere : key ∉ keys) :
    ∀ j ∈ keys, m'.present? j = m.present? j := by
  intro j here
  simp only [Assoc.present?, only.get? elsewhere j here]

theorem setOptions_congr (same : m'.present? "merge" = m.present? "merge") :
    SetOptions.ofFields m' = SetOptions.ofFields m := by
  have seen (m : Fields) :
      (m.get? "merge").bind Value.asBool? = (m.present? "merge").bind Value.asBool? := by
    rw [Assoc.present?]
    cases m.get? "merge" with
    | none => rfl
    | some v => cases v <;> rfl
  rw [SetOptions.ofFields, SetOptions.ofFields, seen, seen, same]

/-- **Nothing of an object is seen but the properties that are looked for**, and null in these is
nothing unless they are told apart. -/
theorem Part.Same.of_seen {part : Part}
    (known : ∀ key ∈ part.known, m'.present? key = m.present? key)
    (told : ∀ key ∈ part.told, m'.get? key = m.get? key) : part.Same m m' := by
  cases part with
  | descriptor =>
    refine ofFields_congr told (known "bailout" (by decide)) (fun requestType => ?_) ?_
    · simp only [readQueryObject, known "query" (by decide)]
    · simp only [readSchema, known "schema" (by decide)]
  | query =>
    refine readQuery_congr (fun key plain => known key ?_) (fun requestType => ?_) ?_ ?_
    · simp only [List.mem_cons, List.not_mem_nil, or_false] at plain
      rcases plain with rfl | rfl | rfl | rfl <;> decide
    · simp only [readSubcollections, known "subcollections" (by decide)]
    · simp only [readSegment, known "doc" (by decide)]
    · simp only [readOptions, known "options" (by decide)]
  | options => exact setOptions_congr (known "merge" (by decide))
  | schema =>
    simp only [Same, readSchemaFields, readSchemaName, readName, known "name" (by decide),
      known "key" (by decide), known "transform" (by decide)]
  | step =>
    intro index
    simp only [readStepFields, readStepCollection, readStepDoc, known "collection" (by decide),
      known "doc" (by decide)]

/-- A property that is null or nothing in either object, where it is not told apart. -/
theorem Part.Same.of_unset {part : Part} (untold : key ∉ part.told) (only : OnlyAt key m m')
    (unset : m.get? key = none ∨ m.get? key = some .null)
    (unset' : m'.get? key = none ∨ m'.get? key = some .null) : part.Same m m' := by
  refine .of_seen (fun j _ => ?_) (only.get? untold)
  by_cases here : j = key
  · rw [here, Assoc.present?_eq_none_iff.mpr unset, Assoc.present?_eq_none_iff.mpr unset']
  · have elsewhere : key ∉ [j] := fun mem => here (List.mem_singleton.mp mem).symm
    exact only.present? elsewhere j (List.mem_singleton.mpr rfl)

/-- A property that is not looked for. -/
theorem Part.Same.of_unknown {part : Part} (unknown : key ∉ part.known)
    (only : OnlyAt key m m') : part.Same m m' := by
  have known : ∀ j ∈ part.told, j ∈ part.known := by cases part <;> decide
  exact .of_seen (only.present? unknown) (only.get? fun told => unknown (known key told))

/-- A document that is empty or nothing in either object is none in either. -/
theorem Part.Same.of_emptyDoc {part : Part} (known : "doc" ∈ part.known)
    (only : OnlyAt "doc" m m')
    (empty : m.get? "doc" = none ∨ m.get? "doc" = some (.string ""))
    (empty' : m'.get? "doc" = none ∨ m'.get? "doc" = some (.string "")) : part.Same m m' := by
  have unnamed {m : Fields} (empty : m.get? "doc" = none ∨ m.get? "doc" = some (.string "")) :
      m.Gives "doc" none Spells.name none := by
    rcases empty with empty | empty <;> simp [Assoc.Gives, empty, Spells.name]
  cases part with
  | query =>
    have seen := only.present? (by decide : "doc" ∉ ["subcollections", "options"])
    refine readQuery_congr (only.present? (by decide)) (fun requestType => ?_) ?_ ?_
    · simp only [readSubcollections, seen "subcollections" (by decide)]
    · rw [readSegment_eq_ok_iff.mpr (unnamed empty), readSegment_eq_ok_iff.mpr (unnamed empty')]
    · simp only [readOptions, seen "options" (by decide)]
  | step =>
    have seen := only.present? (by decide : "doc" ∉ ["collection"])
    intro index
    simp only [readStepFields, readStepCollection, seen "collection" (by decide),
      readStepDoc_eq_ok_iff.mpr (unnamed empty), readStepDoc_eq_ok_iff.mpr (unnamed empty')]
  | _ => exact absurd known (by decide)

/-- **An object inside, of which what is read is the same.** -/
theorem Part.Same.inside {part child : Part} {c c' : Fields}
    (isChild : (key, child) ∈ part.children) (there : m.get? key = some (.object c))
    (same : child.Same c c') : part.Same m (m.insert key (.object c')) := by
  have only : OnlyAt key m (m.insert key (.object c')) := onlyAt_insert key _ m
  have before : m.present? key = some (.object c) := Assoc.present?_eq_object_iff.mpr there
  have after : Assoc.present? (m.insert key (.object c')) key = some (.object c') :=
    Assoc.present?_eq_object_iff.mpr (Assoc.get?_insert_self _ _ _)
  cases part with
  | descriptor =>
    simp only [children, List.mem_cons, Prod.mk.injEq, List.not_mem_nil, or_false] at isChild
    rcases isChild with ⟨rfl, rfl⟩ | ⟨rfl, rfl⟩
    · have seen := only.present? (by decide : "query" ∉ ["bailout", "schema"])
      refine ofFields_congr (only.get? (by decide)) (seen _ (by decide)) (fun requestType => ?_) ?_
      · simp only [readQueryObject, before, after]
        exact same requestType
      · simp only [readSchema, seen "schema" (by decide)]
    · have seen := only.present? (by decide : "schema" ∉ ["bailout", "query"])
      refine ofFields_congr (only.get? (by decide)) (seen _ (by decide)) (fun requestType => ?_) ?_
      · simp only [readQueryObject, seen "query" (by decide)]
      · simp only [readSchema, before, after, readSchemaValue]
        rw [show readSchemaFields c' = readSchemaFields c from same]
  | query =>
    simp only [children, List.mem_cons, Prod.mk.injEq, List.not_mem_nil, or_false] at isChild
    obtain ⟨rfl, rfl⟩ := isChild
    have seen := only.present? (by decide : "options" ∉ ["subcollections", "doc"])
    refine readQuery_congr (only.present? (by decide)) (fun requestType => ?_) ?_ ?_
    · simp only [readSubcollections, seen "subcollections" (by decide)]
    · simp only [readSegment, seen "doc" (by decide)]
    · simp only [readOptions, before, after]
      rw [show SetOptions.ofFields c' = SetOptions.ofFields c from same]
  | _ => exact absurd isChild List.not_mem_nil

/-- An entry of the subcollections, of which what is read is the same. -/
theorem Part.Same.insideStep {s s' : Fields} {before after : List Value}
    (there : m.get? "subcollections" = some (.array (before ++ .object s :: after)))
    (same : Part.step.Same s s') :
    Part.query.Same m (m.insert "subcollections" (.array (before ++ .object s' :: after))) := by
  have only := onlyAt_insert "subcollections" (.array (before ++ .object s' :: after)) m
  have seen := only.present? (by decide : "subcollections" ∉ ["doc", "options"])
  have here : m.present? "subcollections" = some (.array (before ++ .object s :: after)) :=
    Assoc.present?_eq_array_iff.mpr there
  have here' : Assoc.present? (m.insert "subcollections" (.array (before ++ .object s' :: after)))
      "subcollections" = some (.array (before ++ .object s' :: after)) :=
    Assoc.present?_eq_array_iff.mpr (Assoc.get?_insert_self _ _ _)
  refine readQuery_congr (only.present? (by decide)) (fun requestType => ?_) ?_ ?_
  · simp only [readSubcollections, here, here']
    have entry (i : Nat) : readStep i (.object s') = readStep i (.object s) := same i
    exact readSteps_congr entry before after 0
  · simp only [readSegment, seen "doc" (by decide)]
  · simp only [readOptions, seen "options" (by decide)]

end

/-- **One edit changes nothing that is read.** -/
theorem Edit.same {part : Part} {m m' : Fields} (edit : Edit part m m') : part.Same m m' := by
  induction edit with
  | addNull untold absent =>
    exact .of_unset untold (onlyAt_insert _ _ _) (.inl absent) (.inr (Assoc.get?_insert_self ..))
  | deleteNull untold null =>
    exact .of_unset untold (onlyAt_erase _ _) (.inr null) (.inl (Assoc.get?_erase_self ..))
  | addOther unknown v => exact .of_unknown unknown (onlyAt_insert _ _ _)
  | deleteOther unknown => exact .of_unknown unknown (onlyAt_erase _ _)
  | addEmptyDoc known absent =>
    exact .of_emptyDoc known (onlyAt_insert _ _ _) (.inl absent) (.inr (Assoc.get?_insert_self ..))
  | deleteEmptyDoc known empty =>
    exact .of_emptyDoc known (onlyAt_erase _ _) (.inr empty) (.inl (Assoc.get?_erase_self ..))
  | inside isChild there _ same => exact .inside isChild there same
  | insideStep there _ same => exact .insideStep there same

/-! ## Any number of edits -/

/-- **Any number of edits leaves the descriptor as it was.** -/
theorem ofJson_of_edited {v v' : Value} (edits : Relation.ReflTransGen Edited v v') :
    ofJson v' = ofJson v := by
  induction edits with
  | refl => rfl
  | tail _ edited ih =>
    obtain ⟨edit⟩ := edited
    exact edit.same.trans ih

/-! ## What is handed on -/

section

variable (m : Fields) (v : Value)

/-- What is put under a property that is handed on has no part in what else is read. -/
theorem readers_insert_of_handedOn {key : String} (handedOn : key ∈ ["payload", "meta"]) :
    Assoc.get? (m.insert key v) "types" = m.get? "types" ∧
    readBailout (m.insert key v) = readBailout m ∧
    readQueryObject (m.insert key v) = readQueryObject m ∧
    readSchema (m.insert key v) = readSchema m := by
  have only : OnlyAt key m (m.insert key v) := onlyAt_insert key v m
  have elsewhere : key ∉ ["types", "bailout", "query", "schema"] := by
    simp only [List.mem_cons, List.not_mem_nil, or_false] at handedOn
    rcases handedOn with rfl | rfl <;> decide
  have seen := only.present? elsewhere
  refine ⟨only.get? elsewhere "types" (by decide), ?_, ?_, ?_⟩
  · simp only [readBailout, seen "bailout" (by decide)]
  · simp only [readQueryObject, seen "query" (by decide)]
  · simp only [readSchema, seen "schema" (by decide)]

/-- A payload is handed on as it is, a null one too… -/
theorem ofFields_insert_payload :
    ofFields (m.insert "payload" v) = (ofFields m).map ({ · with payload := some v }) := by
  obtain ⟨types, bailout, query, schema⟩ :=
    readers_insert_of_handedOn m v (by decide : "payload" ∈ ["payload", "meta"])
  change _ = ({ · with payload := some v }) <$> ofFields m
  simp only [ofFields, types, bailout, query, schema, Assoc.get?_insert_self,
    Assoc.get?_insert_of_ne (by decide : "meta" ≠ "payload"), map_bind, map_pure]

/-- …and so is metadata. -/
theorem ofFields_insert_meta :
    ofFields (m.insert "meta" v) = (ofFields m).map ({ · with metadata := some v }) := by
  obtain ⟨types, bailout, query, schema⟩ :=
    readers_insert_of_handedOn m v (by decide : "meta" ∈ ["payload", "meta"])
  change _ = ({ · with metadata := some v }) <$> ofFields m
  simp only [ofFields, types, bailout, query, schema, Assoc.get?_insert_self,
    Assoc.get?_insert_of_ne (by decide : "payload" ≠ "meta"), map_bind, map_pure]

/-- Types are required as they stand. -/
theorem ofFields_of_types_refused {found : DescriptorError.TypesFound}
    (refused : readTypes (m.get? "types") = .error (.typesNotTriple found)) :
    ofFields m = .error (.typesNotTriple found) := by
  rw [ofFields, refused]
  rfl

end

/-! ## The whole -/

/-- **Null is nothing, and properties that are not looked for do not matter.**

* Whatever edits are made, what is read stays what it was: the descriptor, or the error.  An edit
  adds or deletes a property that is null, of any name but those of the types, the payload and the
  metadata; a property that is not looked for; or an empty document.
* What stands under the payload is the payload, null or not, and nothing else depends on it;
* and so it is with the metadata.
* Types that are null are refused as null, and types that are absent as absent. -/
theorem null_is_absent :
    (∀ v v' : Value, Relation.ReflTransGen Edited v v' → ofJson v' = ofJson v) ∧
    ((∀ (m : Fields) (d : Descriptor), ofJson (.object m) = .ok d → d.payload = m.get? "payload") ∧
      ∀ (m : Fields) (v : Value), ofJson (.object (m.insert "payload" v)) =
        (ofJson (.object m)).map ({ · with payload := some v })) ∧
    ((∀ (m : Fields) (d : Descriptor), ofJson (.object m) = .ok d → d.metadata = m.get? "meta") ∧
      ∀ (m : Fields) (v : Value), ofJson (.object (m.insert "meta" v)) =
        (ofJson (.object m)).map ({ · with metadata := some v })) ∧
    ∀ m : Fields, m.get? "types" = none →
      ofJson (.object m) = .error (.typesNotTriple .nothing) ∧
      ofJson (.object (m.insert "types" .null)) = .error (.typesNotTriple (.other .null)) := by
  refine ⟨fun v v' => ofJson_of_edited, ⟨fun m d read => ?_, ofFields_insert_payload⟩,
    ⟨fun m d read => ?_, ofFields_insert_meta⟩, fun m absent => ⟨?_, ?_⟩⟩
  · obtain ⟨config, same, spelled⟩ := ofJson_eq_ok_iff.mp read
    cases same
    exact spelled.payload
  · obtain ⟨config, same, spelled⟩ := ofJson_eq_ok_iff.mp read
    cases same
    exact spelled.metadata
  · exact ofFields_of_types_refused m (by rw [absent]; rfl)
  · exact ofFields_of_types_refused (m.insert "types" .null) (by rw [Assoc.get?_insert_self]; rfl)

/-- Payload and metadata are not the only properties for which null is not the same as nothing. -/
theorem types_told : ¬ ∀ (m : Fields) (key : String), key ∉ ["payload", "meta"] →
    m.get? key = none → ofJson (.object (m.insert key .null)) = ofJson (.object m) := by
  intro untold
  have same := untold [] "types" (by decide) rfl
  exact absurd same (by decide)

/-- A query for the posts of a user, with options and what may follow… -/
def postsOf (options rest : Fields) : Fields :=
  [("collection", .string "users"), ("doc", .string "ada"), ("method", .string "get"),
    ("options", .object options),
    ("subcollections", .array [.object [("collection", .string "posts")]])] ++ rest

/-- …in a call. -/
def calling (query : Fields) : Fields :=
  [("query", .object query), ("types", .array [.string "REQ", .string "OK", .string "FAIL"])]

/-- The call with a null bailout and null under `merge`, and without the null under `where`, reads
as it did, and with a null payload as one that has it; but null types are not absent. -/
theorem null_is_absent_postsOf :
    ofJson (.object (("bailout", .null) :: calling (postsOf [("merge", .null)] []))) =
      .ok { types := ⟨"REQ", "OK", "FAIL"⟩, schema := none, payload := none, metadata := none
            bailout := none, query := ⟨"users", some "ada", [⟨"posts", none⟩], [], .get⟩ } ∧
    ofJson (.object (Assoc.insert "payload" .null (calling (postsOf [] [("where", .null)])))) =
      .ok { types := ⟨"REQ", "OK", "FAIL"⟩, schema := none, payload := some .null, metadata := none
            bailout := none, query := ⟨"users", some "ada", [⟨"posts", none⟩], [], .get⟩ } ∧
    ofJson (.object [("types", .null)]) = .error (.typesNotTriple (.other .null)) := by
  obtain ⟨same, ⟨-, payload⟩, -, types⟩ := null_is_absent
  have inQuery {q q' : Fields} (edit : Edit .query q q') :
      Edited (.object (calling q)) (.object (calling q')) :=
    .object (.inside (by decide : ("query", Part.query) ∈ Part.descriptor.children) rfl edit)
  have filters : Edit .query (postsOf [] [("where", .null)]) (postsOf [] []) :=
    .deleteNull (by decide : "where" ∉ Part.query.told) (by decide)
  have merge : Edit .options [] [("merge", .null)] :=
    .addNull (by decide : "merge" ∉ Part.options.told) (by decide)
  have options : Edit .query (postsOf [] []) (postsOf [("merge", .null)] []) :=
    .inside (by decide : ("options", Part.options) ∈ Part.query.children) (by decide) merge
  have bailout : Edit .descriptor (calling (postsOf [("merge", .null)] []))
      (("bailout", .null) :: calling (postsOf [("merge", .null)] [])) :=
    .addNull (by decide : "bailout" ∉ Part.descriptor.told) (by decide)
  have plain : ofJson (.object (calling (postsOf [] [("where", .null)]))) =
      .ok { types := ⟨"REQ", "OK", "FAIL"⟩, schema := none, payload := none, metadata := none
            bailout := none, query := ⟨"users", some "ada", [⟨"posts", none⟩], [], .get⟩ } := rfl
  refine ⟨(same _ _ ?_).trans plain, ?_, (types [] rfl).2⟩
  · exact ((Relation.ReflTransGen.single (inQuery filters)).tail (inQuery options)).tail
      (.object bailout)
  · rw [payload, plain]
    rfl

end Descriptor

end DocDispatch
