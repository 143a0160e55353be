import DocDispatch.Proofs.Descriptor.Spelling

/-!
# Proofs/Descriptor/Reading — every reader reads what its property spells, and nothing else

One law a reader: it succeeds with exactly what the property spells.  The readers run in sequence,
so their laws come together by `bind_eq_ok_iff`, and `ofJson_eq_ok_iff` says of the last of them
that it succeeds with a descriptor just where the value spells it.
-/

namespace DocDispatch

open Json (Value)

section

variable {ε α β : Type}

/-- A sequence succeeds where each of its parts does… -/
theorem bind_eq_ok_iff {x : Except ε α} {f : α → Except ε β} {b : β} :
    x >>= f = .ok b ↔ ∃ a, x = .ok a ∧ f a = .ok b := by
  cases x with
  | error e => simp [bind, Except.bind]
  | ok a => simp [bind, Except.bind]

/-- A check has nothing to hand on. -/
theorem check_eq_ok_iff {x : Except ε Unit} {y : Except ε β} {b : β} :
    (x >>= fun _ => y) = .ok b ↔ x = .ok () ∧ y = .ok b := by
  rw [bind_eq_ok_iff]
  exact ⟨fun ⟨(), h⟩ => h, fun h => ⟨(), h⟩⟩

/-- A refusal that comes first has to be passed. -/
theorem refusal_eq_ok_iff {P : Prop} [Decidable P] {e : ε} {x : Except ε β} {b : β} :
    (if P then (.error e : Except ε Unit) >>= fun _ => x else x) = .ok b ↔ ¬ P ∧ x = .ok b := by
  by_cases h : P
  · simp [h, bind, Except.bind]
  · simp [h]

/-- A traversal succeeds with what it finds at each element, in order. -/
theorem mapM_eq_ok_iff {f : α → Except ε β} {xs : List α} {ys : List β} :
    xs.mapM f = .ok ys ↔ List.Forall₂ (fun x y => f x = .ok y) xs ys := by
  induction xs generalizing ys with
  | nil => simp [pure, Except.pure, eq_comm]
  | cons x xs ih =>
    simp only [List.mapM_cons, bind_eq_ok_iff, ih, List.forall₂_cons_left_iff]
    constructor
    · rintro ⟨y, first, ys', rest, same⟩
      cases same
      exact ⟨y, ys', first, rest, rfl⟩
    · rintro ⟨y, ys', first, rest, rfl⟩
      exact ⟨y, first, ys', rest, rfl⟩

/-- …and fails by the first part that does. -/
theorem bind_eq_error_iff {x : Except ε α} {f : α → Except ε β} {e : ε} :
    x >>= f = .error e ↔ x = .error e ∨ ∃ a, x = .ok a ∧ f a = .error e := by
  cases x with
  | error e' => simp [bind, Except.bind]
  | ok a => simp [bind, Except.bind]

/-- **A traversal fails as it does at the first element at which it fails.** -/
theorem mapM_eq_error_iff {f : α → Except ε β} {xs : List α} {e : ε} :
    xs.mapM f = .error e ↔ ∃ before x after, xs = before ++ x :: after ∧
      (∀ y ∈ before, ∃ b, f y = .ok b) ∧ f x = .error e := by
  induction xs with
  | nil => simp [pure, Except.pure]
  | cons x xs ih =>
    rw [List.mapM_cons, bind_eq_error_iff]
    simp only [bind_eq_error_iff, pure, Except.pure, reduceCtorEq, and_false, exists_false,
      or_false, ih]
    constructor
    · rintro (here | ⟨b, passed, before, y, after, rfl, parsed, fails⟩)
      · exact ⟨[], x, xs, rfl, List.forall_mem_nil _, here⟩
      · exact ⟨x :: before, y, after, rfl, List.forall_mem_cons.mpr ⟨⟨b, passed⟩, parsed⟩, fails⟩
    · rintro ⟨_ | ⟨first, before⟩, y, after, parts, parsed, fails⟩
      · obtain ⟨rfl, rfl⟩ := List.cons.inj parts
        exact Or.inl fails
      · obtain ⟨rfl, rfl⟩ := List.cons.inj parts
        obtain ⟨⟨b, passed⟩, parsed⟩ := List.forall_mem_cons.mp parsed
        exact Or.inr ⟨b, passed, before, y, after, rfl, parsed, fails⟩

end

/-- **Filters parse one by one.** -/
theorem Filter.parseAll_eq_ok_iff {es : List String} {fs : List Filter} :
    parseAll es = .ok fs ↔ List.Forall₂ (fun e f => parse e = .ok f) es fs :=
  mapM_eq_ok_iff

theorem Filter.exists_parseAll_iff {es : List String} :
    (∃ fs, parseAll es = .ok fs) ↔ ∀ e ∈ es, ∃ f, parse e = .ok f := by
  simpa [parseAll_eq_ok_iff] using exists_forall₂_and_iff (P := fun _ => True)

namespace Descriptor

variable {m : Fields}

/-- A text is read as a name unless it is empty. -/
theorem named_eq_ok_iff {e : DescriptorError} {s name : String} :
    (if s = "" then .error e else .ok s : Checked String) = .ok name ↔ s = name ∧ name ≠ "" := by
  by_cases empty : s = ""
  · rw [if_pos empty, empty]
    simp [eq_comm]
  · rw [if_neg empty, Except.ok.injEq, iff_self_and]
    rintro rfl
    exact empty

/-! ## Types and bailout -/

/-- **A reader succeeds on what spells its result.**  For each reader below the result is the one
that its place in the value spells; here, an action type is a text. -/
theorem readType_eq_ok_iff {index : Nat} {v : Value} {s : String} :
    readType index v = .ok s ↔ v = .string s := by
  cases v <;> simp [readType]

/-- **The action types are three texts and nothing else.** -/
theorem readTypes_eq_ok_iff {v : Option Value} {t : ActionTypes} :
    readTypes v = .ok t ↔
      v = some (.array [.string t.request, .string t.success, .string t.failure]) := by
  unfold readTypes
  split
  · simp only [bind_eq_ok_iff, readType_eq_ok_iff, Option.some_inj, Value.array.injEq,
      List.cons.injEq, and_true]
    constructor
    · rintro ⟨request, first, success, second, failure, third, same⟩
      cases same
      exact ⟨first, second, third⟩
    · rintro ⟨first, second, third⟩
      exact ⟨_, first, _, second, _, third, rfl⟩
  · rename_i items other
    simp only [reduceCtorEq, Option.some_inj, Value.array.injEq, false_iff]
    exact fun same => other _ _ _ same
  · rename_i v other
    simp only [reduceCtorEq, Option.some_inj, false_iff]
    exact fun same => other _ same
  · simp

theorem readBailout_eq_ok_iff {b : Option String} :
    readBailout m = .ok b ↔ m.Gives "bailout" none Spells.text b := by
  rw [Assoc.gives_iff, readBailout]
  cases m.present? "bailout" with
  | none => simp [eq_comm]
  | some v => cases v <;> simp [Spells.text, eq_comm]

/-! ## Parts of the query -/

theorem readQueryObject_eq_ok_iff {q : Fields} :
    readQueryObject m = .ok q ↔ m.get? "query" = some (.object q) := by
  rw [← Assoc.present?_eq_object_iff, readQueryObject]
  split <;> simp_all

/-- **A method is read where it is one of the five.** -/
theorem readMethodName_eq_ok_iff {name : String} :
    readMethodName m = .ok name ↔
      m.get? "method" = some (.string name) ∧ name ∈ Method.names := by
  have unnamed : "" ∉ Method.names := by decide
  rw [← Assoc.present?_eq_string_iff, readMethodName]
  split
  · simp_all
  · rename_i s there
    rw [there, Option.some_inj, Value.string.injEq]
    by_cases empty : s = ""
    · rw [if_pos empty, empty]
      simp only [reduceCtorEq, false_iff]
      rintro ⟨rfl, known⟩
      exact unnamed known
    · by_cases known : s ∈ Method.names
      · rw [if_neg empty, if_pos known, Except.ok.injEq, iff_self_and]
        rintro rfl
        exact known
      · rw [if_neg empty, if_neg known]
        simp only [reduceCtorEq, false_iff]
        rintro ⟨rfl, known'⟩
        exact known known'
  · simp_all

/-- **A segment is text or absent**; an empty one counts as absent. -/
theorem readSegment_eq_ok_iff {field : String} {d : Option String} :
    readSegment m field = .ok d ↔ m.Gives field none Spells.name d := by
  rw [Assoc.gives_iff, readSegment]
  cases m.present? field with
  | none => simp [eq_comm]
  | some v => cases v <;> simp [Spells.name, eq_comm]

theorem readCollection_eq_ok_iff {c : String} :
    readCollection m = .ok c ↔ m.get? "collection" = some (.string c) ∧ c ≠ "" := by
  rw [← Assoc.gives_some_iff, readCollection, bind_eq_ok_iff]
  constructor
  · rintro ⟨d, read, found⟩
    cases d with
    | none => cases found
    | some c' =>
      cases found
      exact readSegment_eq_ok_iff.mp read
  · intro gives
    exact ⟨some c, readSegment_eq_ok_iff.mpr gives, rfl⟩

/-! ## Subcollections -/

theorem readStepCollection_eq_ok_iff {index : Nat} {c : String} :
    readStepCollection index m = .ok c ↔
      m.get? "collection" = some (.string c) ∧ c ≠ "" := by
  rw [← Assoc.present?_eq_string_iff, readStepCollection]
  split
  · simp_all
  · rename_i s there
    rw [there, named_eq_ok_iff, Option.some_inj, Value.string.injEq]
  · simp_all

theorem readStepDoc_eq_ok_iff {index : Nat} {d : Option String} :
    readStepDoc index m = .ok d ↔ m.Gives "doc" none Spells.name d := by
  rw [Assoc.gives_iff, readStepDoc]
  cases m.present? "doc" with
  | none => simp [eq_comm]
  | some v => cases v <;> simp [Spells.name, eq_comm]

/-- A step is read from its collection and its document. -/
theorem readStepFields_eq_ok_iff {index : Nat} {s : PathStep} :
    readStepFields index m = .ok s ↔ s.SpelledBy m := by
  simp only [readStepFields, bind_eq_ok_iff, readStepCollection_eq_ok_iff, readStepDoc_eq_ok_iff]
  constructor
  · rintro ⟨c, ⟨collection, named⟩, d, doc, same⟩
    cases same
    exact ⟨collection, named, doc⟩
  · rintro ⟨collection, named, doc⟩
    exact ⟨_, ⟨collection, named⟩, _, doc, rfl⟩

theorem readStep_eq_ok_iff {index : Nat} {v : Value} {s : PathStep} :
    readStep index v = .ok s ↔ Spells.step v s := by
  cases v <;> simp [readStep, readStepFields_eq_ok_iff, Spells.step]

/-- Steps are read one by one. -/
theorem readSteps_eq_ok_iff {index : Nat} {items : List Value} {steps : List PathStep} :
    readSteps index items = .ok steps ↔
      List.Forall₂ Spells.step items steps := by
  induction items generalizing index steps with
  | nil => simp [readSteps, eq_comm]
  | cons item items ih =>
    simp only [readSteps, bind_eq_ok_iff, readStep_eq_ok_iff, ih, List.forall₂_cons_left_iff]
    constructor
    · rintro ⟨s, first, steps', rest, same⟩
      cases same
      exact ⟨s, steps', first, rest, rfl⟩
    · rintro ⟨s, steps', first, rest, rfl⟩
      exact ⟨s, first, steps', rest, rfl⟩

theorem readSubcollections_eq_ok_iff {requestType : String} {steps : List PathStep} :
    readSubcollections requestType m = .ok steps ↔
      m.Gives "subcollections" [] Spells.steps steps := by
  rw [Assoc.gives_iff, readSubcollections]
  cases m.present? "subcollections" with
  | none => simp [eq_comm]
  | some v => cases v <;> simp [Spells.steps, readSteps_eq_ok_iff]

/-- Every step but the last has to name a document. -/
theorem checkInnerDocs_eq_ok_iff {index : Nat} {steps : List PathStep} :
    checkInnerDocs index steps = .ok () ↔ ∀ s ∈ steps.dropLast, s.doc ≠ none := by
  induction steps generalizing index with
  | nil => simp [checkInnerDocs]
  | cons step steps ih =>
    cases steps with
    | nil => simp [checkInnerDocs]
    | cons next steps =>
      rw [checkInnerDocs, List.dropLast_cons_cons, List.forall_mem_cons, ← @ih (index + 1)]
      by_cases nowhere : step.doc = none
      · simp [nowhere]
      · simp [nowhere]

/-- Below each step but the last there is a document to go on from: the query's own, if any
subcollections follow it, and one in each of these but the last. -/
theorem readDoc_eq_ok_iff (collection : String) {steps : List PathStep} {d : Option String} :
    readDoc m steps = .ok d ↔ m.Gives "doc" none Spells.name d ∧
      ∀ s ∈ (⟨collection, d⟩ :: steps : List PathStep).dropLast, s.doc ≠ none := by
  have inner (doc : Option String) :
      ¬ (steps ≠ [] ∧ doc = none) ∧ (∀ s ∈ steps.dropLast, s.doc ≠ none) ↔
        ∀ s ∈ (⟨collection, doc⟩ :: steps : List PathStep).dropLast, s.doc ≠ none := by
    rw [forall_mem_dropLast_cons, not_and]
  rw [readDoc, bind_eq_ok_iff]
  simp only [refusal_eq_ok_iff, check_eq_ok_iff, readSegment_eq_ok_iff, checkInnerDocs_eq_ok_iff,
    ← and_assoc, inner]
  constructor
  · rintro ⟨doc, ⟨gives, named⟩, same⟩
    cases same
    exact ⟨gives, named⟩
  · rintro ⟨gives, named⟩
    exact ⟨d, ⟨gives, named⟩, rfl⟩

/-! ## Filters, data and options -/

theorem readExpression_eq_ok_iff {v : Value} {e : String} :
    readExpression v = .ok e ↔ v = .string e := by
  cases v <;> simp [readExpression]

/-- **One expression may stand for a list of one.** -/
theorem readExpressions_eq_ok_iff {es : List String} :
    readExpressions m = .ok es ↔ m.Gives "where" [] Spells.expressions es := by
  rw [Assoc.gives_iff, readExpressions]
  cases m.present? "where" with
  | none => simp [eq_comm]
  | some v =>
    cases v with
    | string s => simp [Spells.expressions, eq_comm]
    | array items =>
      simp [Spells.expressions, mapM_eq_ok_iff, readExpression_eq_ok_iff]
    | _ => simp [Spells.expressions]

/-- **Filters are read where they parse**, as they are written. -/
theorem readFilters_eq_ok_iff {es : List String} :
    readFilters m = .ok es ↔
      m.Gives "where" [] Spells.expressions es ∧ ∀ e ∈ es, ∃ f, Filter.parse e = .ok f := by
  simp only [readFilters, bind_eq_ok_iff, readExpressions_eq_ok_iff,
    ← Filter.exists_parseAll_iff]
  constructor
  · rintro ⟨es', gives, checked⟩
    split at checked
    · cases checked
      exact ⟨gives, _, by assumption⟩
    · cases checked
  · rintro ⟨gives, fs, parsed⟩
    exact ⟨es, gives, by rw [parsed]; rfl⟩

theorem readData_eq_ok_iff {data : Fields} :
    readData m = .ok data ↔ m.Gives "data" [] Spells.fields data := by
  rw [Assoc.gives_iff, readData]
  cases m.present? "data" with
  | none => simp [eq_comm]
  | some v => cases v <;> simp [Spells.fields]

/-- Options merge where `merge` is `true`, and not where it is anything like it. -/
theorem merge_ofFields_iff {options : Fields} :
    (SetOptions.ofFields options).merge = true ↔ options.get? "merge" = some (.bool true) := by
  unfold SetOptions.ofFields
  cases options.get? "merge" with
  | none => simp
  | some v => cases v <;> simp [Value.asBool?]

theorem readOptions_eq_ok_iff {o : SetOptions} :
    readOptions m = .ok o ↔ m.Gives "options" .default Spells.options o := by
  rw [Assoc.gives_iff, readOptions]
  cases m.present? "options" with
  | none => simp [eq_comm]
  | some v =>
    cases v with
    | object options =>
      have same : SetOptions.ofFields options = o ↔
          (o.merge = true ↔ Assoc.get? options "merge" = some (.bool true)) := by
        rw [← merge_ofFields_iff, ← Bool.eq_iff_iff]
        cases o
        simp only [SetOptions.mk.injEq, SetOptions.ofFields, eq_comm]
      simp [Spells.options, same]
    | _ => simp [Spells.options]

/-- **A method takes the data and options that it needs, and drops the others.** -/
theorem ofName?_eq_some_iff {name : String} {data : Fields} {options : SetOptions}
    {method : Method} :
    Method.ofName? name data options = some method ↔
      name = method.name ∧ method.Takes data options := by
  unfold Method.ofName? Method.Takes
  constructor
  · intro h
    split at h <;> cases h <;> simp [Method.name]
  · rintro ⟨rfl, takes⟩
    simp only [List.mem_cons, List.not_mem_nil, or_false] at takes
    rcases takes with rfl | rfl | rfl | rfl | rfl <;> rfl

/-- **A query is read as it is spelled.** -/
theorem readQuery_eq_ok_iff {requestType : String} {q : Query} :
    readQuery requestType m = .ok q ↔ q.SpelledBy m := by
  simp only [readQuery, bind_eq_ok_iff, readMethodName_eq_ok_iff, readCollection_eq_ok_iff,
    readSubcollections_eq_ok_iff, readFilters_eq_ok_iff, readData_eq_ok_iff, readOptions_eq_ok_iff]
  constructor
  · rintro ⟨name, ⟨method, known⟩, collection, ⟨there, named⟩, steps, subcollections, doc, docRead,
      es, ⟨filters, parsed⟩, data, hdata, options, hoptions, rest⟩
    obtain ⟨hdoc, inner⟩ := (readDoc_eq_ok_iff collection).mp docRead
    split at rest
    · rename_i found
      obtain ⟨rfl, takes⟩ := ofName?_eq_some_iff.mp found
      cases rest
      exact ⟨method, ⟨data, options, takes, hdata, hoptions⟩, there, named, hdoc, subcollections,
        inner, filters, parsed⟩
    · cases rest
  · rintro ⟨method, ⟨data, options, takes, hdata, hoptions⟩, there, named, hdoc, subcollections,
      inner, filters, parsed⟩
    refine ⟨_, ⟨method, ?_⟩, _, ⟨there, named⟩, _, subcollections, _,
      (readDoc_eq_ok_iff _).mpr ⟨hdoc, inner⟩, _, ⟨filters, parsed⟩, data, hdata, options, hoptions,
      ?_⟩
    · exact q.method.name_mem_names
    · rw [ofName?_eq_some_iff.mpr ⟨rfl, takes⟩]
      rfl

/-! ## The schema -/

theorem readSchemaName_eq_ok_iff {name : String} :
    readSchemaName m = .ok name ↔ m.get? "name" = some (.string name) ∧ name ≠ "" := by
  rw [← Assoc.present?_eq_string_iff, readSchemaName]
  split
  · rename_i s there
    rw [there, named_eq_ok_iff, Option.some_inj, Value.string.injEq]
  · simp_all

theorem readName_eq_ok_iff {key : String} {fault : Json.Kind → DescriptorError.SchemaFault}
    {name : Option String} :
    readName m key fault = .ok name ↔ m.Gives key none Spells.text name := by
  rw [Assoc.gives_iff, readName]
  cases m.present? key with
  | none => simp [eq_comm]
  | some v => cases v <;> simp [Spells.text, eq_comm]

/-- …and a schema. -/
theorem readSchemaFields_eq_ok_iff {s : SchemaDescriptor} :
    readSchemaFields m = .ok s ↔ s.SpelledBy m := by
  simp only [readSchemaFields, bind_eq_ok_iff, readSchemaName_eq_ok_iff, readName_eq_ok_iff]
  constructor
  · rintro ⟨name, ⟨there, named⟩, key, keyed, transform, transformed, same⟩
    cases same
    exact ⟨there, named, keyed, transformed⟩
  · rintro ⟨there, named, keyed, transformed⟩
    exact ⟨_, ⟨there, named⟩, _, keyed, _, transformed, rfl⟩

theorem readSchema_eq_ok_iff {schema : Option SchemaDescriptor} :
    readSchema m = .ok schema ↔ m.Gives "schema" none Spells.schema schema := by
  rw [Assoc.gives_iff, readSchema]
  cases m.present? "schema" with
  | none => simp [eq_comm]
  | some v =>
    cases v with
    | object m =>
      have read : (readSchemaFields m).map some = .ok schema ↔
          ∃ s, schema = some s ∧ readSchemaFields m = .ok s := by
        cases readSchemaFields m <;> simp [Except.map, eq_comm]
      simp [readSchemaValue, read, Spells.schema, readSchemaFields_eq_ok_iff]
    | _ => simp [readSchemaValue, Spells.schema, Except.map]

/-! ## The whole -/

/-- **A value is read as a descriptor just where it is an object that spells it.** -/
theorem ofJson_eq_ok_iff {v : Value} {d : Descriptor} :
    ofJson v = .ok d ↔ ∃ config, v = .object config ∧ d.SpelledBy config := by
  cases v with
  | object config =>
    simp only [ofJson, Value.asObject?, Option.getD_some, ofFields, bind_eq_ok_iff,
      readTypes_eq_ok_iff, readBailout_eq_ok_iff, readQueryObject_eq_ok_iff, readQuery_eq_ok_iff,
      readSchema_eq_ok_iff]
    constructor
    · rintro ⟨types, htypes, bailout, hbailout, q, there, query, hquery, schema, hschema, same⟩
      cases same
      exact ⟨config, rfl, htypes, hbailout, ⟨q, there, hquery⟩, hschema, rfl, rfl⟩
    · rintro ⟨_, same, types, bailout, ⟨q, there, query⟩, schema, payload, metadata⟩
      cases same
      exact ⟨_, types, _, bailout, q, there, _, query, _, schema, by
        rw [← payload, ← metadata]
        rfl⟩
  | _ =>
    have refused : ofFields [] = .error (.typesNotTriple .nothing) := rfl
    simp [ofJson, Value.asObject?, refused]

/-- **The reader accepts exactly the grammar**, and what it reads is what is written there: a value
is read as some descriptor if and only if it meets the conditions, and as this one if and only if
each part of it is what its property spells. -/
theorem ofJson_accepts_grammar (v : Value) :
    ((∃ d, ofJson v = .ok d) ↔ Grammatical v) ∧
    ∀ d, ofJson v = .ok d ↔ ∃ config, v = .object config ∧ d.SpelledBy config := by
  refine ⟨?_, fun d => ofJson_eq_ok_iff⟩
  simp only [ofJson_eq_ok_iff, Grammatical, ← exists_spelledBy_iff]
  constructor
  · rintro ⟨d, config, rfl, spelled⟩
    exact ⟨config, rfl, d, spelled⟩
  · rintro ⟨config, rfl, d, spelled⟩
    exact ⟨d, config, rfl, spelled⟩

end Descriptor

end DocDispatch
