import DocDispatch.Proofs.Descriptor.Grammar

/-!
# Proofs/Descriptor/Spelling — what is grammatical spells a descriptor

The two ways in which the grammar is written down agree: a form is what spells something
(`exists_gives_and_iff`), so a part is spelled just where the conditions on it are met, and
`Descriptor.exists_spelledBy_iff` says so of the whole.  Only the subcollections take more than one
property at a time: what has to be named in one depends on whether another follows.
-/

namespace DocDispatch

open Json (Value)

section Lists

variable {α β : Type} {R : α → β → Prop}

/-- What holds of all but the last, by the first. -/
theorem forall_mem_dropLast_cons {P : α → Prop} {a : α} {as : List α} :
    (∀ x ∈ (a :: as).dropLast, P x) ↔ (as ≠ [] → P a) ∧ ∀ x ∈ as.dropLast, P x := by
  cases as with
  | nil => simp
  | cons b as => simp

/-- Partners for all can be found one by one. -/
theorem exists_forall₂_and_iff {P : β → Prop} {xs : List α} :
    (∃ ys, List.Forall₂ R xs ys ∧ ∀ y ∈ ys, P y) ↔ ∀ x ∈ xs, ∃ y, R x y ∧ P y := by
  induction xs with
  | nil => simp
  | cons x xs ih =>
    rw [List.forall_mem_cons, ← ih]
    constructor
    · rintro ⟨_, _ | ⟨first, rest⟩, hP⟩
      rw [List.forall_mem_cons] at hP
      exact ⟨⟨_, first, hP.1⟩, _, rest, hP.2⟩
    · rintro ⟨⟨y, first, hy⟩, ys, rest, hys⟩
      exact ⟨y :: ys, .cons first rest, List.forall_mem_cons.mpr ⟨hy, hys⟩⟩

/-- Partners for all, with a condition on all of them but the last. -/
theorem exists_forall₂_dropLast_iff {P : β → Prop} {xs : List α} :
    (∃ ys, List.Forall₂ R xs ys ∧ ∀ y ∈ ys.dropLast, P y) ↔
      (∀ x ∈ xs, ∃ y, R x y) ∧ ∀ x ∈ xs.dropLast, ∃ y, R x y ∧ P y := by
  induction xs with
  | nil => simp
  | cons x xs ih =>
    rw [forall_mem_dropLast_cons, List.forall_mem_cons]
    constructor
    · rintro ⟨_, _ | ⟨first, rest⟩, hP⟩
      rw [forall_mem_dropLast_cons] at hP
      obtain ⟨each, inner⟩ := ih.mp ⟨_, rest, hP.2⟩
      refine ⟨⟨⟨_, first⟩, each⟩, fun more => ⟨_, first, hP.1 ?_⟩, inner⟩
      rintro rfl
      cases rest
      exact more rfl
    · rintro ⟨⟨⟨y, first⟩, each⟩, next, inner⟩
      obtain ⟨ys, rest, hys⟩ := ih.mpr ⟨each, inner⟩
      by_cases last : xs = []
      · subst last
        cases rest
        exact ⟨[y], .cons first .nil, nofun⟩
      · obtain ⟨y', first', hy'⟩ := next last
        exact ⟨y' :: ys, .cons first' rest, forall_mem_dropLast_cons.mpr ⟨fun _ => hy', hys⟩⟩

end Lists

namespace Assoc

variable {α : Type} {m : Fields} {key : String}

/-- **A property gives something just where it is unset or of a form that spells something**, also
under a condition that what stands for an unset one meets. -/
theorem exists_gives_and_iff {unset : α} {spells : Value → α → Prop} {P : α → Prop}
    (hP : P unset) :
    (∃ a, m.Gives key unset spells a ∧ P a) ↔ m.Allows key fun v => ∃ a, spells v a ∧ P a := by
  simp only [gives_iff, allows_iff]
  cases m.present? key with
  | none => simpa using hP
  | some v => simp

/-- **A member gives something where it has the form of what spells it.** -/
theorem exists_gives_iff {unset : α} {spells : Value → α → Prop} :
    (∃ a, m.Gives key unset spells a) ↔ m.Allows key fun v => ∃ a, spells v a := by
  simp only [gives_iff, allows_iff]
  cases m.present? key with
  | none => simp
  | some v => simp

/-- A form may be replaced by an equivalent one. -/
theorem allows_congr {form form' : Value → Prop} (h : ∀ v, form v ↔ form' v) :
    m.Allows key form ↔ m.Allows key form' := by
  rw [funext fun v => propext (h v)]

/-- A text is given by text, or by nothing… -/
theorem exists_text_iff :
    (∃ name, m.Gives key none Spells.text name) ↔ m.Allows key Value.IsText := by
  rw [exists_gives_iff]
  exact allows_congr fun v => by simp [Spells.text, Value.IsText]

/-- …and so is a name, since an empty text names nothing. -/
theorem exists_name_iff : (∃ d, m.Gives key none Spells.name d) ↔ m.Allows key Value.IsText := by
  rw [exists_gives_iff]
  exact allows_congr fun v => by simp [Spells.name, Value.IsText]

theorem exists_fields_iff :
    (∃ data, m.Gives key [] Spells.fields data) ↔ m.Allows key Value.IsObject := by
  rw [exists_gives_iff]
  exact allows_congr fun v => Iff.rfl

theorem exists_options_iff :
    (∃ o, m.Gives key ⟨false⟩ Spells.options o) ↔ m.Allows key Value.IsObject := by
  rw [exists_gives_iff]
  refine allows_congr fun v => ⟨?_, ?_⟩
  · rintro ⟨o, options, rfl, -⟩
    exact ⟨options, rfl⟩
  · rintro ⟨options, rfl⟩
    exact ⟨⟨Assoc.get? options "merge" = some (.bool true)⟩, options, rfl, decide_eq_true_iff⟩

/-- Expressions are given by one or by a list of them. -/
theorem exists_expressions_iff :
    (∃ es, m.Gives key [] Spells.expressions es ∧ ∀ e ∈ es, ∃ f, Filter.parse e = .ok f) ↔
      m.Allows key fun v => v.IsExpression ∨
        ∃ items, v = .array items ∧ ∀ item ∈ items, item.IsExpression := by
  rw [exists_gives_and_iff (List.forall_mem_nil _)]
  refine allows_congr fun v => ?_
  simp only [Spells.expressions, Value.IsExpression, ← exists_forall₂_and_iff]
  constructor
  · rintro ⟨es, ⟨s, rfl, rfl⟩ | ⟨items, rfl, texts⟩, parsed⟩
    · exact Or.inl ⟨s, rfl, parsed s (List.mem_singleton.mpr rfl)⟩
    · exact Or.inr ⟨items, rfl, es, texts, parsed⟩
  · rintro (⟨s, rfl, parsed⟩ | ⟨items, rfl, es, texts, parsed⟩)
    · exact ⟨[s], Or.inl ⟨s, rfl, rfl⟩, by simpa using parsed⟩
    · exact ⟨es, Or.inr ⟨items, rfl, texts⟩, parsed⟩

/-- **A property gives a name just where it is one.** -/
theorem gives_some_iff {name : String} :
    m.Gives key none Spells.name (some name) ↔ m.get? key = some (.string name) ∧ name ≠ "" := by
  unfold Gives Spells.name
  split
  · simp_all
  · simp_all
  · rename_i v there
    constructor
    · rintro ⟨s, rfl, same⟩
      by_cases empty : s = ""
      · rw [if_pos empty] at same
        cases same
      · rw [if_neg empty] at same
        cases same
        exact ⟨there, empty⟩
    · rintro ⟨same, named⟩
      rw [there, Option.some_inj] at same
      exact ⟨name, same, by rw [if_neg named]⟩

/-- A document is given where the member names one. -/
theorem Gives.ne_none_iff {d : Option String} (h : m.Gives key none Spells.name d) :
    d ≠ none ↔ m.Names key := by
  constructor
  · intro some
    obtain ⟨name, rfl⟩ := Option.ne_none_iff_exists'.mp some
    exact ⟨name, gives_some_iff.mp h⟩
  · rintro ⟨name, there, named⟩
    unfold Gives at h
    rw [there] at h
    obtain ⟨s, same, rfl⟩ := h
    cases same
    simp [named]

end Assoc

/-! ### Part by part -/

/-- **Whatever has the form of a step spells one**… -/
theorem PathStep.exists_spelledBy_iff {m : Fields} :
    (∃ s : PathStep, s.SpelledBy m) ↔ Grammatical.Step m := by
  constructor
  · rintro ⟨s, collection, named, doc⟩
    exact ⟨⟨_, collection, named⟩, Assoc.exists_name_iff.mp ⟨_, doc⟩⟩
  · rintro ⟨⟨c, collection, named⟩, doc⟩
    obtain ⟨d, doc⟩ := Assoc.exists_name_iff.mpr doc
    exact ⟨⟨c, d⟩, collection, named, doc⟩

/-- …and whatever has that of a schema… -/
theorem SchemaDescriptor.exists_spelledBy_iff {m : Fields} :
    (∃ s : SchemaDescriptor, s.SpelledBy m) ↔ Grammatical.Schema m := by
  constructor
  · rintro ⟨s, name, named, key, transform⟩
    exact ⟨⟨_, name, named⟩, Assoc.exists_text_iff.mp ⟨_, key⟩,
      Assoc.exists_text_iff.mp ⟨_, transform⟩⟩
  · rintro ⟨⟨n, name, named⟩, key, transform⟩
    obtain ⟨k, key⟩ := Assoc.exists_text_iff.mpr key
    obtain ⟨t, transform⟩ := Assoc.exists_text_iff.mpr transform
    exact ⟨⟨n, k, t⟩, name, named, key, transform⟩

theorem Spells.exists_step_iff {v : Value} :
    (∃ s, step v s) ↔ ∃ m, v = .object m ∧ Grammatical.Step m := by
  simp only [step, ← PathStep.exists_spelledBy_iff]
  exact ⟨fun ⟨s, m, same, h⟩ => ⟨m, same, s, h⟩, fun ⟨m, same, s, h⟩ => ⟨s, m, same, h⟩⟩

/-- The steps inside the path name their documents; that is a condition on the list and not on its
items. -/
theorem Assoc.exists_steps_iff {m : Fields} (collection : String) {d : Option String}
    (doc : m.Gives "doc" none Spells.name d) :
    (∃ steps, m.Gives "subcollections" [] Spells.steps steps ∧
        ∀ s ∈ (⟨collection, d⟩ :: steps : List PathStep).dropLast, s.doc ≠ none) ↔
      m.Allows "subcollections" fun v => ∃ items, v = .array items ∧
        Grammatical.Subcollections m items := by
  rw [exists_gives_and_iff (List.forall_mem_nil _)]
  refine allows_congr fun v => ?_
  simp only [forall_mem_dropLast_cons, doc.ne_none_iff]
  constructor
  · rintro ⟨steps, ⟨items, rfl, spelled⟩, top, inner⟩
    obtain ⟨each, inner⟩ := exists_forall₂_dropLast_iff.mp ⟨steps, spelled, inner⟩
    refine ⟨items, rfl, fun more => top ?_, fun item hi => Spells.exists_step_iff.mp (each item hi),
      fun item hi => ?_⟩
    · rintro rfl
      cases spelled
      exact more rfl
    · obtain ⟨s, ⟨m', rfl, spelled⟩, named⟩ := inner item hi
      exact ⟨m', rfl, spelled.doc.ne_none_iff.mp named⟩
  · rintro ⟨items, rfl, top, each, inner⟩
    obtain ⟨steps, spelled, inner⟩ : ∃ steps, List.Forall₂ Spells.step items steps ∧
        ∀ s ∈ steps.dropLast, s.doc ≠ none := by
      refine exists_forall₂_dropLast_iff.mpr
        ⟨fun item hi => Spells.exists_step_iff.mpr (each item hi), fun item hi => ?_⟩
      obtain ⟨s, m', rfl, spelled⟩ :=
        Spells.exists_step_iff.mpr (each item (List.dropLast_subset _ hi))
      obtain ⟨_, same, named⟩ := inner _ hi
      cases same
      exact ⟨s, ⟨m', rfl, spelled⟩, spelled.doc.ne_none_iff.mpr named⟩
    refine ⟨steps, ⟨items, rfl, spelled⟩, fun more => top ?_, inner⟩
    rintro rfl
    cases spelled
    exact more rfl

/-- **Each name is that of a method.** -/
theorem Method.exists_takes {name : String} (known : name ∈ names) (data : Fields)
    (options : SetOptions) : ∃ method : Method, method.Takes data options ∧ method.name = name := by
  simp only [names, List.mem_cons, List.not_mem_nil, or_false] at known
  rcases known with rfl | rfl | rfl | rfl | rfl
  · exact ⟨.subscribe, by simp [Takes], rfl⟩
  · exact ⟨.get, by simp [Takes], rfl⟩
  · exact ⟨.set data options, by simp [Takes], rfl⟩
  · exact ⟨.update data, by simp [Takes], rfl⟩
  · exact ⟨.add data, by simp [Takes], rfl⟩

theorem Method.name_mem_names (method : Method) : method.name ∈ names := by
  cases method <;> simp [name, names]

/-- …and whatever has that of a query, whose data and options only some methods take. -/
theorem Query.exists_spelledBy_iff {m : Fields} :
    (∃ q : Query, q.SpelledBy m) ↔ Grammatical.Query m := by
  constructor
  · rintro ⟨q, method, ⟨data, options, takes, hdata, hoptions⟩, collection, named, doc,
      subcollections, inner, filters, parsed⟩
    exact {
      method := ⟨_, q.method.name_mem_names, method⟩
      collection := ⟨_, collection, named⟩
      doc := Assoc.exists_name_iff.mp ⟨_, doc⟩
      subcollections := (Assoc.exists_steps_iff _ doc).mp ⟨_, subcollections, inner⟩
      filters := Assoc.exists_expressions_iff.mp ⟨_, filters, parsed⟩
      data := Assoc.exists_fields_iff.mp ⟨_, hdata⟩
      options := Assoc.exists_options_iff.mp ⟨_, hoptions⟩ }
  · rintro ⟨⟨name, known, method⟩, ⟨c, collection, named⟩, doc, subcollections, filters, data,
      options⟩
    obtain ⟨d, doc⟩ := Assoc.exists_name_iff.mpr doc
    obtain ⟨steps, subcollections, inner⟩ :=
      (Assoc.exists_steps_iff c doc).mpr subcollections
    obtain ⟨es, filters, parsed⟩ := Assoc.exists_expressions_iff.mpr filters
    obtain ⟨fields, hdata⟩ := Assoc.exists_fields_iff.mpr data
    obtain ⟨o, hoptions⟩ := Assoc.exists_options_iff.mpr options
    obtain ⟨called, takes, rfl⟩ := Method.exists_takes known fields o
    exact ⟨⟨c, d, steps, es, called⟩, method, ⟨fields, o, takes, hdata, hoptions⟩, collection,
      named, doc, subcollections, inner, filters, parsed⟩

theorem Assoc.exists_schema_iff {m : Fields} {key : String} :
    (∃ schema, m.Gives key none Spells.schema schema) ↔
      m.Allows key fun v => ∃ schema, v = .object schema ∧ Grammatical.Schema schema := by
  rw [exists_gives_iff]
  refine allows_congr fun v => ?_
  simp only [← SchemaDescriptor.exists_spelledBy_iff]
  constructor
  · rintro ⟨_, schema, s, rfl, rfl, spelled⟩
    exact ⟨schema, rfl, s, spelled⟩
  · rintro ⟨schema, rfl, s, spelled⟩
    exact ⟨some s, schema, s, rfl, rfl, spelled⟩

/-- **What is grammatical spells a descriptor, and nothing else does.** -/
theorem Descriptor.exists_spelledBy_iff {config : Fields} :
    (∃ d : Descriptor, d.SpelledBy config) ↔ Grammatical.Config config := by
  constructor
  · rintro ⟨d, types, bailout, ⟨q, there, query⟩, schema, -, -⟩
    exact ⟨⟨_, _, _, types⟩, Assoc.exists_text_iff.mp ⟨_, bailout⟩,
      ⟨q, there, Query.exists_spelledBy_iff.mp ⟨_, query⟩⟩, Assoc.exists_schema_iff.mp ⟨_, schema⟩⟩
  · rintro ⟨⟨request, success, failure, types⟩, bailout, ⟨q, there, query⟩, schema⟩
    obtain ⟨b, bailout⟩ := Assoc.exists_text_iff.mpr bailout
    obtain ⟨called, query⟩ := Query.exists_spelledBy_iff.mpr query
    obtain ⟨s, schema⟩ := Assoc.exists_schema_iff.mpr schema
    exact ⟨⟨⟨request, success, failure⟩, s, config.get? "payload", config.get? "meta", b, called⟩,
      types, bailout, ⟨q, there, query⟩, schema, rfl, rfl⟩

end DocDispatch
