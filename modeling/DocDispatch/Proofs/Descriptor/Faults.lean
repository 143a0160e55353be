import DocDispatch.Proofs.Descriptor.Reading
import DocDispatch.Proofs.Descriptor.Rules

/-!
# Proofs/Descriptor/Faults — what a reader fails with

A reader of one property fails exactly as the rule for what stands there demands.  The rules see
properties from outside and by their paths, the readers have them at hand: for what is demanded it
makes no difference.
-/

namespace DocDispatch

open Json (Key Kind Value)

namespace Descriptor

variable {m : Fields} {e : DescriptorError}

/-- **A value that is there fails a demand by its kind alone.** -/
theorem demand_eq_some_iff {kinds : List Kind} {missing : Option DescriptorError}
    {misfit : Kind → DescriptorError} {v : Value} :
    demand kinds missing misfit (some v) = some e ↔ v.kind ∉ kinds ∧ misfit v.kind = e := by
  unfold demand
  split <;> simp_all

theorem given_get? (m : Fields) (key : String) : given (m.get? key) = m.present? key := rfl

/-- What is not given has no items… -/
theorem item?_of_absent {key : String} (absent : m.present? key = none) (i : Nat) :
    (m.get? key).bind (·.item? i) = none := by
  rcases Assoc.present?_eq_none_iff.mp absent with there | there <;> rw [there] <;> rfl

/-- …and no members. -/
theorem member_of_absent {key : String} (absent : m.present? key = none) (member : String) :
    (m.get? key).bind (·.get? member) = none := by
  rcases Assoc.present?_eq_none_iff.mp absent with there | there <;> rw [there] <;> rfl

/-! ## Types, bailout and query -/

/-- **A reader fails by its rule.**  For each reader below the error is what its rule demands of the
place it reads, and of nothing else; here, an action type has to be text. -/
theorem readType_eq_error_iff {i : Nat} {v : Value} : readType i v = .error e ↔
    demand [.string] none (.typeNotString i) (some v) = some e := by
  rw [demand_eq_some_iff]
  cases v <;> simp [readType, Value.kind]

/-- **A predicate is named by text, if at all.** -/
theorem readBailout_eq_error_iff : readBailout m = .error e ↔
    demand [.string] none .bailoutNotName (given (m.get? "bailout")) = some e := by
  rw [given_get?, readBailout]
  cases m.present? "bailout" with
  | none => simp [demand]
  | some v => cases v <;> simp [demand, Value.kind]

/-- **There has to be a query, and `false` counts as none.** -/
theorem readQueryObject_eq_error_iff : readQueryObject m = .error e ↔
    demand [.object] (some .noQuery) .queryNotObject
      ((given (m.get? "query")).filter fun v => v.asBool? ≠ some false) = some e := by
  rw [given_get?, readQueryObject]
  cases m.present? "query" with
  | none => simp [demand]
  | some v =>
    cases v with
    | bool b => cases b <;> simp [demand, Option.filter_some, Value.kind, Value.asBool?]
    | _ => simp [demand, Option.filter_some, Value.kind, Value.asBool?]

/-- **The method has to be one of the five.** -/
theorem readMethodName_eq_error_iff : readMethodName m = .error e ↔
    notMethod (named (m.get? "method")) = some e := by
  rw [readMethodName, Assoc.present?, named]
  cases m.get? "method" with
  | none => simp [notMethod]
  | some v =>
    cases v with
    | string s =>
      by_cases empty : s = "" <;> by_cases known : s ∈ Method.names <;>
        simp_all [notMethod, Option.filter_some, Value.isNull, Value.isBlank]
    | _ => simp [notMethod, Option.filter_some, Value.isNull, Value.isBlank]

theorem readSegment_eq_error_iff {field : String} : readSegment m field = .error e ↔
    demand [.string] none (.segmentNotString field) (given (m.get? field)) = some e := by
  rw [given_get?, readSegment]
  cases m.present? field with
  | none => simp [demand]
  | some v => cases v <;> simp [demand, Value.kind]

/-- **The collection has to be named.** -/
theorem readCollection_eq_error_iff : readCollection m = .error e ↔
    demand [.string] (some .noCollection) (.segmentNotString "collection")
      (named (m.get? "collection")) = some e := by
  rw [readCollection, readSegment, Assoc.present?, named]
  cases m.get? "collection" with
  | none => simp [demand, bind, Except.bind]
  | some v =>
    cases v with
    | string s =>
      by_cases empty : s = "" <;>
        simp [empty, demand, Option.filter_some, Value.isNull, Value.isBlank, Value.kind, bind,
          Except.bind, pure, Except.pure]
    | _ =>
      simp [demand, Option.filter_some, Value.isNull, Value.isBlank, Value.kind, bind, Except.bind]

/-! ## Subcollections -/

/-- A subcollection that is no object fails before anything is read from it. -/
theorem readStep_of_noObject {i : Nat} {v : Value} (isNoObject : v.kind ≠ .object) :
    readStep i v = .error (.badSubcollection i (.notObject v.kind)) := by
  cases v with
  | object step => exact absurd rfl isNoObject
  | _ => rfl

/-- Its collection has to be named as well… -/
theorem readStepCollection_eq_error_iff {i : Nat} : readStepCollection i m = .error e ↔
    demand [.string] (some (.badSubcollection i .noCollection))
      (fun kind => .badSubcollection i (.collectionKind kind))
      (named (m.get? "collection")) = some e := by
  rw [readStepCollection, Assoc.present?, named]
  cases m.get? "collection" with
  | none => simp [demand]
  | some v =>
    cases v with
    | string s =>
      by_cases empty : s = "" <;>
        simp [empty, demand, Option.filter_some, Value.isNull, Value.isBlank, Value.kind]
    | _ => simp [demand, Option.filter_some, Value.isNull, Value.isBlank, Value.kind]

/-- …and its document is text, if it has one. -/
theorem readStepDoc_eq_error_iff {i : Nat} : readStepDoc i m = .error e ↔
    demand [.string] none (fun kind => .badSubcollection i (.docKind kind))
      (given (m.get? "doc")) = some e := by
  rw [given_get?, readStepDoc]
  cases m.present? "doc" with
  | none => simp [demand]
  | some v => cases v <;> simp [demand, Value.kind]

/-! ## Filters, data and options -/

theorem readExpression_eq_error_iff {v : Value} : readExpression v = .error e ↔
    demand [.string] none (fun kind => .badWhere (.arrayWith kind)) (some v) = some e := by
  rw [demand_eq_some_iff]
  cases v <;> simp [readExpression, Value.kind]

theorem readData_eq_error_iff : readData m = .error e ↔
    demand [.object] none .dataNotObject (given (m.get? "data")) = some e := by
  rw [given_get?, readData]
  cases m.present? "data" with
  | none => simp [demand]
  | some v => cases v <;> simp [demand, Value.kind]

theorem readOptions_eq_error_iff : readOptions m = .error e ↔
    demand [.object] none .optionsNotObject (given (m.get? "options")) = some e := by
  rw [given_get?, readOptions]
  cases m.present? "options" with
  | none => simp [demand]
  | some v => cases v <;> simp [demand, Value.kind]

/-! ## The schema -/

/-- **A schema has to be named**; whatever else stands there counts as no name. -/
theorem readSchemaName_eq_error_iff : readSchemaName m = .error e ↔
    demand [.string] (some (.badSchema .noName)) (fun _ => .badSchema .noName)
      (named (m.get? "name")) = some e := by
  rw [readSchemaName, Assoc.present?, named]
  cases m.get? "name" with
  | none => simp [demand]
  | some v =>
    cases v with
    | string s =>
      by_cases empty : s = "" <;>
        simp [empty, demand, Option.filter_some, Value.isNull, Value.isBlank, Value.kind]
    | _ => simp [demand, Option.filter_some, Value.isNull, Value.isBlank, Value.kind]

theorem readName_eq_error_iff {key : String} {fault : Kind → DescriptorError.SchemaFault} :
    readName m key fault = .error e ↔
      demand [.string] none (fun kind => .badSchema (fault kind)) (given (m.get? key)) =
        some e := by
  rw [given_get?, readName]
  cases m.present? key with
  | none => simp [demand]
  | some v => cases v <;> simp [demand, Value.kind]

/-! ## What was read -/

section

variable {q : Fields}

/-- Item by item, what is related by lists. -/
theorem getElem?_of_forall₂ {α β : Type} {R : α → β → Prop} {xs : List α} {ys : List β}
    (related : List.Forall₂ R xs ys) (i : ℕ) :
    (xs[i]? = none ∧ ys[i]? = none) ∨ ∃ x y, xs[i]? = some x ∧ ys[i]? = some y ∧ R x y := by
  induction related generalizing i with
  | nil => exact .inl ⟨rfl, rfl⟩
  | cons first _ ih =>
    cases i with
    | zero => exact .inr ⟨_, _, rfl, rfl, first⟩
    | succ i => exact ih i

/-- **Every step was read from an entry, and every entry as a step.** -/
theorem entry_of_read {requestType : String} {steps : List PathStep}
    (read : readSubcollections requestType q = .ok steps) (i : ℕ) :
    ((q.get? "subcollections").bind (·.item? i) = none ∧ steps[i]? = none) ∨
    ∃ item s, (q.get? "subcollections").bind (·.item? i) = some item ∧ steps[i]? = some s ∧
      Spells.step item s := by
  have gives := readSubcollections_eq_ok_iff.mp read
  rw [Assoc.gives_iff] at gives
  cases found : q.present? "subcollections" with
  | none =>
    rw [found] at gives
    obtain rfl : steps = [] := gives
    exact .inl ⟨item?_of_absent found i, rfl⟩
  | some entries =>
    rw [found] at gives
    obtain ⟨items, rfl, spelled⟩ : Spells.steps entries steps := gives
    rw [Assoc.present?_eq_array_iff.mp found]
    exact getElem?_of_forall₂ spelled i

/-- **A document is named where one is given.** -/
theorem named_eq_none_iff {m : Fields} {key : String} {d : Option String}
    (gives : m.Gives key none Spells.name d) : named (m.get? key) = none ↔ d = none := by
  unfold Assoc.Gives at gives
  cases found : m.get? key with
  | none => simp_all [named]
  | some v =>
    rw [found] at gives
    cases v with
    | null => simp_all [named, Value.isBlank]
    | string s =>
      obtain ⟨_, same, rfl⟩ : Spells.name (.string s) d := gives
      cases same
      by_cases empty : s = "" <;> simp [named, Option.filter_some, Value.isBlank, empty]
    | _ =>
      obtain ⟨_, same, _⟩ := gives
      cases same

/-- **Every expression was read from an item, or is the text that stands by itself.** -/
theorem expression_of_read {expressions : List String}
    (read : readExpressions q = .ok expressions) (i : ℕ) :
    (if i = 0 then (q.get? "where").bind Value.asString? else none).or
      (((q.get? "where").bind (·.item? i)).bind Value.asString?) = expressions[i]? := by
  have gives := readExpressions_eq_ok_iff.mp read
  unfold Assoc.Gives at gives
  cases found : q.get? "where" with
  | none =>
    rw [found] at gives
    simp [gives]
  | some v =>
    rw [found] at gives
    cases v with
    | null =>
      obtain rfl : expressions = [] := gives
      simp [Value.asString?, Value.item?]
    | string s =>
      obtain ⟨_, same, rfl⟩ | ⟨_, same, _⟩ : Spells.expressions (.string s) expressions := gives
      · cases same
        cases i <;> simp [Value.asString?, Value.item?]
      · cases same
    | array items =>
      obtain ⟨_, same, _⟩ | ⟨_, same, spelled⟩ : Spells.expressions (.array items) expressions :=
        gives
      · cases same
      · cases same
        rcases getElem?_of_forall₂ spelled i with ⟨nothing, nowhere⟩ | ⟨_, s, there, here, rfl⟩
        · simp [Value.asString?, Value.item?, nothing, nowhere]
        · simp [Value.asString?, Value.item?, there, here]
    | _ => obtain ⟨_, same, _⟩ | ⟨_, same, _⟩ := gives <;> cases same

/-- An error is translated at the end as well as at each step. -/
theorem mapM_mapError {ε ε' α β : Type} (g : ε → ε') (f : α → Except ε β) (xs : List α) :
    xs.mapM (fun x => (f x).mapError g) = (xs.mapM f).mapError g := by
  induction xs with
  | nil => rfl
  | cons x xs ih =>
    rw [List.mapM_cons, List.mapM_cons, ih]
    cases f x with
    | error e => rfl
    | ok y => cases xs.mapM f <;> rfl

/-- **Expressions are all read before the first of them is parsed.** -/
theorem readFilters_eq : readFilters q = (do
    let expressions ← readExpressions q
    let _ ← expressions.mapM fun s => (Filter.parse s).mapError .filter
    pure expressions) := by
  simp only [mapM_mapError, readFilters, Filter.parseAll]
  congr 1
  funext expressions
  cases expressions.mapM Filter.parse <;> rfl

/-- **An expression that does not parse fails with what the parser says.** -/
theorem notFilter_eq_some_iff {s : String} {e : DescriptorError} :
    (Filter.parse s).mapError DescriptorError.filter = .error e ↔ notFilter s = some e := by
  unfold notFilter
  cases Filter.parse s <;> simp [Except.mapError]

end

/-! ## What is seen -/

section

variable {v : Value} {m q : Fields} {key : String} {i : Nat}

/-- **An outline keeps what the rules look at**: kinds… -/
theorem kind_outline (v : Value) : v.outline.kind = v.kind := by cases v <;> rfl

/-- A place below a name is that place in the member of that name. -/
theorem at?_name (path : List Key) : v.at? (.name key :: path) =
    (Assoc.get? (v.asObject?.getD []) key).bind (Value.at? path) := by
  cases v <;> rfl

/-- **What does not look inside keeps a value or its outline.** -/
theorem filter_map_outline {p : Value → Bool} (outside : ∀ v : Value, p v.outline = p v)
    (found : Option Value) :
    (found.map Value.outline).filter p = (found.filter p).map Value.outline := by
  cases found with
  | none => rfl
  | some v => by_cases keeps : p v <;> simp [Option.filter_some, outside, keeps]

/-- …whether something is given… -/
theorem given_map_outline (found : Option Value) :
    given (found.map Value.outline) = (given found).map Value.outline :=
  filter_map_outline (fun v => by cases v <;> rfl) found

/-- …whether it is named… -/
theorem named_map_outline (found : Option Value) :
    named (found.map Value.outline) = (named found).map Value.outline :=
  filter_map_outline (fun v => by cases v <;> rfl) found

/-- …what is demanded of it… -/
theorem demand_map_outline (kinds : List Kind) (missing : Option DescriptorError)
    (misfit : Kind → DescriptorError) (found : Option Value) :
    demand kinds missing misfit (found.map Value.outline) = demand kinds missing misfit found := by
  cases found with
  | none => rfl
  | some v => simp only [Option.map_some, demand, kind_outline]

/-- …whether it is a triple… -/
theorem notTriple_map_outline (found : Option Value) :
    notTriple (found.map Value.outline) = notTriple found := by
  cases found with
  | none => rfl
  | some v => cases v <;> simp [notTriple, Value.outline, Value.kind]

/-- …and texts. -/
theorem bind_asString?_outline (found : Option Value) :
    (found.map Value.outline).bind Value.asString? = found.bind Value.asString? := by
  cases found with
  | none => rfl
  | some v => cases v <;> rfl

/-- **Everything but the method is seen from outside.** -/
theorem see_eq {path : List Key} (other : path ≠ ([.name "query", .name "method"] : List Key)) :
    see v path = (v.at? path).map Value.outline := by
  simp only [see, if_neg other]

section

variable (config : v.asObject?.getD [] = m)
include config

theorem see_name : see v [key] = (m.get? key).map Value.outline := by
  rw [see_eq (by simp), at?_name, config]
  simp only [Value.at?, Option.bind_fun_some]

/-- The rules see the members of `types` by their index… -/
theorem see_type : see v ["types", i] =
    ((m.get? "types").bind (·.item? i)).map Value.outline := by
  rw [see_eq (by simp), at?_name, config]
  simp only [Value.at?, Option.bind_fun_some]

/-- …those of the schema by their key… -/
theorem see_schema : see v ["schema", key] =
    ((m.get? "schema").bind (·.get? key)).map Value.outline := by
  rw [see_eq (by simp), at?_name, config]
  simp only [Value.at?, Option.bind_fun_some]

variable (query : m.get? "query" = some (.object q))
include query

theorem at?_query (path : List Key) :
    v.at? ("query" :: key :: path) = (q.get? key).bind (Value.at? path) := by
  rw [at?_name, config, query]
  rfl

/-- …the method as it is, since its name is looked at… -/
theorem see_method : see v ["query", "method"] = q.get? "method" := by
  rw [see, at?_query config query]
  simp [Value.at?]

/-- …anything else of the query in outline… -/
theorem see_query (other : key ≠ "method") :
    see v ["query", key] = (q.get? key).map Value.outline := by
  rw [see_eq (by simp [other]), at?_query config query]
  simp only [Value.at?, Option.bind_fun_some]

/-- …down to the items of its lists… -/
theorem see_item : see v ["query", key, i] =
    ((q.get? key).bind (·.item? i)).map Value.outline := by
  rw [see_eq (by simp), at?_query config query]
  simp only [Value.at?, Option.bind_fun_some]

/-- …and to the members of its subcollections. -/
theorem see_entry : see v ["query", "subcollections", i, key] =
    (((q.get? "subcollections").bind (·.item? i)).bind (·.get? key)).map Value.outline := by
  rw [see_eq (by simp), at?_query config query, Option.bind_assoc]
  simp only [Value.at?, Option.bind_fun_some]

end

end

end Descriptor

end DocDispatch
