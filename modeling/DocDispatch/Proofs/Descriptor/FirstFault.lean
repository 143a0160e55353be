import DocDispatch.Proofs.Descriptor.Faults
import DocDispatch.Proofs.Descriptor.Settling

/-!
# Proofs/Descriptor/FirstFault — the first rule that is broken is reported

    readTypes │ readBailout │ readQueryObject │ readQuery │ readSchema
    0, 1      │ 2           │ 3               │ 4, …, 15  │ 16, …, 19

Every reader settles the stages of the rules it is for, and the next one those that come next.  What
is checked at more than one place, such as the documents, is settled where its rules stand: a reader
that has the steps at hand needs no entries any more, since each step was read from its entry.
-/

namespace DocDispatch

open Json (Key Kind Value)

namespace Descriptor

/-- The steps are checked one by one, each against the one that follows it. -/
theorem settles_innerDocs {broken : Rule → Option DescriptorError} {n : ℕ} {steps : List PathStep}
    (seen : ∀ i, broken (.innerDoc (n + i)) =
      if steps[i + 1]? ≠ none ∧ steps[i]?.bind PathStep.doc = none then
        some (.badSubcollection (n + i) .noDoc)
      else none) :
    Settles broken (toLex (10, n)) (stage 11) (checkInnerDocs n steps) := by
  induction steps generalizing n with
  | nil =>
    refine .of_kept (kept_family .innerDoc (fun _ => rfl) fun i late => ?_) ()
    rw [← Nat.add_sub_of_le late, seen]
    rfl
  | cons step steps ih =>
    cases steps with
    | nil =>
      refine .of_kept (kept_family .innerDoc (fun _ => rfl) fun i late => ?_) ()
      rw [← Nat.add_sub_of_le late, seen]
      rfl
    | cons next steps =>
      rw [checkInnerDocs]
      by_cases nowhere : step.doc = none
      · rw [if_pos nowhere]
        exact .of_broken (.innerDoc n) ((seen 0).trans (if_pos ⟨by simp, nowhere⟩))
      · -- This step is in order, and the rules for the rest are numbered from the next on.
        rw [if_neg nowhere]
        refine .after (kept_rule (.innerDoc n) (fun _ => succ_le) ?_) (ih fun i => ?_)
        · exact (seen 0).trans (if_neg fun unnamed => nowhere unnamed.2)
        · rw [Nat.add_assoc, Nat.add_comm 1, seen]
          rfl

section

variable {v : Value} {m q : Fields} (config : v.asObject?.getD [] = m)
include config

/-! ## Types, bailout and query -/

/-- **Every reader settles a stretch of the order** — it fails by the first broken rule there, or
there is none.  An action type settles its own place… -/
theorem settles_type {i : Nat} {item : Value}
    (there : (m.get? "types").bind (·.item? i) = some item) :
    Settles (·.error? (see v)) (toLex (1, i)) (toLex (1, i + 1)) (readType i item) :=
  .of_rule (.type i) (fun e => by
    rw [readType_eq_error_iff, Rule.error?, see_type config, demand_map_outline, there])
    fun _ => succ_le

/-- …and the three of them, with their triple, the first two stages. -/
theorem settles_types :
    Settles (·.error? (see v)) (stage 0) (stage 2) (readTypes (m.get? "types")) := by
  have first : Rule.types.error? (see v) = notTriple (m.get? "types") := by
    rw [Rule.error?, see_name config, notTriple_map_outline]
  unfold readTypes
  split
  · -- Three items are settled one by one, and there is no rule about a fourth.
    rename_i request success failure there
    have kept : Kept (·.error? (see v)) (stage 0) (stage 1) :=
      kept_rule .types (fun _ => stage_succ_le (by decide)) (first.trans (by rw [there]; rfl))
    refine .after kept ?_
    refine (settles_type config (by rw [there]; rfl)).bind fun _ _ =>
      (settles_type config (by rw [there]; rfl)).bind fun _ _ =>
      (settles_type config (by rw [there]; rfl)).bind fun _ _ =>
      .of_kept (kept_family .type (fun _ => rfl) fun i late => ?_) _
    rw [Rule.error?, see_type config, demand_map_outline, there]
    have beyond : [request, success, failure][i]? = none := List.getElem?_eq_none late
    simp only [Option.bind_some, Value.item?, beyond, demand]
  · -- An array of another length.
    rename_i items other there
    refine .of_broken .types (first.trans ?_)
    rw [there, notTriple, if_neg]
    intro three
    obtain ⟨a, b, c, same⟩ := List.length_eq_three.mp three
    exact other a b c same
  · rename_i found _ other there
    refine .of_broken .types (first.trans ?_)
    rw [there]
    cases found with
    | array items => exact (other items rfl).elim
    | _ => rfl
  · rename_i there
    exact .of_broken .types (first.trans (by rw [there]; rfl))

theorem settles_bailout : Settles (·.error? (see v)) (stage 2) (stage 3) (readBailout m) :=
  .of_rule .bailout (fun e => by
    rw [readBailout_eq_error_iff, Rule.error?, see_name config, given_map_outline,
      demand_map_outline]) fun _ => stage_succ_le (by decide)

/-- The query has to be an object before anything in it is looked at. -/
theorem settles_queryObject : Settles (·.error? (see v)) (stage 3) (stage 4) (readQueryObject m) :=
  .of_rule .query (fun e => by
    rw [readQueryObject_eq_error_iff, Rule.error?, see_name config, given_map_outline,
      filter_map_outline (fun v => by cases v <;> rfl), demand_map_outline])
    fun _ => stage_succ_le (by decide)

/-! ## The query -/

section

variable (query : m.get? "query" = some (.object q))
include query

theorem settles_methodName : Settles (·.error? (see v)) (stage 4) (stage 5) (readMethodName q) :=
  .of_rule .method (fun e => by
    rw [readMethodName_eq_error_iff, Rule.error?, see_method config query])
    fun _ => stage_succ_le (by decide)

theorem settles_collection : Settles (·.error? (see v)) (stage 5) (stage 6) (readCollection q) :=
  .of_rule .collection (fun e => by
    rw [readCollection_eq_error_iff, Rule.error?, see_query config query (by decide),
      named_map_outline, demand_map_outline]) fun _ => stage_succ_le (by decide)

theorem settles_data : Settles (·.error? (see v)) (stage 14) (stage 15) (readData q) :=
  .of_rule .data (fun e => by
    rw [readData_eq_error_iff, Rule.error?, see_query config query (by decide),
      given_map_outline, demand_map_outline]) fun _ => stage_succ_le (by decide)

theorem settles_options : Settles (·.error? (see v)) (stage 15) (stage 16) (readOptions q) :=
  .of_rule .options (fun e => by
    rw [readOptions_eq_error_iff, Rule.error?, see_query config query (by decide),
      given_map_outline, demand_map_outline]) fun _ => stage_succ_le (by decide)

/-! ### Subcollections -/

/-- An entry that is not there breaks nothing. -/
theorem kept_steps {n : ℕ}
    (absent : ∀ i, n ≤ i → (q.get? "subcollections").bind (·.item? i) = none) :
    Kept (·.error? (see v)) (toLex (7, 3 * n)) (stage 8) := by
  intro s after before
  change s.error? (see v) = none
  obtain ⟨j, late, same⟩ := exists_index after before
  cases s <;> simp [Rule.position] at same
  case step i =>
    rw [Rule.error?, see_item config query, absent i (by omega)]
    rfl
  case stepCollection i =>
    rw [Rule.error?, see_item config query, absent i (by omega)]
    rfl
  case stepDoc i =>
    rw [Rule.error?, see_entry config query, absent i (by omega)]
    rfl

/-- A subcollection settles three places: that it is an object, its collection, its document. -/
theorem settles_step {i : ℕ} {item : Value}
    (there : (q.get? "subcollections").bind (·.item? i) = some item) :
    Settles (·.error? (see v)) (toLex (7, 3 * i)) (toLex (7, 3 * (i + 1))) (readStep i item) := by
  have entry : (Rule.step i).error? (see v) =
      demand [.object] none (fun kind => .badSubcollection i (.notObject kind)) (some item) := by
    rw [Rule.error?, see_item config query, there, demand_map_outline]
  by_cases isObject : item.kind = .object
  · obtain ⟨step, rfl⟩ : ∃ step, item = .object step := by
      cases item with
      | object step => exact ⟨step, rfl⟩
      | _ => cases isObject
    have kept : (Rule.step i).error? (see v) = none := by rw [entry]; rfl
    have collection : Settles (·.error? (see v)) (toLex (7, 3 * i + 1)) (toLex (7, 3 * i + 2))
        (readStepCollection i step) := .of_rule (.stepCollection i) (fun e => by
      rw [readStepCollection_eq_error_iff, Rule.error?, see_item config query,
        see_entry config query, there, named_map_outline, demand_map_outline]
      rfl) fun _ => succ_le
    have doc : Settles (·.error? (see v)) (toLex (7, 3 * i + 2)) (toLex (7, 3 * i + 3))
        (readStepDoc i step) := .of_rule (.stepDoc i) (fun e => by
      rw [readStepDoc_eq_error_iff, Rule.error?, see_entry config query, there,
        given_map_outline, demand_map_outline]
      rfl) fun _ => succ_le
    exact .after (kept_rule (.step i) (fun _ => succ_le) kept)
      (collection.bind fun _ _ => doc.bind fun _ _ => .done _)
  · rw [readStep_of_noObject isObject]
    exact .of_broken (.step i) (entry.trans (demand_eq_some_iff.mpr ⟨by simpa using isObject, rfl⟩))

/-- The subcollections from an index on settle what is left of their stage. -/
theorem settles_steps {n : ℕ} {items : List Value}
    (there : ∀ i, (q.get? "subcollections").bind (·.item? (n + i)) = items[i]?) :
    Settles (·.error? (see v)) (toLex (7, 3 * n)) (stage 8) (readSteps n items) := by
  induction items generalizing n with
  | nil =>
    refine .of_kept (kept_steps config query fun i late => ?_) []
    rw [← Nat.add_sub_of_le late, there]
    rfl
  | cons item items ih =>
    have rest (i : ℕ) : (q.get? "subcollections").bind (·.item? (n + 1 + i)) = items[i]? := by
      rw [Nat.add_assoc, Nat.add_comm 1, there]
      rfl
    exact (settles_step config query (there 0)).bind fun _ _ => (ih rest).bind fun _ _ => .done _

/-- …and all of them, with the list they are in, two stages; only the message needs the request
type. -/
theorem settles_subcollections {requestType : String}
    (request : ((m.get? "types").bind (·.item? 0)) = some (.string requestType)) :
    Settles (·.error? (see v)) (stage 6) (stage 8) (readSubcollections requestType q) := by
  have form : Rule.subcollections.error? (see v) =
      demand [.array] none (fun _ => .subcollectionsNotArray requestType)
        (q.present? "subcollections") := by
    rw [Rule.error?, see_type config, request, see_query config query (by decide),
      given_map_outline, demand_map_outline]
    rfl
  rw [readSubcollections]
  cases found : q.present? "subcollections" with
  | none =>
    refine .after (kept_rule .subcollections (fun _ => stage_succ_le (by decide)) ?_)
      (.of_kept (kept_steps config query (n := 0) fun i _ => ?_) [])
    · rw [form, found]
      rfl
    · exact item?_of_absent found i
  | some v =>
    cases v with
    | array items =>
      refine .after (kept_rule .subcollections (fun _ => stage_succ_le (by decide)) ?_)
        (settles_steps config query (n := 0) fun i => ?_)
      · rw [form, found]
        rfl
      · rw [Assoc.present?_eq_array_iff.mp found, Nat.zero_add]
        rfl
    | _ => exact .of_broken .subcollections (form.trans (by rw [found]; rfl))

/-! ### Documents -/

/-- **A document is missing inside the path** where a step that another one follows has none. -/
theorem innerDoc_of_read {requestType : String} {steps : List PathStep}
    (read : readSubcollections requestType q = .ok steps) (i : ℕ) :
    (Rule.innerDoc i).error? (see v) =
      if steps[i + 1]? ≠ none ∧ steps[i]?.bind PathStep.doc = none then
        some (.badSubcollection i .noDoc)
      else none := by
  have next : see v ["query", "subcollections", (i + 1 : ℕ)] = none ↔ steps[i + 1]? = none := by
    rw [see_item config query, Option.map_eq_none_iff]
    rcases entry_of_read read (i + 1) with ⟨nothing, nowhere⟩ | ⟨item, s, there, here, -⟩
    · simp [nothing, nowhere]
    · simp [there, here]
  have doc : named (see v ["query", "subcollections", i, "doc"]) = none ↔
      steps[i]?.bind PathStep.doc = none := by
    rw [see_entry config query, named_map_outline, Option.map_eq_none_iff]
    rcases entry_of_read read i with ⟨nothing, nowhere⟩ | ⟨item, s, there, here, step, rfl, spelled⟩
    · simp [nothing, nowhere, named]
    · rw [there, here]
      exact named_eq_none_iff spelled.doc
  rw [Rule.error?]
  simp only [ne_eq, next, doc]

/-- The document of the query and those inside the path are looked at together, after the steps are
read. -/
theorem settles_doc {requestType : String} {steps : List PathStep}
    (read : readSubcollections requestType q = .ok steps) :
    Settles (·.error? (see v)) (stage 8) (stage 11) (readDoc q steps) := by
  have form : Settles (·.error? (see v)) (stage 8) (stage 9) (readSegment q "doc") :=
    .of_rule .doc (fun e => by
      rw [readSegment_eq_error_iff, Rule.error?, see_query config query (by decide),
        given_map_outline, demand_map_outline]) fun _ => stage_succ_le (by decide)
  refine form.bind fun doc docRead => ?_
  have first : see v ["query", "subcollections", (0 : ℕ)] = none ↔ steps = [] := by
    rw [see_item config query, Option.map_eq_none_iff]
    rcases entry_of_read read 0 with ⟨nothing, nowhere⟩ | ⟨item, s, there, here, -⟩
    · simpa [nothing] using nowhere
    · rw [there]
      cases steps <;> simp_all
  have unnamed : named (see v ["query", "doc"]) = none ↔ doc = none := by
    rw [see_query config query (by decide), named_map_outline, Option.map_eq_none_iff]
    exact named_eq_none_iff (readSegment_eq_ok_iff.mp docRead)
  have given : Rule.docGiven.error? (see v) =
      if steps ≠ [] ∧ doc = none then some .subcollectionsWithoutDoc else none := by
    rw [Rule.error?]
    simp only [ne_eq, first, unnamed]
  by_cases ungiven : steps ≠ [] ∧ doc = none
  · rw [if_pos ungiven] at given ⊢
    exact .of_broken .docGiven given
  · rw [if_neg ungiven] at given ⊢
    refine .after (kept_rule .docGiven (fun _ => stage_succ_le (by decide)) given) ?_
    refine (settles_innerDocs (n := 0) fun i => ?_).bind fun _ _ => .done _
    rw [Nat.zero_add, innerDoc_of_read config query read]

/-! ### Filters -/

/-- Expressions are looked at one after another… -/
theorem settles_expressions :
    Settles (·.error? (see v)) (stage 11) (stage 13) (readExpressions q) := by
  have form : Rule.filters.error? (see v) =
      demand [.string, .array] none (fun kind => .badWhere (.other kind)) (q.present? "where") := by
    rw [Rule.error?, see_query config query (by decide), given_map_outline, demand_map_outline]
    rfl
  have item (i : ℕ) : (Rule.filter i).error? (see v) =
      demand [.string] none (fun kind => .badWhere (.arrayWith kind))
        ((q.get? "where").bind (·.item? i)) := by
    rw [Rule.error?, see_item config query, demand_map_outline]
  have whole (kept : Rule.filters.error? (see v) = none) :
      Kept (·.error? (see v)) (stage 11) (stage 12) :=
    kept_rule .filters (fun _ => stage_succ_le (by decide)) kept
  rw [readExpressions]
  cases found : q.present? "where" with
  | none =>
    refine .after (whole (by rw [form, found]; rfl))
      (.of_kept (kept_family .filter (fun _ => rfl) fun i _ => ?_) _)
    rw [item, item?_of_absent found]
    rfl
  | some v =>
    cases v with
    | string s =>
      refine .after (whole (by rw [form, found]; rfl))
        (.of_kept (kept_family .filter (fun _ => rfl) fun i _ => ?_) _)
      rw [item, Assoc.present?_eq_string_iff.mp found]
      rfl
    | array items =>
      refine .after (whole (by rw [form, found]; rfl))
        (settles_mapM .filter (fun _ => rfl) (fun _ _ => readExpression_eq_error_iff) fun i => ?_)
      rw [item, Assoc.present?_eq_array_iff.mp found, Nat.zero_add]
      cases there : items[i]? <;> simp [Value.item?, there, demand]
    | _ => exact .of_broken .filters (form.trans (by rw [found]; rfl))

/-- …and then parsed, in the same order. -/
theorem settles_filters : Settles (·.error? (see v)) (stage 11) (stage 14) (readFilters q) := by
  rw [readFilters_eq]
  refine (settles_expressions config query).bind fun expressions read => ?_
  refine (settles_mapM .parsed (fun _ => rfl) (fun _ _ => notFilter_eq_some_iff) fun i => ?_).bind
    fun _ _ => .done _
  rw [Nat.zero_add, Rule.error?, see_query config query (by decide), see_item config query,
    bind_asString?_outline, bind_asString?_outline, expression_of_read read]

/-! ### The query as a whole -/

/-- **The query settles what is its own**, stage by stage as its reader goes. -/
theorem settles_query {requestType : String}
    (request : (m.get? "types").bind (·.item? 0) = some (.string requestType)) :
    Settles (·.error? (see v)) (stage 4) (stage 16) (readQuery requestType q) := by
  refine (settles_methodName config query).bind fun name named => ?_
  refine (settles_collection config query).bind fun collection _ => ?_
  refine (settles_subcollections config query request).bind fun steps read => ?_
  refine (settles_doc config query read).bind fun doc _ => ?_
  refine (settles_filters config query).bind fun filters _ => ?_
  refine (settles_data config query).bind fun data _ => ?_
  refine (settles_options config query).bind fun options _ => ?_
  obtain ⟨-, known⟩ := readMethodName_eq_ok_iff.mp named
  obtain ⟨method, takes, rfl⟩ := Method.exists_takes known data options
  rw [ofName?_eq_some_iff.mpr ⟨rfl, takes⟩]
  exact .done _

end

/-! ## The schema -/

/-- …and the schema what comes last. -/
theorem settles_schema : Settles (·.error? (see v)) (stage 16) (stage 20) (readSchema m) := by
  have form : Rule.schema.error? (see v) =
      demand [.object] none (fun kind => .badSchema (.notObject kind)) (m.present? "schema") := by
    rw [Rule.error?, see_name config, given_map_outline, demand_map_outline]
    rfl
  rw [readSchema]
  cases found : m.present? "schema" with
  | none =>
    -- No schema, so nothing that the rules for its parts are about.
    have noObject : ((m.get? "schema").map Value.outline).map Value.kind ≠ some .object := by
      rcases Assoc.present?_eq_none_iff.mp found with there | there <;>
        simp [there, Value.outline, Value.kind]
    refine .after (kept_rule .schema (fun _ => stage_succ_le (by decide)) ?_)
      (.after (kept_rule .schemaName (fun _ => stage_succ_le (by decide)) ?_)
        (.after (kept_rule .schemaKey (fun _ => stage_succ_le (by decide)) ?_)
          (.of_kept (kept_rule .schemaTransform (fun _ => stage_succ_le (by decide)) ?_) none)))
    · rw [form, found]
      rfl
    · rw [Rule.error?, see_name config, if_neg noObject]
    · rw [Rule.error?, see_schema config, member_of_absent found]
      rfl
    · rw [Rule.error?, see_schema config, member_of_absent found]
      rfl
  | some schema =>
    cases schema with
    | object s =>
      have there := Assoc.present?_eq_object_iff.mp found
      have name : Settles (·.error? (see v)) (stage 17) (stage 18) (readSchemaName s) :=
        .of_rule .schemaName (fun e => by
          rw [readSchemaName_eq_error_iff, Rule.error?, see_name config, see_schema config, there,
            named_map_outline, demand_map_outline]
          rfl) fun _ => stage_succ_le (by decide)
      have key : Settles (·.error? (see v)) (stage 18) (stage 19) (readName s "key" .keyKind) :=
        .of_rule .schemaKey (fun e => by
          rw [readName_eq_error_iff, Rule.error?, see_schema config, there,
            given_map_outline, demand_map_outline]
          rfl) fun _ => stage_succ_le (by decide)
      have transform : Settles (·.error? (see v)) (stage 19) (stage 20)
          (readName s "transform" .transformKind) :=
        .of_rule .schemaTransform (fun e => by
          rw [readName_eq_error_iff, Rule.error?, see_schema config, there,
            given_map_outline, demand_map_outline]
          rfl) fun _ => stage_succ_le (by decide)
      refine .after (kept_rule .schema (fun _ => stage_succ_le (by decide)) ?_) (.map some ?_)
      · rw [form, found]
        rfl
      · exact name.bind fun _ _ => key.bind fun _ _ => transform.bind fun _ _ => .done _
    | _ => exact .of_broken .schema (form.trans (by rw [found]; rfl))

end

/-! ## The whole -/

/-- **The readers together settle all the rules.** -/
theorem settles_ofJson (v : Value) :
    Settles (·.error? (see v)) (stage 0) (stage 20) (ofJson v) := by
  refine (settles_types rfl).bind fun types typesRead => ?_
  refine (settles_bailout rfl).bind fun bailout _ => ?_
  refine (settles_queryObject rfl).bind fun q queryRead => ?_
  refine (settles_query rfl (readQueryObject_eq_ok_iff.mp queryRead) ?_).bind fun query _ => ?_
  · rw [readTypes_eq_ok_iff.mp typesRead]
    rfl
  · exact (settles_schema rfl).bind fun schema _ => .done _

/-- Every rule has its place among the twenty stages. -/
theorem position_mem (r : Rule) : stage 0 ≤ r.position ∧ r.position < stage 20 := by
  rw [Prod.Lex.le_iff, Prod.Lex.lt_iff]
  cases r <;> simp [Rule.position]

/-- At most one rule is the first that is broken. -/
theorem FirstBroken.unique {v : Value} {r r' : Rule} {e e' : DescriptorError}
    (first : FirstBroken v r e) (first' : FirstBroken v r' e') : e = e' := by
  obtain before | same | after := lt_trichotomy r.position r'.position
  · cases first.broken.symm.trans (first'.kept r before)
  · rw [Rule.position_injective same] at first
    exact Option.some.inj (first.broken.symm.trans first'.broken)
  · cases first'.broken.symm.trans (first.kept r' after)

/-- **The error is that of the first rule that is broken.** -/
theorem ofJson_eq_error_iff {v : Value} {e : DescriptorError} :
    ofJson v = .error e ↔ ∃ r, FirstBroken v r e := by
  constructor
  · intro fails
    obtain ⟨r, broken, kept⟩ := (settles_ofJson v).failed e fails
    exact ⟨r, broken, fun s => kept s (position_mem s).1⟩
  · rintro ⟨r, first⟩
    cases read : ofJson v with
    | ok d =>
      have kept := (settles_ofJson v).passed d read r (position_mem r).1 (position_mem r).2
      cases first.broken.symm.trans kept
    | error e' =>
      obtain ⟨r', broken, kept⟩ := (settles_ofJson v).failed e' read
      rw [first.unique ⟨broken, fun s => kept s (position_mem s).1⟩]

/-- **A value is a descriptor where no rule is broken.** -/
theorem exists_ofJson_iff {v : Value} :
    (∃ d, ofJson v = .ok d) ↔ ∀ r : Rule, r.error? (see v) = none := by
  constructor
  · rintro ⟨d, read⟩ r
    exact (settles_ofJson v).passed d read r (position_mem r).1 (position_mem r).2
  · intro kept
    cases read : ofJson v with
    | ok d => exact ⟨d, rfl⟩
    | error e =>
      obtain ⟨r, broken, -⟩ := (settles_ofJson v).failed e read
      cases broken.symm.trans (kept r)

/-- **The first rule that is broken is reported.**

* A value is refused with an error exactly if this is what breaks the first rule in order that is
  broken;
* it is read exactly if no rule is broken;
* and another value that is seen alike wherever that rule and those before it read is refused with
  the same error, whatever else is in it. -/
theorem reports_first_broken :
    (∀ (v : Value) (e : DescriptorError), ofJson v = .error e ↔ ∃ r, FirstBroken v r e) ∧
    (∀ v : Value, (∃ d, ofJson v = .ok d) ↔ ∀ r : Rule, r.error? (see v) = none) ∧
    ∀ (v v' : Value) (r : Rule) (e : DescriptorError), FirstBroken v r e →
      (∀ s : Rule, s.position ≤ r.position → ∀ path ∈ s.reads, see v' path = see v path) →
      ofJson v' = .error e := by
  refine ⟨fun _ _ => ofJson_eq_error_iff, fun _ => exists_ofJson_iff, ?_⟩
  intro v v' r e first alike
  refine ofJson_eq_error_iff.mpr ⟨r, ?_, fun s before => ?_⟩
  · rw [r.error?_congr (alike r le_rfl)]
    exact first.broken
  · rw [s.error?_congr (alike s before.le)]
    exact first.kept s before

/-- A call that is wrong in its method and in whatever else there is. -/
def deleting (rest schema : Value) : Value := .object [
  ("query", .object [("collection", rest), ("method", .string "delete"), ("where", rest)]),
  ("schema", schema),
  ("types", .array [.string "REQ", .string "OK", .string "FAIL"])]

theorem firstBroken_deleting (rest schema : Value) :
    FirstBroken (deleting rest schema) .method (.unknownMethod "delete") where
  broken := by rfl
  kept s before := by
    rw [Prod.Lex.lt_iff] at before
    cases s <;> simp [Rule.position] at before
    case type i => obtain _ | _ | _ | i := i <;> rfl
    all_goals rfl

/-- It is refused for the method, whatever stands for the collection, the filters and the schema. -/
theorem reports_first_broken_deleting :
    ofJson (deleting (.bool true) .null) = .error (.unknownMethod "delete") ∧
    ofJson (deleting .null (.object [])) = .error (.unknownMethod "delete") := by
  obtain ⟨refused, -, alike⟩ := reports_first_broken
  refine ⟨(refused _ _).mpr ⟨_, firstBroken_deleting _ _⟩,
    alike _ _ _ _ (firstBroken_deleting (.bool true) .null) fun s before path reads => ?_⟩
  rw [Prod.Lex.le_iff] at before
  cases s <;> simp [Rule.position, Rule.reads] at before reads
  all_goals
    subst reads
    rfl

end Descriptor

end DocDispatch
