import Mathlib.Data.List.Forall2
import DocDispatch.Descriptor.Reader

/-!
# Proofs/Descriptor/Grammar — which values spell a descriptor, and which one they spell

The grammar is written down twice, and neither time does a reader occur in it:

* `Grammatical v` — the conditions on a value alone: which properties have to be there, and of what
  form;
* `d.SpelledBy v` — what a value spells: each part of a descriptor beside the property it is
  written in.

A property that is absent or null is *unset* in both: an object `Allows` it, and `Gives` for it
whatever stands for an unset one.
-/

namespace DocDispatch

open Json (Value)

/-! ## Properties of an object -/

namespace Assoc

variable {α : Type} {m : Fields} {key : String}

/-- The property is absent, null or of a form. -/
def Allows (m : Fields) (key : String) (form : Value → Prop) : Prop :=
  ∀ v, m.get? key = some v → v = .null ∨ form v

/-- The property is a text that is not empty. -/
def Names (m : Fields) (key : String) : Prop := ∃ s, m.get? key = some (.string s) ∧ s ≠ ""

/-- **What an object gives under a key**: `unset` where the property is absent or null, and else
what its value spells. -/
def Gives (m : Fields) (key : String) (unset : α) (spells : Value → α → Prop) (a : α) : Prop :=
  match m.get? key with
  | none | some .null => a = unset
  | some v => spells v a

/-- **What a member gives, by whether it is there.** -/
theorem gives_iff {unset : α} {spells : Value → α → Prop} {a : α} :
    m.Gives key unset spells a ↔
      match m.present? key with
      | none => a = unset
      | some v => spells v a := by
  unfold Gives present?
  cases m.get? key with
  | none => rfl
  | some v => cases v <;> rfl

/-- A value that is not null is present where it is there. -/
theorem present?_eq_some_iff {v : Value} (h : v ≠ .null) :
    m.present? key = some v ↔ m.get? key = some v := by
  unfold present?
  rw [Option.filter_eq_some_iff, and_iff_left_iff_imp]
  rintro -
  cases v with
  | null => exact absurd rfl h
  | _ => rfl

/-- **A property is not present where it is absent or null.** -/
theorem present?_eq_none_iff :
    m.present? key = none ↔ m.get? key = none ∨ m.get? key = some .null := by
  unfold present?
  cases m.get? key with
  | none => simp
  | some v => cases v <;> simp [Option.filter_some, Value.isNull]

/-- Only null hides a member: a text is present where it is found… -/
theorem present?_eq_string_iff {s : String} :
    m.present? key = some (.string s) ↔ m.get? key = some (.string s) :=
  present?_eq_some_iff nofun

/-- …a list… -/
theorem present?_eq_array_iff {items : List Value} :
    m.present? key = some (.array items) ↔ m.get? key = some (.array items) :=
  present?_eq_some_iff nofun

/-- …and an object. -/
theorem present?_eq_object_iff {members : Fields} :
    m.present? key = some (.object members) ↔ m.get? key = some (.object members) :=
  present?_eq_some_iff nofun

theorem allows_iff {form : Value → Prop} :
    m.Allows key form ↔ ∀ v, m.present? key = some v → form v := by
  unfold Allows present?
  cases m.get? key with
  | none => simp
  | some v => cases v <;> simp [Value.isNull]

end Assoc

/-! ## Forms -/

namespace Json.Value

def IsText (v : Value) : Prop := ∃ s, v = .string s

def IsObject (v : Value) : Prop := ∃ m, v = .object m

/-- A filter expression: a text that parses. -/
def IsExpression (v : Value) : Prop := ∃ s, v = .string s ∧ ∃ f, Filter.parse s = .ok f

end Json.Value

namespace Grammatical

/-- An entry of the subcollections. -/
structure Step (m : Fields) : Prop where
  collection : m.Names "collection"
  doc : m.Allows "doc" Value.IsText

/-- **The subcollections of a query `q`**: the query names a document if there are any, and so does
every one of them but the last. -/
structure Subcollections (q : Fields) (items : List Value) : Prop where
  doc : items ≠ [] → q.Names "doc"
  steps : ∀ item ∈ items, ∃ m : Fields, item = .object m ∧ Step m
  inner : ∀ item ∈ items.dropLast, ∃ m : Fields, item = .object m ∧ m.Names "doc"

/-- **A query**: a known method, a named collection, and members of their forms. -/
structure Query (q : Fields) : Prop where
  method : ∃ name ∈ Method.names, q.get? "method" = some (.string name)
  collection : q.Names "collection"
  doc : q.Allows "doc" Value.IsText
  subcollections : q.Allows "subcollections" fun v => ∃ items, v = .array items ∧
    Subcollections q items
  filters : q.Allows "where" fun v => v.IsExpression ∨
    ∃ items, v = .array items ∧ ∀ item ∈ items, item.IsExpression
  data : q.Allows "data" Value.IsObject
  options : q.Allows "options" Value.IsObject

/-- A schema: a name, and texts for key and transform. -/
structure Schema (m : Fields) : Prop where
  name : m.Names "name"
  key : m.Allows "key" Value.IsText
  transform : m.Allows "transform" Value.IsText

/-- **A descriptor, member by member.** -/
structure Config (config : Fields) : Prop where
  types : ∃ request success failure,
    config.get? "types" = some (.array [.string request, .string success, .string failure])
  bailout : config.Allows "bailout" Value.IsText
  query : ∃ q, config.get? "query" = some (.object q) ∧ Query q
  schema : config.Allows "schema" fun v => ∃ m, v = .object m ∧ Schema m

end Grammatical

/-- **The grammar of descriptors**, as conditions on a value. -/
def Grammatical (v : Value) : Prop := ∃ config, v = .object config ∧ Grammatical.Config config

/-! ## Spellings -/

namespace Spells

/-- A text spells itself. -/
def text (v : Value) (name : Option String) : Prop := ∃ s, v = .string s ∧ name = some s

/-- **A text spells a name, and the empty text none.** -/
def name (v : Value) (name : Option String) : Prop :=
  ∃ s, v = .string s ∧ name = if s = "" then none else some s

/-- **An expression stands for itself, an array for the expressions in it.** -/
def expressions (v : Value) (es : List String) : Prop :=
  (∃ s, v = .string s ∧ es = [s]) ∨
    ∃ items, v = .array items ∧ List.Forall₂ (fun item e => item = .string e) items es

def fields (v : Value) (data : Fields) : Prop := v = .object data

/-- **Merging is asked for by `true` under `merge` and by nothing else.** -/
def options (v : Value) (o : SetOptions) : Prop :=
  ∃ m : Fields, v = .object m ∧ (o.merge = true ↔ m.get? "merge" = some (.bool true))

end Spells

/-- A step and the properties that spell it. -/
structure PathStep.SpelledBy (s : PathStep) (m : Fields) : Prop where
  collection : m.get? "collection" = some (.string s.collection)
  named : s.collection ≠ ""
  doc : m.Gives "doc" none Spells.name s.doc

/-- An entry of the subcollections spells a step. -/
def Spells.step (v : Value) (s : PathStep) : Prop := ∃ m, v = .object m ∧ s.SpelledBy m

/-- **The entries of an array spell a step each.** -/
def Spells.steps (v : Value) (steps : List PathStep) : Prop :=
  ∃ items, v = .array items ∧ List.Forall₂ Spells.step items steps

/-- **The method takes what it needs of the data and the options, and nothing else.** -/
def Method.Takes (method : Method) (data : Fields) (options : SetOptions) : Prop :=
  method ∈ [.subscribe, .get, .set data options, .add data, .update data]

/-- **A query and the properties that spell it.** -/
structure Query.SpelledBy (q : Query) (m : Fields) : Prop where
  method : m.get? "method" = some (.string q.method.name)
  takes : ∃ data options, q.method.Takes data options ∧
    m.Gives "data" [] Spells.fields data ∧ m.Gives "options" ⟨false⟩ Spells.options options
  collection : m.get? "collection" = some (.string q.collection)
  named : q.collection ≠ ""
  doc : m.Gives "doc" none Spells.name q.doc
  subcollections : m.Gives "subcollections" [] Spells.steps q.subcollections
  /-- Every step that another one follows names a document. -/
  inner : ∀ s ∈ q.path.dropLast, s.doc ≠ none
  filters : m.Gives "where" [] Spells.expressions q.filters
  parsed : ∀ e ∈ q.filters, ∃ f, Filter.parse e = .ok f

/-- **A schema and the properties that spell it.** -/
structure SchemaDescriptor.SpelledBy (s : SchemaDescriptor) (m : Fields) : Prop where
  name : m.get? "name" = some (.string s.name)
  named : s.name ≠ ""
  key : m.Gives "key" none Spells.text s.key
  transform : m.Gives "transform" none Spells.text s.transform

def Spells.schema (v : Value) (schema : Option SchemaDescriptor) : Prop :=
  ∃ m s, v = .object m ∧ schema = some s ∧ s.SpelledBy m

/-- **A descriptor and the properties that spell it.**  Payload and metadata are the only ones for
which null is not unset. -/
structure Descriptor.SpelledBy (d : Descriptor) (config : Fields) : Prop where
  types : config.get? "types" = some
    (.array [.string d.types.request, .string d.types.success, .string d.types.failure])
  bailout : config.Gives "bailout" none Spells.text d.bailout
  query : ∃ q, config.get? "query" = some (.object q) ∧ d.query.SpelledBy q
  schema : config.Gives "schema" none Spells.schema d.schema
  payload : d.payload = config.get? "payload"
  metadata : d.metadata = config.get? "meta"

end DocDispatch
