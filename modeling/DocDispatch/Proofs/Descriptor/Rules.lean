import Mathlib.Data.Prod.Lex
import DocDispatch.Descriptor.Reader

/-!
# Proofs/Descriptor/Rules — the rules of a descriptor, each by itself

    types │ type 0 │ type 1 │ … │ bailout │ query │ method │ collection │ subcollections │ …

No reader occurs here.  A rule names what it reads of a value (`Rule.reads`) and says what is wrong
there, if anything is (`Rule.error?`), whether or not other rules are broken.  Where there is
nothing for it to apply to, such as an entry that is not there, it is kept.  The rules stand in an
order (`Rule.position`), in which there is one for every index of a list, however short the list.

A rule reads as little as it can: of an array its length and of an object that it is one
(`outline`), so that what stands inside is left to the rules that come later.
-/

namespace DocDispatch

namespace Json

/-- **A step into a value**: to a property, or to an item. -/
inductive Key where
  | name (key : String)
  | index (i : Nat)
deriving DecidableEq

instance : Coe String Key := ⟨.name⟩

instance : Coe Nat Key := ⟨.index⟩

namespace Value

/-- The item at an index of an array; nothing else has items. -/
def item? : Value → Nat → Option Value
  | .array items, i => items[i]?
  | _, _ => none

/-- What stands at the end of a path. -/
def at? : List Key → Value → Option Value
  | [], v => some v
  | .name key :: path, v => (v.get? key).bind (at? path)
  | .index i :: path, v => (v.item? i).bind (at? path)

/-- What is seen of a value without looking inside. -/
def outline : Value → Value
  | .array items => .array (items.map fun _ => .null)
  | .object _ => .object []
  | v => v

/-- Null or the empty text. -/
def isBlank : Value → Bool
  | .null => true
  | .string s => s = ""
  | _ => false

end Value

end Json

open Json (Key Kind Value)

namespace Descriptor

/-- What is seen at the end of a path.  A method is seen whole, since it is reported whole. -/
def see (v : Value) (path : List Key) : Option Value :=
  (v.at? path).map fun found =>
    if path = (["query", "method"] : List Key) then found else found.outline

/-- What is found, if it is not null. -/
def given (found : Option Value) : Option Value := found.filter fun v => !v.isNull

/-- What is found, if it is neither null nor the empty text. -/
def named (found : Option Value) : Option Value := found.filter fun v => !v.isBlank

/-- What is wrong with what is found: that there is nothing, or that it is of another kind. -/
def demand (kinds : List Kind) (missing : Option DescriptorError)
    (misfit : Kind → DescriptorError) : Option Value → Option DescriptorError
  | none => missing
  | some v => if v.kind ∈ kinds then none else some (misfit v.kind)

/-- What is wrong with what stands for three types. -/
def notTriple : Option Value → Option DescriptorError
  | none => some (.typesNotTriple .nothing)
  | some (.array items) =>
    if items.length = 3 then none else some (.typesNotTriple (.array items.length))
  | some v => some (.typesNotTriple (.other v.kind))

/-- What is wrong with what stands for a method. -/
def notMethod : Option Value → Option DescriptorError
  | none => some .noMethod
  | some (.string name) => if name ∈ Method.names then none else some (.unknownMethod name)
  | some v => some (.unknownMethod v.text)

/-- What is wrong with a filter expression. -/
def notFilter (expression : String) : Option DescriptorError :=
  match Filter.parse expression with
  | .ok _ => none
  | .error e => some (.filter e)

/-- **The rules of a descriptor.** -/
inductive Rule where
  | types
  | type (i : Nat)
  | bailout
  | query
  | method
  | collection
  | subcollections
  | step (i : Nat)
  | stepCollection (i : Nat)
  | stepDoc (i : Nat)
  | doc
  /-- The query names a document if there are subcollections. -/
  | docGiven
  /-- A subcollection that another one follows names a document. -/
  | innerDoc (i : Nat)
  | filters
  | filter (i : Nat)
  /-- A filter expression parses. -/
  | parsed (i : Nat)
  | data
  | options
  | schema
  | schemaName
  | schemaKey
  | schemaTransform

namespace Rule

/-- **The order of the rules**: the one with the lower first number comes first, and of those with
the same the one with the lower second. -/
def position : Rule → ℕ ×ₗ ℕ
  | .types => toLex (0, 0)
  | .type i => toLex (1, i)
  | .bailout => toLex (2, 0)
  | .query => toLex (3, 0)
  | .method => toLex (4, 0)
  | .collection => toLex (5, 0)
  | .subcollections => toLex (6, 0)
  | .step i => toLex (7, 3 * i)
  | .stepCollection i => toLex (7, 3 * i + 1)
  | .stepDoc i => toLex (7, 3 * i + 2)
  | .doc => toLex (8, 0)
  | .docGiven => toLex (9, 0)
  | .innerDoc i => toLex (10, i)
  | .filters => toLex (11, 0)
  | .filter i => toLex (12, i)
  | .parsed i => toLex (13, i)
  | .data => toLex (14, 0)
  | .options => toLex (15, 0)
  | .schema => toLex (16, 0)
  | .schemaName => toLex (17, 0)
  | .schemaKey => toLex (18, 0)
  | .schemaTransform => toLex (19, 0)

/-- What a rule reads. -/
def reads : Rule → List (List Key)
  | .types => [["types"]]
  | .type i => [["types", i]]
  | .bailout => [["bailout"]]
  | .query => [["query"]]
  | .method => [["query", "method"]]
  | .collection => [["query", "collection"]]
  -- The error names the call, by the first of its types.
  | .subcollections => [["query", "subcollections"], ["types", (0 : Nat)]]
  | .step i => [["query", "subcollections", i]]
  | .stepCollection i =>
    [["query", "subcollections", i], ["query", "subcollections", i, "collection"]]
  | .stepDoc i => [["query", "subcollections", i, "doc"]]
  | .doc => [["query", "doc"]]
  | .docGiven => [["query", "subcollections", (0 : Nat)], ["query", "doc"]]
  | .innerDoc i =>
    [["query", "subcollections", (i + 1 : Nat)], ["query", "subcollections", i, "doc"]]
  | .filters => [["query", "where"]]
  | .filter i => [["query", "where", i]]
  | .parsed i => [["query", "where"], ["query", "where", i]]
  | .data => [["query", "data"]]
  | .options => [["query", "options"]]
  | .schema => [["schema"]]
  | .schemaName => [["schema"], ["schema", "name"]]
  | .schemaKey => [["schema", "key"]]
  | .schemaTransform => [["schema", "transform"]]

/-- **What breaks a rule**, given what is seen at the end of each path. -/
def error? (see : List Key → Option Value) : Rule → Option DescriptorError
  | .types => notTriple (see ["types"])
  | .type i => demand [.string] none (.typeNotString i) (see ["types", i])
  | .bailout => demand [.string] none .bailoutNotName (given (see ["bailout"]))
  | .query =>
    demand [.object] (some .noQuery) .queryNotObject
      ((given (see ["query"])).filter fun v => v.asBool? ≠ some false)
  | .method => notMethod (named (see ["query", "method"]))
  | .collection =>
    demand [.string] (some .noCollection) (.segmentNotString "collection")
      (named (see ["query", "collection"]))
  | .subcollections =>
    demand [.array] none
      (fun _ => .subcollectionsNotArray (((see ["types", (0 : Nat)]).bind Value.asString?).getD ""))
      (given (see ["query", "subcollections"]))
  | .step i =>
    demand [.object] none (fun kind => .badSubcollection i (.notObject kind))
      (see ["query", "subcollections", i])
  | .stepCollection i =>
    if (see ["query", "subcollections", i]).map Value.kind = some .object then
      demand [.string] (some (.badSubcollection i .noCollection))
        (fun kind => .badSubcollection i (.collectionKind kind))
        (named (see ["query", "subcollections", i, "collection"]))
    else none
  | .stepDoc i =>
    demand [.string] none (fun kind => .badSubcollection i (.docKind kind))
      (given (see ["query", "subcollections", i, "doc"]))
  | .doc => demand [.string] none (.segmentNotString "doc") (given (see ["query", "doc"]))
  | .docGiven =>
    if see ["query", "subcollections", (0 : Nat)] ≠ none ∧ named (see ["query", "doc"]) = none then
      some .subcollectionsWithoutDoc
    else none
  | .innerDoc i =>
    if see ["query", "subcollections", (i + 1 : Nat)] ≠ none ∧
        named (see ["query", "subcollections", i, "doc"]) = none then
      some (.badSubcollection i .noDoc)
    else none
  | .filters =>
    demand [.string, .array] none (fun kind => .badWhere (.other kind))
      (given (see ["query", "where"]))
  | .filter i =>
    demand [.string] none (fun kind => .badWhere (.arrayWith kind)) (see ["query", "where", i])
  | .parsed i =>
    -- An expression that stands by itself is the first.
    let alone := if i = 0 then (see ["query", "where"]).bind Value.asString? else none
    (alone.or ((see ["query", "where", i]).bind Value.asString?)).bind notFilter
  | .data => demand [.object] none .dataNotObject (given (see ["query", "data"]))
  | .options => demand [.object] none .optionsNotObject (given (see ["query", "options"]))
  | .schema =>
    demand [.object] none (fun kind => .badSchema (.notObject kind)) (given (see ["schema"]))
  | .schemaName =>
    if (see ["schema"]).map Value.kind = some .object then
      demand [.string] (some (.badSchema .noName)) (fun _ => .badSchema .noName)
        (named (see ["schema", "name"]))
    else none
  | .schemaKey =>
    demand [.string] none (fun kind => .badSchema (.keyKind kind)) (given (see ["schema", "key"]))
  | .schemaTransform =>
    demand [.string] none (fun kind => .badSchema (.transformKind kind))
      (given (see ["schema", "transform"]))

end Rule

/-- **The first rule in order that a value breaks, and how.** -/
structure FirstBroken (v : Value) (r : Rule) (e : DescriptorError) : Prop where
  broken : r.error? (see v) = some e
  kept : ∀ s : Rule, s.position < r.position → s.error? (see v) = none

namespace Rule

/-- **A rule depends on what it reads**, and on nothing else. -/
theorem error?_congr {see see' : List Key → Option Value} (r : Rule)
    (same : ∀ path ∈ r.reads, see' path = see path) : r.error? see' = r.error? see := by
  cases r <;> simp_all [reads, error?]

/-- **No two rules stand at one place.** -/
theorem position_injective : Function.Injective position := by
  intro r s same
  cases r <;> cases s <;> simp_all [position] <;> omega

end Rule

end Descriptor

end DocDispatch
