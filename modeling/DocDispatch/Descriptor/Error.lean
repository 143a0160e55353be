import DocDispatch.Descriptor.Basic

/-!
# Descriptor/Error — why a descriptor is refused

One constructor for each rule of the grammar; `message` holds every wording.
-/

namespace DocDispatch

open Json (Kind)

namespace DescriptorError

/-- What stands where three action types are expected. -/
inductive TypesFound where
  | nothing
  | other (kind : Kind)
  | array (length : Nat)
deriving DecidableEq

def TypesFound.text : TypesFound → String
  | .nothing => "nothing"
  | .other kind => s!"a {kind.text}"
  | .array length => s!"an array of {length}"

/-- What stands where filter expressions are expected. -/
inductive WhereFound where
  | other (kind : Kind)
  | arrayWith (kind : Kind)
deriving DecidableEq

def WhereFound.text : WhereFound → String
  | .other kind => s!"a {kind.text}"
  | .arrayWith kind => s!"an array containing a {kind.text}"

/-- What is wrong with an entry of the subcollections. -/
inductive StepFault where
  | notObject (kind : Kind)
  | noCollection
  | collectionKind (kind : Kind)
  | docKind (kind : Kind)
  | noDoc
deriving DecidableEq

def StepFault.text : StepFault → String
  | .notObject kind => s!"expected an object, got a {kind.text}"
  | .noCollection => "missing 'collection'"
  | .collectionKind kind => s!"expected 'collection' to be a string, got a {kind.text}"
  | .docKind kind => s!"expected 'doc' to be a string, got a {kind.text}"
  | .noDoc => "missing 'doc', required to reach the next subcollection"

/-- What is wrong with a schema. -/
inductive SchemaFault where
  | notObject (kind : Kind)
  | noName
  | keyKind (kind : Kind)
  | transformKind (kind : Kind)
deriving DecidableEq

def SchemaFault.text : SchemaFault → String
  | .notObject kind => s!"expected an object, got a {kind.text}"
  | .noName => "missing 'name'"
  | .keyKind kind => s!"expected 'key' to be a string, got a {kind.text}"
  | .transformKind kind =>
    s!"expected 'transform' to name a registered transform, got a {kind.text}"

end DescriptorError

open DescriptorError

/-- **Why a descriptor is refused.** -/
inductive DescriptorError where
  | typesNotTriple (found : TypesFound)
  | typeNotString (index : Nat) (kind : Kind)
  | bailoutNotName (kind : Kind)
  | unknownBailout (name : String)
  | noQuery
  | queryNotObject (kind : Kind)
  | noMethod
  | unknownMethod (name : String)
  | noCollection
  | segmentNotString (field : String) (kind : Kind)
  | subcollectionsNotArray (requestType : String)
  | badSubcollection (index : Nat) (fault : StepFault)
  | subcollectionsWithoutDoc
  | badWhere (found : WhereFound)
  | filter (e : Filter.ParseError)
  | badSchema (fault : SchemaFault)
  | unknownTransform (name : String)
  | dataNotObject (kind : Kind)
  | optionsNotObject (kind : Kind)
deriving DecidableEq

namespace DescriptorError

/-- The method names, as messages list them. -/
def methodNames : String := Text.join ", " Method.names

def message : DescriptorError → String
  | .typesNotTriple found => s!"expected an array of three action types, got {found.text}"
  | .typeNotString index kind =>
    s!"expected action types to be strings, element {index} is a {kind.text}"
  | .bailoutNotName kind =>
    s!"expected bailout to be absent or the name of a registered predicate, got a {kind.text}"
  | .unknownBailout name => s!"bailout predicate '{name}' is not registered"
  | .noQuery => "no 'query' value provided in store call descriptor"
  | .queryNotObject kind => s!"expected 'query' to be an object, got a {kind.text}"
  | .noMethod => s!"no 'method' value provided on 'query', available methods: {methodNames}"
  | .unknownMethod name => s!"unknown method '{name}', available methods: {methodNames}"
  | .noCollection => "no 'collection' value provided on 'query'"
  | .segmentNotString field kind => s!"expected '{field}' to be a string, got a {kind.text}"
  | .subcollectionsNotArray requestType =>
    s!"'subcollections' should be an array (from {requestType} call)"
  | .badSubcollection index fault => s!"subcollection {index} is invalid: {fault.text}"
  | .subcollectionsWithoutDoc =>
    "no 'doc' value provided on 'query', required in order to access subcollections"
  | .badWhere found =>
    s!"expected 'where' to be a string or an array of strings, got {found.text}"
  | .filter e => s!"invalid filter: {e.message}"
  | .badSchema fault => s!"invalid schema: {fault.text}"
  | .unknownTransform name => s!"entity transform '{name}' is not registered"
  | .dataNotObject kind => s!"expected 'data' to be an object, got a {kind.text}"
  | .optionsNotObject kind => s!"expected 'options' to be an object, got a {kind.text}"

end DescriptorError

end DocDispatch
