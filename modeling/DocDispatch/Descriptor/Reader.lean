import DocDispatch.Descriptor.Error
import DocDispatch.Json.Printer

/-!
# Descriptor/Reader — from JSON to a descriptor

The readers run in a fixed order and the first rule that is broken decides the error: action types,
bailout, query, method, collection, subcollections, document, filters, data, options, schema.  A
property that is null counts as absent everywhere but under `payload` and `meta`, and properties no
reader asks for do not matter.
-/

namespace DocDispatch

open Json (Kind Value)

/-- The value of a property that is there and not null. -/
def Assoc.present? (m : Fields) (key : String) : Option Value :=
  (m.get? key).filter fun v => !v.isNull

namespace Descriptor

open DescriptorError

/-- What a reader finds, or the rule that is broken. -/
abbrev Checked := Except DescriptorError

/-! ## Types and bailout -/

def readType (index : Nat) : Value → Checked String
  | .string s => .ok s
  | v => .error (.typeNotString index v.kind)

def readTypes : Option Value → Checked ActionTypes
  | some (.array [request, success, failure]) => do
    let request ← readType 0 request
    let success ← readType 1 success
    let failure ← readType 2 failure
    pure { request, success, failure }
  | some (.array items) => .error (.typesNotTriple (.array items.length))
  | some v => .error (.typesNotTriple (.other v.kind))
  | none => .error (.typesNotTriple .nothing)

def readBailout (config : Fields) : Checked (Option String) :=
  match config.present? "bailout" with
  | none => .ok none
  | some (.string name) => .ok (some name)
  | some v => .error (.bailoutNotName v.kind)

/-! ## The query -/

def readQueryObject (config : Fields) : Checked Fields :=
  match config.present? "query" with
  | none | some (.bool false) => .error .noQuery
  | some (.object query) => .ok query
  | some v => .error (.queryNotObject v.kind)

def readMethodName (query : Fields) : Checked String :=
  match query.present? "method" with
  | none => .error .noMethod
  | some (.string name) =>
    if name = "" then .error .noMethod
    else if name ∈ Method.names then .ok name
    else .error (.unknownMethod name)
  | some v => .error (.unknownMethod v.text)

/-- A step of the path under a property; an empty text is no step. -/
def readSegment (query : Fields) (field : String) : Checked (Option String) :=
  match query.present? field with
  | none => .ok none
  | some (.string s) => .ok (if s = "" then none else some s)
  | some v => .error (.segmentNotString field v.kind)

def readCollection (query : Fields) : Checked String := do
  match ← readSegment query "collection" with
  | some collection => pure collection
  | none => .error .noCollection

def readStepCollection (index : Nat) (step : Fields) : Checked String :=
  match step.present? "collection" with
  | none => .error (.badSubcollection index .noCollection)
  | some (.string c) =>
    if c = "" then .error (.badSubcollection index .noCollection) else .ok c
  | some v => .error (.badSubcollection index (.collectionKind v.kind))

def readStepDoc (index : Nat) (step : Fields) : Checked (Option String) :=
  match step.present? "doc" with
  | none => .ok none
  | some (.string d) => .ok (if d = "" then none else some d)
  | some v => .error (.badSubcollection index (.docKind v.kind))

def readStepFields (index : Nat) (step : Fields) : Checked PathStep := do
  let collection ← readStepCollection index step
  let doc ← readStepDoc index step
  pure { collection, doc }

def readStep (index : Nat) : Value → Checked PathStep
  | .object step => readStepFields index step
  | v => .error (.badSubcollection index (.notObject v.kind))

/-- The entries of the subcollections, of which the first has number `index`. -/
def readSteps (index : Nat) : List Value → Checked (List PathStep)
  | [] => .ok []
  | v :: vs => do
    let step ← readStep index v
    let steps ← readSteps (index + 1) vs
    pure (step :: steps)

def readSubcollections (requestType : String) (query : Fields) : Checked (List PathStep) :=
  match query.present? "subcollections" with
  | none => .ok []
  | some (.array items) => readSteps 0 items
  | some _ => .error (.subcollectionsNotArray requestType)

/-- Every entry but the last names a document. -/
def checkInnerDocs (index : Nat) : List PathStep → Checked Unit
  | step :: next :: steps =>
    if step.doc = none then .error (.badSubcollection index .noDoc)
    else checkInnerDocs (index + 1) (next :: steps)
  | _ => .ok ()

def readDoc (query : Fields) (steps : List PathStep) : Checked (Option String) := do
  let doc ← readSegment query "doc"
  if steps ≠ [] ∧ doc = none then .error .subcollectionsWithoutDoc
  checkInnerDocs 0 steps
  pure doc

def readExpression : Value → Checked String
  | .string expression => .ok expression
  | v => .error (.badWhere (.arrayWith v.kind))

def readExpressions (query : Fields) : Checked (List String) :=
  match query.present? "where" with
  | none => .ok []
  | some (.string expression) => .ok [expression]
  | some (.array items) => items.mapM readExpression
  | some v => .error (.badWhere (.other v.kind))

/-- The filter expressions, each of which has to parse. -/
def readFilters (query : Fields) : Checked (List String) := do
  let expressions ← readExpressions query
  match Filter.parseAll expressions with
  | .ok _ => pure expressions
  | .error e => .error (.filter e)

def readData (query : Fields) : Checked Fields :=
  match query.present? "data" with
  | none => .ok []
  | some (.object data) => .ok data
  | some v => .error (.dataNotObject v.kind)

def readOptions (query : Fields) : Checked SetOptions :=
  match query.present? "options" with
  | none => .ok .default
  | some (.object options) => .ok (.ofFields options)
  | some v => .error (.optionsNotObject v.kind)

def readQuery (requestType : String) (query : Fields) : Checked Query := do
  let name ← readMethodName query
  let collection ← readCollection query
  let subcollections ← readSubcollections requestType query
  let doc ← readDoc query subcollections
  let filters ← readFilters query
  let data ← readData query
  let options ← readOptions query
  match Method.ofName? name data options with
  | some method => pure { collection, doc, subcollections, filters, method }
  | none => .error (.unknownMethod name)

/-! ## The schema -/

def readSchemaName (schema : Fields) : Checked String :=
  match schema.present? "name" with
  | some (.string name) => if name = "" then .error (.badSchema .noName) else .ok name
  | _ => .error (.badSchema .noName)

/-- A property that is a text or absent; `fault` is what a value of another kind breaks. -/
def readName (schema : Fields) (key : String) (fault : Kind → SchemaFault) :
    Checked (Option String) :=
  match schema.present? key with
  | none => .ok none
  | some (.string s) => .ok (some s)
  | some v => .error (.badSchema (fault v.kind))

def readSchemaFields (schema : Fields) : Checked SchemaDescriptor := do
  let name ← readSchemaName schema
  let key ← readName schema "key" .keyKind
  let transform ← readName schema "transform" .transformKind
  pure { name, key, transform }

def readSchemaValue : Value → Checked SchemaDescriptor
  | .object schema => readSchemaFields schema
  | v => .error (.badSchema (.notObject v.kind))

def readSchema (config : Fields) : Checked (Option SchemaDescriptor) :=
  match config.present? "schema" with
  | none => .ok none
  | some v => (readSchemaValue v).map some

/-- The descriptor that properties spell. -/
def ofFields (config : Fields) : Checked Descriptor := do
  let types ← readTypes (config.get? "types")
  let bailout ← readBailout config
  let queryObject ← readQueryObject config
  let query ← readQuery types.request queryObject
  let schema ← readSchema config
  pure {
    types, schema, bailout, query
    payload := config.get? "payload"
    metadata := config.get? "meta"
  }

/-- **The descriptor a value spells**, or the first rule it breaks.  A value that is no object has
no properties. -/
def ofJson (v : Value) : Checked Descriptor := ofFields (v.asObject?.getD [])

end Descriptor

end DocDispatch
