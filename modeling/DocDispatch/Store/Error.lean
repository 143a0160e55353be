import DocDispatch.Reference.Basic

/-!
# Store/Error — why a store refuses an operation

Each cause has a code that stays the same from release to release and a message for people.
-/

namespace DocDispatch

/-- What makes a reference one that cannot be executed. -/
inductive ReferenceFault where
  | notCollection (chain : String)
  | needsList (op : Filter.Operator)
  | notAddable (chain : String)
  | stated (text : String)
deriving DecidableEq

def ReferenceFault.text : ReferenceFault → String
  | .notCollection chain => s!"{chain} does not address a collection"
  | .needsList op => s!"operator '{op.text}' needs a list value"
  | .notAddable chain => s!"cannot add a document to {chain}"
  | .stated text => text

/-- **Why a store refuses an operation.** -/
inductive StoreError where
  | notFound (path : String)
  | alreadyExists (path : String)
  | invalidReference (fault : ReferenceFault)
  | unsupported (method : String) (target : Target)
  | backend (text : String)
  | serialization (text : String)
deriving DecidableEq

def Target.text : Target → String
  | .document => "Document"
  | .collection => "Collection"

namespace StoreError

def code : StoreError → String
  | .notFound _ => "not-found"
  | .alreadyExists _ => "already-exists"
  | .invalidReference _ => "invalid-argument"
  | .unsupported .. => "unimplemented"
  | .backend _ => "unavailable"
  | .serialization _ => "data-loss"

def message : StoreError → String
  | .notFound path => s!"document not found: {path}"
  | .alreadyExists path => s!"document already exists: {path}"
  | .invalidReference fault => s!"invalid reference: {fault.text}"
  | .unsupported method target => s!"'{method}' is not supported on a {target.text} reference"
  | .backend text => s!"store backend error: {text}"
  | .serialization text => s!"serialization error: {text}"

end StoreError

end DocDispatch
