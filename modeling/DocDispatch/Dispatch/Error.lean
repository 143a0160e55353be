import DocDispatch.Descriptor.Error
import DocDispatch.Schema.Basic
import DocDispatch.Store.Error

/-!
# Dispatch/Error — why a store call does not complete

An error of any layer below, or one of the two ways in which a call is not even run to its end.  The
code is the store's own where the store refused, so that a host can tell refusals apart without
reading messages; `toJson` is what a failure action carries.
-/

namespace DocDispatch

open Json (Value)

/-- **Why a store call does not complete.** -/
inductive CallError where
  /-- The descriptor is refused; nothing has been emitted. -/
  | config (e : DescriptorError)
  | storage (e : StoreError)
  /-- The response does not fit the schema. -/
  | schema (e : SchemaError)
  /-- There is nothing to run a one-shot call on; nothing has been emitted. -/
  | noRuntime
  /-- The call broke off and has no result. -/
  | aborted
deriving DecidableEq

namespace CallError

def code : CallError → String
  | .config _ => "invalid-descriptor"
  | .storage e => e.code
  | .schema _ => "schema-mismatch"
  | .noRuntime => "no-runtime"
  | .aborted => "aborted"

def message : CallError → String
  | .config e => e.message
  | .storage e => e.message
  | .schema e => e.message
  | .noRuntime => "one-shot store calls need a running tokio runtime"
  | .aborted => "store call task aborted"

def isConfig : CallError → Bool
  | .config _ => true
  | _ => false

/-- The error as the metadata of a failure action. -/
def toJson (e : CallError) : Value :=
  .object [("code", .string e.code), ("message", .string e.message)]

end CallError

end DocDispatch
