import DocDispatch.Action
import DocDispatch.Json.Reader
import DocDispatch.Json.Record

/-!
# Replay/Script — what a replay is given

A script seeds a store, fixes the host state, names bailout predicates by the place in the state
they look at, and lists the actions to handle.  Everything in it has a default, so an empty object
is a script.
-/

namespace DocDispatch

open Json (Tree Value Record)

/-- A replay written down. -/
structure Script where
  /-- The documents the store starts with, by path. -/
  documents : OrderedMap Fields
  state : Value
  /-- For each bailout predicate a pointer into the state. -/
  bailouts : OrderedMap String
  actions : List Action
deriving DecidableEq

namespace Script

def toJson (s : Script) : Value :=
  .ofMembers [
    ("documents", .object (s.documents.members.map fun p => (p.1, .object p.2))),
    ("state", s.state),
    ("bailouts", .object (s.bailouts.members.map fun p => (p.1, .string p.2))),
    ("actions", .array (s.actions.map Action.toJson))]

def ofTree? (t : Tree) : Option Script := do
  let r ← Record.ofTree? ["documents", "state", "bailouts", "actions"] t
  some {
    documents := ← r.defaulted? "documents" OrderedMap.empty (Tree.toMap? Tree.toFields?)
    state := ← r.defaulted? "state" .null Tree.toValue?
    bailouts := ← r.defaulted? "bailouts" OrderedMap.empty (Tree.toMap? Tree.toString?)
    actions := ← r.defaulted? "actions" [] (Tree.toList? Action.ofTree?)
  }

/-- The script a JSON text spells. -/
def ofText? (text : String) : Option Script := Tree.ofText? Tree.standardRoom text >>= ofTree?

end Script

end DocDispatch
