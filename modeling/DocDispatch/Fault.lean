/-!
# Fault — how a computation that calls foreign code can end early

Transforms and listeners are supplied from outside.  They can break off, and then everything that
was waiting for them breaks off too; that is told apart from an error a computation raises itself.
-/

namespace DocDispatch

/-- Why a computation ended early. -/
inductive Fault (ε : Type) where
  | error (e : ε)
  | panic
deriving DecidableEq

end DocDispatch
