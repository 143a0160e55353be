import DocDispatch.Store.Call

/-!
# Store/Program — what someone does with a store

A program is a finite tree of calls, each going on with its reply, mixed with changes of a host
state that the store knows nothing of, such as a journal or the end of a pipeline.  It ends with a
result or breaks off.  Listeners are programs too; that they may call the store which is just
calling them is what `Store/Machine` gives a meaning to.
-/

namespace DocDispatch

/-- A program over host states `σ` and a store with listeners `L`, with a result in `α`. -/
inductive Program (σ L α : Type) where
  | done (a : α)
  | panic
  | host (change : σ → σ) (next : σ → Program σ L α)
  | call (c : Call L) (next : c.Reply → Program σ L α)

namespace Program

variable {σ L α β : Type}

/-- One program after another, which takes the first one's result. -/
def bind : Program σ L α → (α → Program σ L β) → Program σ L β
  | done a, f => f a
  | panic, _ => panic
  | host change next, f => host change fun h => (next h).bind f
  | call c next, f => call c fun r => (next r).bind f

instance : Monad (Program σ L) where
  pure := done
  bind := bind

/-- Changes the host state. -/
def modify (change : σ → σ) : Program σ L Unit := host change fun _ => done ()

/-- Makes one call. -/
def perform (c : Call L) : Program σ L c.Reply := call c done

end Program

end DocDispatch
