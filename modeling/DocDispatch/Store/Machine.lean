import DocDispatch.Store.Program

/-!
# Store/Machine — who sends the queue, and when

A call that queued deliveries starts a *drain*, unless one is running already: the drain takes the
first delivery of the queue, runs its listener, and goes on until the queue is empty; only then does
the caller get its reply.  Deliveries that a listener causes are therefore sent after the one it is
hearing, by the drain that is already running.

    outermost program ──call──▸ drain ──▸ listener ──call──▸ (queued, reply at once)

A `Run` keeps what is active on a stack above the outermost program: drains and the listeners they
are running.  `Run.step` does one thing; a program that panics takes the whole stack with it, and a
drain that is swept away leaves the queue as it is and the flag cleared.
-/

namespace DocDispatch

/-- What a run needs from outside: how listeners respond, and the ids of new documents. -/
structure Environment (σ L : Type) where
  respond : L → Outcome → Program σ L Unit
  freshId : Nat → String

/-- What is active above the outermost program. -/
inductive Frame (σ L : Type) where
  | drain
  | listener (p : Program σ L Unit)

def Frame.isDrain {σ L : Type} : Frame σ L → Bool
  | .drain => true
  | .listener _ => false

/-- A program at work on a store. -/
structure Run (σ L α : Type) where
  store : Store L
  host : σ
  outer : Program σ L α
  stack : List (Frame σ L)

/-- How a program ends. -/
inductive Ending (α : Type) where
  | returned (a : α)
  | panicked
  | unfinished

namespace Run

variable {σ L α : Type}

def start (store : Store L) (host : σ) (p : Program σ L α) : Run σ L α := ⟨store, host, p, []⟩

/-- Starts a drain if one is wanted and none is running. -/
def flush (r : Run σ L α) (wanted : Bool) : Run σ L α :=
  if wanted && !r.store.draining then
    { r with store := { r.store with draining := true }, stack := .drain :: r.stack }
  else r

/-- Breaks everything off: the stack is swept away, and a drain on it clears its flag. -/
def unwind (r : Run σ L α) : Run σ L α :=
  { r with
    store := { r.store with draining := r.store.draining && !r.stack.any Frame.isDrain }
    outer := .panic
    stack := [] }

/-- **One step.**  The top of the stack moves, or the outermost program if the stack is empty. -/
def step (env : Environment σ L) (r : Run σ L α) : Run σ L α :=
  match r.stack with
  | [] =>
    match r.outer with
    | .done _ | .panic => r
    | .host change next =>
      let host := change r.host
      { r with host, outer := next host }
    | .call c next =>
      let p := r.store.perform env.freshId c
      { r with store := p.store, outer := next p.reply }.flush p.flushes
  | .drain :: below =>
    match r.store.queue with
    | [] => { r with store := { r.store with draining := false }, stack := below }
    | d :: queue =>
      { r with
        store := { r.store with queue }
        stack := .listener (env.respond d.listener d.outcome) :: .drain :: below }
  | .listener p :: below =>
    match p with
    | .done () => { r with stack := below }
    | .panic => r.unwind
    | .host change next =>
      let host := change r.host
      { r with host, stack := .listener (next host) :: below }
    | .call c next =>
      let p := r.store.perform env.freshId c
      { r with store := p.store, stack := .listener (next p.reply) :: below }.flush p.flushes

/-- Whether nothing is left to do. -/
def isOver (r : Run σ L α) : Bool :=
  match r.stack, r.outer with
  | [], .done _ | [], .panic => true
  | _, _ => false

/-- At most `fuel` steps. -/
def steps (env : Environment σ L) : Nat → Run σ L α → Run σ L α
  | 0, r => r
  | fuel + 1, r => if r.isOver then r else steps env fuel (r.step env)

def ending (r : Run σ L α) : Ending α :=
  match r.stack, r.outer with
  | [], .done a => .returned a
  | [], .panic => .panicked
  | _, _ => .unfinished

end Run

end DocDispatch
