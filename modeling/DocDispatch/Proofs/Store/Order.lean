import DocDispatch.Proofs.Store.Audit

/-!
# Proofs/Store/Order — every delivery is sent once, in the order it was queued

A run is *orderly* if its stack is one of three, and the flag says which:

    []              nothing above the outermost program     flag clear
    [drain]         between two listener calls              flag set
    [listener, drain]   inside a listener call              flag set

so no listener is ever called inside another one.  A step keeps a run orderly and keeps the books
balanced: what was sent, followed by the queue, is what was queued.  The rest is read off these two:
a drain only ends on an empty queue, or is swept away by a panic that leaves the queue as it is.
-/

namespace DocDispatch

variable {σ L α : Type}

/-! ## Calls of the store in a run -/

theorem Store.perform_draining (freshId : Nat → String) (s : Store L) (c : Call L) :
    (s.perform freshId c).store.draining = s.draining := by
  obtain ⟨_, _, _, h⟩ := s.perform_store freshId c
  rw [h]
  exact Effect.apply_draining _ _

/-- **A call leaves in the queue what was there, followed by the notices of its effect.** -/
theorem Store.perform_queue (freshId : Nat → String) (s : Store L) (c : Call L) :
    (s.perform freshId c).store.queue =
      s.queue ++ ((s.effect freshId c).notices s).map Notice.delivery := by
  obtain ⟨_, _, _, h⟩ := s.perform_store freshId c
  rw [h]
  exact Effect.apply_queue _ _

namespace Run

/-! ## Orderly runs -/

/-- **The stacks that occur**: listeners are only ever called by a drain, and one at a time. -/
inductive Stacked : List (Frame σ L) → Prop
  | quiet : Stacked []
  | between : Stacked [.drain]
  | inside (p : Program σ L Unit) : Stacked [.listener p, .drain]

/-- **A run whose stack is one of the three, and whose flag says which.** -/
structure Orderly (r : Run σ L α) : Prop where
  stacked : Stacked r.stack
  draining : r.store.draining = r.stack.any Frame.isDrain

theorem Orderly.draining_eq_false {r : Run σ L α} (h : r.Orderly) (hs : r.stack = []) :
    r.store.draining = false := by
  rw [h.draining, hs]
  rfl

/-- **A call from outside starts a drain if it queued anything to send.** -/
theorem step_outer_call (env : Environment σ L) {r : Run σ L α} (h : r.Orderly)
    (hs : r.stack = []) {c : Call L} {next : c.Reply → Program σ L α}
    (ho : r.outer = .call c next) :
    r.step env = if (r.store.perform env.freshId c).flushes then
        { r with
          store := { (r.store.perform env.freshId c).store with draining := true }
          outer := next (r.store.perform env.freshId c).reply
          stack := [.drain] }
      else
        { r with
          store := (r.store.perform env.freshId c).store
          outer := next (r.store.perform env.freshId c).reply } := by
  have hd : (r.store.perform env.freshId c).store.draining = false := by
    rw [Store.perform_draining, h.draining_eq_false hs]
  simp only [step, hs, ho, flush, hd, Bool.not_false, Bool.and_true]

/-- **A call from a listener never starts a drain**: the one that called the listener is at work. -/
theorem step_listener_call {env : Environment σ L} {r : Run σ L α} (h : r.Orderly) {c : Call L}
    {next : c.Reply → Program σ L Unit} {below : List (Frame σ L)}
    (hs : r.stack = .listener (.call c next) :: below) :
    r.step env = { r with
      store := (r.store.perform env.freshId c).store
      stack := .listener (next (r.store.perform env.freshId c).reply) :: below } := by
  have hd : (r.store.perform env.freshId c).store.draining = true := by
    rw [Store.perform_draining, h.draining, hs]
    have := h.stacked
    rw [hs] at this
    cases this
    rfl
  simp only [step, hs, flush, hd, Bool.not_true, Bool.and_false, Bool.false_eq_true, if_false]

theorem orderly_start {s : Store L} (hs : s.draining = false) (host : σ) (p : Program σ L α) :
    (start s host p).Orderly :=
  ⟨.quiet, hs⟩

theorem Orderly.step {env : Environment σ L} {r : Run σ L α} (h : r.Orderly) :
    (r.step env).Orderly := by
  obtain ⟨store, host, outer, stack⟩ := r
  obtain ⟨stacked, draining⟩ := h
  cases stacked with
  | quiet =>
    cases outer with
    | done a => exact ⟨.quiet, draining⟩
    | panic => exact ⟨.quiet, draining⟩
    | host change next => exact ⟨.quiet, draining⟩
    | call c next =>
      rw [step_outer_call _ ⟨.quiet, draining⟩ rfl rfl]
      split
      · exact ⟨.between, rfl⟩
      · exact ⟨.quiet, (Store.perform_draining ..).trans draining⟩
  | between =>
    cases hq : store.queue with
    | nil =>
      simp only [Run.step, hq]
      exact ⟨.quiet, rfl⟩
    | cons d queue =>
      simp only [Run.step, hq]
      exact ⟨.inside _, draining⟩
  | inside p =>
    cases p with
    | done a => exact ⟨.between, draining⟩
    | panic =>
      refine ⟨.quiet, ?_⟩
      simp [Run.step, unwind, Frame.isDrain]
    | host change next => exact ⟨.inside _, draining⟩
    | call c next =>
      rw [step_listener_call ⟨.inside _, draining⟩ rfl]
      exact ⟨.inside _, (Store.perform_draining ..).trans draining⟩

/-- While something is active, the outermost program waits; only a panic takes it away. -/
theorem Orderly.step_outer (env : Environment σ L) {r : Run σ L α} (h : r.Orderly)
    (hs : r.stack ≠ []) :
    ((r.step env).outer = r.outer ∧ ((r.step env).stack = [] → (r.step env).store.queue = [])) ∨
      ((r.step env).outer = .panic ∧ (r.step env).stack = []) := by
  obtain ⟨store, host, outer, stack⟩ := r
  obtain ⟨stacked, draining⟩ := h
  cases stacked with
  | quiet => exact absurd rfl hs
  | between =>
    cases hq : store.queue with
    | nil => exact Or.inl (by simp [Run.step, hq])
    | cons d queue => exact Or.inl (by simp [Run.step, hq])
  | inside p =>
    cases p with
    | done a => exact Or.inl ⟨rfl, fun empty => (List.cons_ne_nil _ _ empty).elim⟩
    | panic => exact Or.inr ⟨rfl, rfl⟩
    | host change next => exact Or.inl ⟨rfl, fun empty => (List.cons_ne_nil _ _ empty).elim⟩
    | call c next =>
      rw [step_listener_call ⟨.inside _, draining⟩ rfl]
      exact Or.inl ⟨rfl, fun empty => (List.cons_ne_nil _ _ empty).elim⟩

theorem stack_eq_nil_of_isOver {r : Run σ L α} (h : r.isOver) : r.stack = [] := by
  unfold isOver at h
  split at h
  · assumption
  · assumption
  · cases h

/-- The delivery handed over by a step and the queue after it are the queue before it, followed by
what the step queues. -/
theorem Orderly.handed_append_queue {env : Environment σ L} {r : Run σ L α} (h : r.Orderly) :
    r.handed ++ (r.step env).store.queue =
      r.store.queue ++ (r.noticed env).map Notice.delivery := by
  obtain ⟨store, host, outer, stack⟩ := r
  obtain ⟨stacked, draining⟩ := h
  cases stacked with
  | quiet =>
    cases outer with
    | done a => simp [handed, noticed, calling?, Run.step]
    | panic => simp [handed, noticed, calling?, Run.step]
    | host change next => simp [handed, noticed, calling?, Run.step]
    | call c next =>
      have queue : (Run.step env ⟨store, host, .call c next, []⟩).store.queue =
          (store.perform env.freshId c).store.queue := by
        rw [step_outer_call _ ⟨.quiet, draining⟩ rfl rfl]
        split <;> rfl
      rw [queue, Store.perform_queue]
      rfl
  | between =>
    cases hq : store.queue with
    | nil => simp [handed, noticed, calling?, Run.step, hq]
    | cons d queue => simp [handed, noticed, calling?, Run.step, hq]
  | inside p =>
    cases p with
    | done a => simp [handed, noticed, calling?, Run.step]
    | panic => simp [handed, noticed, calling?, Run.step, unwind]
    | host change next => simp [handed, noticed, calling?, Run.step]
    | call c next =>
      rw [step_listener_call ⟨.inside _, draining⟩ rfl]
      exact Store.perform_queue env.freshId store c

/-- A listener is called where a drain is at work and no listener is. -/
theorem Orderly.stack_of_handed {r : Run σ L α} (h : r.Orderly) (hd : r.handed ≠ []) :
    r.stack = [.drain] := by
  obtain ⟨store, host, outer, stack⟩ := r
  obtain ⟨stacked, draining⟩ := h
  cases stacked with
  | quiet => exact absurd rfl hd
  | between => rfl
  | inside p => exact absurd rfl hd

theorem Orderly.countP_isDrain_le {r : Run σ L α} (h : r.Orderly) :
    r.stack.countP (fun f => !f.isDrain) ≤ 1 := by
  obtain ⟨store, host, outer, stack⟩ := r
  obtain ⟨stacked, draining⟩ := h
  cases stacked <;> simp [Frame.isDrain]

theorem Orderly.draining_iff {r : Run σ L α} (h : r.Orderly) :
    r.store.draining = true ↔ .drain ∈ r.stack := by
  obtain ⟨store, host, outer, stack⟩ := r
  obtain ⟨stacked, draining⟩ := h
  rw [draining]
  cases stacked <;> simp [Frame.isDrain]

end Run

namespace Audit

/-! ## The books balance -/

/-- **An orderly run whose books balance**: what was sent, followed by the queue, is what was
queued. -/
structure Balanced (a : Audit σ L α) : Prop where
  orderly : a.run.Orderly
  balance : a.sent ++ a.run.store.queue = a.queued.map Notice.delivery

theorem Balanced.step {env : Environment σ L} {a : Audit σ L α} (h : a.Balanced) :
    (a.step env).Balanced where
  orderly := h.orderly.step
  balance :=
    calc a.sent ++ a.run.handed ++ (a.run.step env).store.queue
        = a.sent ++ a.run.store.queue ++ (a.run.noticed env).map Notice.delivery := by
          rw [List.append_assoc, h.orderly.handed_append_queue, List.append_assoc]
      _ = (a.queued ++ a.run.noticed env).map Notice.delivery := by
          rw [h.balance, List.map_append]

theorem Reachable.balanced {env : Environment σ L} {a : Audit σ L α} (h : a.Reachable env) :
    a.Balanced := by
  induction h with
  | start documents host p => exact ⟨Run.orderly_start rfl host p, rfl⟩
  | step _ ih => exact ih.step
  | next _ ended p ih =>
    have quiet := ih.orderly.draining_eq_false (Run.stack_eq_nil_of_isOver ended)
    exact ⟨Run.orderly_start quiet _ p, ih.balance⟩

/-! ## The end of a call -/

theorem Unwinds.stack_eq_nil {env : Environment σ L} {a b : Audit σ L α} (h : a.Unwinds env b) :
    b.run.stack = [] := by
  induction h with
  | done h => exact h
  | step _ _ ih => exact ih

theorem Unwinds.balanced {env : Environment σ L} {a b : Audit σ L α} (h : a.Unwinds env b)
    (ha : a.Balanced) : b.Balanced := by
  induction h with
  | done _ => exact ha
  | step _ _ ih => exact ih ha.step

/-- Notices are only ever added. -/
theorem Unwinds.queued {env : Environment σ L} {a b : Audit σ L α} (h : a.Unwinds env b) :
    ∃ newer, b.queued = a.queued ++ newer := by
  induction h with
  | done _ => exact ⟨[], by simp⟩
  | step _ _ ih =>
    obtain ⟨newer, h⟩ := ih
    exact ⟨_, h.trans (List.append_assoc ..)⟩

/-- A drain that is not swept away ends on an empty queue, with the outermost program untouched. -/
theorem Unwinds.queue_eq_nil {env : Environment σ L} {a b : Audit σ L α} (h : a.Unwinds env b)
    (ha : a.run.Orderly) (hs : a.run.stack ≠ []) :
    (b.run.outer = a.run.outer ∧ b.run.store.queue = []) ∨ b.run.outer = .panic := by
  induction h with
  | done h => exact absurd h hs
  | @step a b _ rest ih =>
    rcases ha.step_outer env hs with ⟨outer, queue⟩ | ⟨outer, stack⟩
    · by_cases stack : (a.run.step env).stack = []
      · cases rest with
        | done _ => exact Or.inl ⟨outer, queue stack⟩
        | step h _ => exact absurd stack h
      · rcases ih ha.step stack with ⟨outer', queue'⟩ | panic
        · exact Or.inl ⟨outer'.trans outer, queue'⟩
        · exact Or.inr panic
    · cases rest with
      | done _ => exact Or.inr outer
      | step h _ => exact absurd stack h

/-- A panic of a listener sweeps the stack away and clears the flag; nothing else changes. -/
theorem Balanced.step_panic {env : Environment σ L} {a : Audit σ L α} (h : a.Balanced)
    {below : List (Frame σ L)} (hs : a.run.stack = .listener .panic :: below) :
    a.step env = { a with run := { a.run with
      store := { a.run.store with draining := false }
      outer := .panic
      stack := [] } } := by
  obtain ⟨⟨store, host, outer, stack⟩, queued, sent⟩ := a
  obtain rfl : stack = .listener .panic :: below := hs
  have swept : (store.draining && !(Frame.listener Program.panic :: below).any Frame.isDrain)
      = false := by
    have := h.orderly.stacked
    cases this
    simp [Frame.isDrain]
  change (⟨Run.unwind _, queued ++ [], sent ++ []⟩ : Audit σ L α) = _
  simp only [Run.unwind, swept, List.append_nil]

/-- How a call from outside comes to an end. -/
theorem Balanced.call_ends {env : Environment σ L} {a b : Audit σ L α} (h : a.Balanced)
    {c : Call L} {next : c.Reply → Program σ L α} (hs : a.run.stack = [])
    (ho : a.run.outer = .call c next) (hb : (a.step env).Unwinds env b) :
    b.run.store.draining = false ∧
    (b.run.outer = .panic ∨
      b.run.outer = next (a.run.store.perform env.freshId c).reply ∧
      ((a.run.store.perform env.freshId c).flushes →
        b.run.store.queue = [] ∧
        ∃ newer, b.queued = a.queued ++ newer ∧
          b.sent = a.sent ++ a.run.store.queue ++ newer.map Notice.delivery)) := by
  have balanced := hb.balanced h.step
  refine ⟨balanced.orderly.draining_eq_false hb.stack_eq_nil, ?_⟩
  have step := Run.step_outer_call env h.orderly hs ho
  by_cases flushes : (a.run.store.perform env.freshId c).flushes
  · rw [if_pos flushes] at step
    have inside : (a.step env).run.stack ≠ [] := by simp [Audit.step, step]
    rcases hb.queue_eq_nil h.orderly.step inside with ⟨outer, queue⟩ | panic
    · refine Or.inr ⟨outer.trans (by simp [Audit.step, step]), fun _ => ⟨queue, ?_⟩⟩
      obtain ⟨newer, queued⟩ := hb.queued
      refine ⟨a.run.noticed env ++ newer, queued.trans (List.append_assoc ..), ?_⟩
      calc b.sent
          = b.queued.map Notice.delivery := by
            rw [← balanced.balance, queue, List.append_nil]
        _ = a.queued.map Notice.delivery ++ (a.run.noticed env ++ newer).map Notice.delivery := by
            rw [queued, List.map_append, List.map_append, Audit.step]
            simp
        _ = _ := by rw [← h.balance]
    · exact Or.inl panic
  · rw [if_neg flushes] at step
    have outside : (a.step env).run.stack = [] := by simpa [Audit.step, step] using hs
    cases hb with
    | done _ => exact Or.inr ⟨by simp [Audit.step, step], fun h => absurd h flushes⟩
    | step inside _ => exact absurd outside inside

/-- **Every delivery is sent exactly once, in the order it was queued.**  At every point of every
run, in which listeners call the store and panic as they like: what listeners were handed, followed
by the queue, is all that was ever queued; a listener is called by a drain while no other listener
runs; and the flag is set while a drain is at work.  A panic loses nothing that is queued.  A call
from outside leaves the flag clear, however it ends; if it returns and was to send the queue, it has
sent what was left there before it, and after that everything newer. -/
theorem Reachable.sent_in_order {env : Environment σ L} {a : Audit σ L α} (h : a.Reachable env) :
    a.sent ++ a.run.store.queue = a.queued.map Notice.delivery ∧
    (a.run.handed ≠ [] → a.run.stack = [.drain]) ∧
    a.run.stack.countP (fun f => !f.isDrain) ≤ 1 ∧
    (a.run.store.draining = true ↔ .drain ∈ a.run.stack) ∧
    (∀ below, a.run.stack = .listener .panic :: below →
      a.step env = { a with run := { a.run with
        store := { a.run.store with draining := false }
        outer := .panic
        stack := [] } }) ∧
    (∀ (c : Call L) (next : c.Reply → Program σ L α) (b : Audit σ L α),
      a.run.stack = [] → a.run.outer = .call c next → (a.step env).Unwinds env b →
      b.run.store.draining = false ∧
      (b.run.outer = .panic ∨
        b.run.outer = next (a.run.store.perform env.freshId c).reply ∧
        ((a.run.store.perform env.freshId c).flushes →
          b.run.store.queue = [] ∧
          ∃ newer, b.queued = a.queued ++ newer ∧
            b.sent = a.sent ++ a.run.store.queue ++ newer.map Notice.delivery))) := by
  have balanced := h.balanced
  exact ⟨balanced.balance, balanced.orderly.stack_of_handed, balanced.orderly.countP_isDrain_le,
    balanced.orderly.draining_iff, fun _ hs => balanced.step_panic hs,
    fun _ _ _ hs ho hb => balanced.call_ends hs ho hb⟩

/-- Listeners that panic at every delivery, or at none. -/
def fragile : Environment Unit Bool where
  respond panics _ := if panics then .panic else .done ()
  freshId _ := ""

/-- A document with a panicking listener and, behind it, a silent one, after a write whose sending
the first of them has broken off. -/
def brokenOff : Audit Unit Bool Unit :=
  let user : Reference := .document ⟨[.collection "users", .doc "a"]⟩
  let listen (panics : Bool) : Program Unit Bool (Except StoreError Nat) :=
    .perform (.listen user panics)
  let panicked := (start .empty () (listen true)).after fragile 3
  let listening := (panicked.next (listen false)).after fragile 4
  (listening.next (.perform (.put "users/a" []))).after fragile 3

/-- There the silent listener's delivery of the write is still owed, and the flag is clear. -/
theorem sent_in_order_brokenOff :
    brokenOff.Reachable fragile ∧ brokenOff.sent.map Delivery.listener = [true, false, true] ∧
    brokenOff.run.store.queue.map Delivery.listener = [false] ∧
    brokenOff.sent ++ brokenOff.run.store.queue = brokenOff.queued.map Notice.delivery ∧
    ¬ brokenOff.run.store.draining = true := by
  have reached : brokenOff.Reachable fragile :=
    .after 3 (.next (.after 4 (.next (.after 3 (.start _ _ _)) rfl _)) rfl _)
  have law := reached.sent_in_order
  refine ⟨reached, rfl, rfl, law.1, ?_⟩
  exact fun draining => absurd (law.2.2.2.1.mp draining) nofun

end Audit

end DocDispatch
