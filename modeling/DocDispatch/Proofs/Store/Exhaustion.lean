import DocDispatch.Proofs.Store.Atomicity
import DocDispatch.Proofs.Store.Reactions

/-!
# Proofs/Store/Exhaustion — with listeners that run out of reactions, drains end

    q     deliveries in the queue
    w     reactions left, in calls under way, in listeners, and in those they may yet register
    l     listeners

    q + w · (l + w)

What is owed need not shrink while a drain sends it: a reaction may queue a delivery for every
listener, and register one more.  But it is used up by that, and those that are left find at most
`l + w` listeners.  So the sum bounds what is still to be sent: a call made for one of the `w`
leaves it as it was or smaller (`deliveries_le`), and sending takes one off.

What is due to a listener depends on what it has heard, and nothing else in a run does.  A run in
which a listener has been called but has not noted the delivery yet is therefore a state of its own
(`Run.Limited.calling`); with the note, the reaction passes from what is left to the program at
work.
-/

namespace DocDispatch

variable {σ L α : Type}

/-- **How many deliveries there can be**, with some owed, reactions of some weight left and some
listeners. -/
def deliveries (owed left listeners : Nat) : Nat := owed + left * (listeners + left)

/-- One of the reactions left may queue a delivery for every listener, or register one. -/
theorem deliveries_le {owed owed' left left' listeners listeners' : Nat}
    (queued : owed' ≤ owed + listeners + 1) (registered : listeners' ≤ listeners + 1)
    (used : left' + 1 ≤ left) :
    deliveries owed' left' listeners' ≤ deliveries owed left listeners := by
  have rest : left' * (listeners' + left') ≤ left' * (listeners + left) :=
    Nat.mul_le_mul_left _ (by omega)
  have all : (left' + 1) * (listeners + left) ≤ left * (listeners + left) :=
    Nat.mul_le_mul_right _ used
  rw [Nat.succ_mul] at all
  unfold deliveries
  omega

theorem deliveries_mono {owed left left' listeners : Nat} (h : left' ≤ left) :
    deliveries owed left' listeners ≤ deliveries owed left listeners :=
  Nat.add_le_add_left (Nat.mul_le_mul h (Nat.add_le_add_left h _)) _

/-! ## The bound, in a store -/

namespace Effect

theorem length_notices_le (e : Effect L) (s : Store L) :
    (e.notices s).length ≤ s.listenerCount + 1 := by
  cases e with
  | nothing => exact Nat.zero_le _
  | write path data =>
    have owed := Store.length_owed_le { s with documents := s.documents.insert path data } path
    rw [← Store.map_noticesOf, List.length_map] at owed
    exact Nat.le_succ_of_le owed
  | failAll e => simp [notices, Store.listenerCount]
  | subscribeDocument r listener => exact Nat.le_add_left 1 _
  | subscribeQuery q listener =>
    simp only [notices]
    cases s.runQuery q with
    | ok docs => exact Nat.le_add_left 1 _
    | error e => exact Nat.zero_le _
  | unsubscribe id => exact Nat.zero_le _

theorem listenerCount_apply_le (e : Effect L) (s : Store L) :
    (e.apply s).listenerCount ≤ s.listenerCount + 1 := by
  cases e with
  | subscribeDocument r listener =>
    simp only [apply, Store.listenDocument, Store.enqueue, Store.listenerCount, List.length_append,
      List.length_singleton]
    omega
  | subscribeQuery q listener =>
    simp only [apply, Store.listenQuery]
    cases s.runQuery q with
    | ok docs =>
      simp only [Store.enqueue, Store.listenerCount, List.length_append, List.length_singleton]
      omega
    | error e => exact Nat.le_succ _
  | unsubscribe id =>
    exact Nat.le_succ_of_le (Nat.add_le_add (List.length_filter_le ..) (List.length_filter_le ..))
  | _ => exact Nat.le_succ _

end Effect

namespace Store

/-- **At most `d` deliveries are still to be sent**, if calls of some weight are made and the
listeners, all of which are known, have the reactions left that the notes say. -/
structure Limited (s : Store Scripted) (j : Journal) (known : List Scripted) (weight d : Nat) :
    Prop where
  hosts : s.Hosts (· ∈ known)
  within : deliveries s.queue.length (weight + j.remaining known) s.listenerCount ≤ d

namespace Limited

variable {s : Store Scripted} {j j' : Journal} {known : List Scripted} {w w' d : Nat}

theorem of_le (h : s.Limited j known w d)
    (le : w' + j'.remaining known ≤ w + j.remaining known) : s.Limited j' known w' d :=
  ⟨h.hosts, Nat.le_trans (deliveries_mono le) h.within⟩

theorem withDraining (h : s.Limited j known w d) (draining : Bool) :
    { s with draining : Store Scripted }.Limited j known w d :=
  ⟨⟨h.hosts.document, h.hosts.query, h.hosts.queue⟩, h.within⟩

/-- Notes on the host's side do not matter, unless they are of deliveries. -/
theorem hears (h : s.Limited j known w d) (hears : ∀ number, j.heard number ≤ j'.heard number) :
    s.Limited j' known w d :=
  h.of_le (Nat.add_le_add_left (Journal.remaining_le hears known) w)

/-- A listener that notes a delivery has its reaction to make. -/
theorem note (h : s.Limited j known w d) {l : Scripted} (mem : l ∈ known) (o : Outcome) :
    s.Limited (j.note (.delivery l.number o)) known (w + j.due l) d :=
  h.of_le (by have noted := Journal.remaining_note (j := j) mem o; omega)

/-- **A call leaves the bound as it was.** -/
theorem perform {c : Call Scripted} (h : s.Limited j known (c.weight + w) d)
    (freshId : Nat → String) :
    (s.perform freshId c).store.Limited j (c.brought ++ known) w d := by
  have old : s.Hosts (· ∈ c.brought ++ known) :=
    h.hosts.mono fun _ mem => List.mem_append_right _ mem
  refine ⟨old.perform (c.admits_brought known) freshId, Nat.le_trans ?_ h.within⟩
  have used := c.remaining_brought j known
  refine deliveries_le ?_ ?_ (by omega)
  · rw [perform_queue, List.length_append, List.length_map]
    have notices := (s.effect freshId c).length_notices_le s
    omega
  · obtain ⟨_, _, _, store⟩ := s.perform_store freshId c
    rw [store]
    exact Effect.listenerCount_apply_le ..

/-- **Sending takes one off**, and calls a listener that is known. -/
theorem pop (h : s.Limited j known w d) {x : Delivery Scripted} {queue : List (Delivery Scripted)}
    (hq : s.queue = x :: queue) :
    x.listener ∈ known ∧
      ∃ d', d = d' + 1 ∧ { s with queue : Store Scripted }.Limited j known w d' := by
  have queued : ∀ y ∈ x :: queue, y.listener ∈ known := hq ▸ h.hosts.queue
  have within := h.within
  rw [hq, deliveries, List.length_cons] at within
  refine ⟨queued x List.mem_cons_self, d - 1, by omega,
    ⟨h.hosts.document, h.hosts.query, fun y hy => queued y (List.mem_cons_of_mem _ hy)⟩, ?_⟩
  change deliveries queue.length (w + j.remaining known) s.listenerCount ≤ d - 1
  unfold deliveries
  omega

end Limited

end Store

/-! ## The bound, in a run -/

namespace Run

/-- **A run is over within `n` steps and sends at most `d` deliveries.**  Each delivery takes seven
of the steps: it is taken from the queue, noted, met with a reaction of four moves, and returned
from; a move of the outermost program may have a drain to end. -/
inductive Limited : Run Journal Scripted α → Nat → Nat → Prop
  | quiet {s : Store Scripted} {j : Journal} {outer : Program Journal Scripted α}
      {known : List Scripted} {m w d n : Nat} (limited : s.Limited j known w d)
      (costs : outer.Costs m w) (steps : 7 * d + 2 * m ≤ n) :
      Limited ⟨s, j, outer, []⟩ d n
  | between {s : Store Scripted} {j : Journal} {outer : Program Journal Scripted α}
      {known : List Scripted} {m w d n : Nat} (draining : s.draining)
      (limited : s.Limited j known w d) (costs : outer.Costs m w)
      (steps : 7 * d + 2 * m + 1 ≤ n) :
      Limited ⟨s, j, outer, [.drain]⟩ d n
  | calling {s : Store Scripted} {j : Journal} {outer : Program Journal Scripted α}
      {known : List Scripted} {m w d n : Nat} {l : Scripted} (o : Outcome) (draining : s.draining)
      (limited : s.Limited j known w d) (mem : l ∈ known) (costs : outer.Costs m w)
      (steps : 7 * d + 2 * m + 7 ≤ n) :
      Limited ⟨s, j, outer, [.listener (l.respond o), .drain]⟩ d n
  | inside {s : Store Scripted} {j : Journal} {outer : Program Journal Scripted α}
      {p : Program Journal Scripted Unit} {known : List Scripted} {m m' w w' d n : Nat}
      (draining : s.draining) (limited : s.Limited j known (w + w') d) (costs : outer.Costs m w)
      (listener : p.Costs m' w') (steps : 7 * d + 2 * m + m' + 2 ≤ n) :
      Limited ⟨s, j, outer, [.listener p, .drain]⟩ d n

namespace Limited

variable (freshId : Nat → String) {s : Store Scripted} {j : Journal}
  {outer : Program Journal Scripted α} {known : List Scripted} {m w d n : Nat}

/-- The outermost program moves; its call may start a drain. -/
theorem step_quiet (limited : s.Limited j known w d) (costs : outer.Costs m w)
    (steps : 7 * d + 2 * m ≤ n + 1) (working : (start s j outer).isOver = false) :
    ((start s j outer).step (Scripted.environment freshId)).Limited d n := by
  cases costs with
  | done a => cases working
  | panic => cases working
  | host hears rest => exact .quiet (limited.hears (hears j)) (rest j) (by omega)
  | call weight rest =>
    have called := (limited.of_le (Nat.add_le_add_right weight _)).perform freshId
    change (flush ⟨(s.perform freshId _).store, j, _, []⟩ _).Limited d n
    unfold flush
    split
    · exact .between rfl (called.withDraining true) (rest _) (by omega)
    · exact .quiet called (rest _) (by omega)

/-- A drain ends, or sends what is owed first and calls its listener. -/
theorem step_between (draining : s.draining) (limited : s.Limited j known w d)
    (costs : outer.Costs m w) (steps : 7 * d + 2 * m + 1 ≤ n + 1) :
    ∃ d', d' + (Run.handed ⟨s, j, outer, [.drain]⟩).length = d ∧
      (Run.step (Scripted.environment freshId) ⟨s, j, outer, [.drain]⟩).Limited d' n := by
  cases hq : s.queue with
  | nil =>
    have ended := limited.withDraining false
    rw [hq] at ended
    simp only [Run.handed, Run.step, hq]
    exact ⟨d, rfl, .quiet ended costs (by omega)⟩
  | cons x queue =>
    obtain ⟨mem, d', rfl, rest⟩ := limited.pop hq
    simp only [Run.handed, Run.step, hq]
    exact ⟨d', rfl, .calling x.outcome draining rest mem costs (by omega)⟩

/-- A listener at work moves, returns to its drain or sweeps everything away. -/
theorem step_inside {p : Program Journal Scripted Unit} {m' w' : Nat} (draining : s.draining)
    (limited : s.Limited j known (w + w') d) (costs : outer.Costs m w) (listener : p.Costs m' w')
    (steps : 7 * d + 2 * m + m' + 2 ≤ n + 1) :
    (Run.step (Scripted.environment freshId) ⟨s, j, outer, [.listener p, .drain]⟩).Limited d n := by
  have own : s.Limited j known w d := limited.of_le (by omega)
  cases listener with
  | done a => exact .between draining own costs (by omega)
  | panic => exact .quiet (own.withDraining _) (.panic (m := 0) (w := w)) (by omega)
  | host hears rest => exact .inside draining (limited.hears (hears j)) costs (rest j) (by omega)
  | @call m'' w'' _ c next weight rest =>
    have left : s.Limited j known (c.weight + (w + w'')) d := limited.of_le (by omega)
    have drains := (Store.perform_draining freshId s c).trans draining
    rw [step_listener_call ⟨.inside _, draining⟩ rfl]
    exact .inside drains (left.perform freshId) costs (rest _) (by omega)

/-- **A step that sends takes one off the deliveries**, and every step one off the steps. -/
theorem step {r : Run Journal Scripted α} (h : r.Limited d (n + 1)) (working : r.isOver = false) :
    ∃ d', d' + r.handed.length = d ∧ (r.step (Scripted.environment freshId)).Limited d' n := by
  cases h with
  | quiet limited costs steps => exact ⟨d, rfl, step_quiet freshId limited costs steps working⟩
  | between draining limited costs steps => exact step_between freshId draining limited costs steps
  | @calling s j outer known m w _ _ l o draining limited mem costs steps =>
    rw [l.respond_eq]
    exact ⟨d, rfl, .inside draining (limited.note mem o) costs (l.react_costs j o) (by omega)⟩
  | inside draining limited costs listener steps =>
    exact ⟨d, rfl, step_inside freshId draining limited costs listener steps⟩

/-- Without a step left a run is over. -/
theorem isOver {r : Run Journal Scripted α} (h : r.Limited d 0) : r.isOver := by
  cases h with
  | quiet limited costs steps =>
    cases costs with
    | done a => rfl
    | panic => rfl
    | host => omega
    | call => omega
  | between | calling | inside => omega

end Limited

end Run

namespace Audit

/-- Once a run is over, nothing more is entered… -/
theorem step_of_isOver {env : Environment σ L} {a : Audit σ L α} (h : a.run.isOver) :
    a.step env = a := by
  obtain ⟨⟨store, host, outer, stack⟩, queued, sent⟩ := a
  obtain rfl : stack = [] := Run.stack_eq_nil_of_isOver h
  cases outer with
  | done | panic => simp [step, Run.step, Run.noticed, Run.calling?, Run.handed]
  | host | call => cases h

/-- …at any later time. -/
theorem after_of_isOver {env : Environment σ L} {a : Audit σ L α} (h : a.run.isOver) (n : Nat) :
    a.after env n = a := by
  induction n with
  | zero => rfl
  | succ n ih => rw [after, step_of_isOver h, ih]

/-- **A limited run comes to its end.** -/
theorem ends_of_limited (freshId : Nat → String) {a : Audit Journal Scripted α} {d n : Nat}
    (h : a.run.Limited d n) :
    (a.after (Scripted.environment freshId) n).run.isOver ∧
      (a.after (Scripted.environment freshId) n).sent.length ≤ a.sent.length + d := by
  induction n generalizing a d with
  | zero => exact ⟨h.isOver, Nat.le_add_right ..⟩
  | succ n ih =>
    by_cases already : a.run.isOver
    · rw [after_of_isOver already]
      exact ⟨already, Nat.le_add_right ..⟩
    · obtain ⟨d', sent, rest⟩ := h.step freshId (eq_false_of_ne_true already)
      obtain ⟨ended, few⟩ := ih (a := a.step _) rest
      refine ⟨ended, Nat.le_trans few ?_⟩
      rw [step, List.length_append]
      omega

end Audit

namespace Run

variable {env : Environment σ L} {r : Run σ L α} {a : α}

/-- An outermost program that only waits to return can but be swept away. -/
theorem outer_step (h : r.outer = .done a ∨ r.outer = .panic) :
    (r.step env).outer = .done a ∨ (r.step env).outer = .panic := by
  by_cases idle : r.stack = []
  · have ended : r.isOver := by
      rcases h with h | h <;> simp only [isOver, idle, h]
    rwa [step_of_isOver env ended]
  · rcases step_outer_of_stack env idle with same | swept
    · rwa [same]
    · exact Or.inr swept

theorem ending_of_isOver (ended : r.isOver) (h : r.outer = .done a ∨ r.outer = .panic) :
    r.ending = .returned a ∨ r.ending = .panicked := by
  have idle := stack_eq_nil_of_isOver ended
  rcases h with h | h
  · exact Or.inl (by rw [ending, idle, h])
  · exact Or.inr (by rw [ending, idle, h])

theorem ending_ne_unfinished (ended : r.isOver) : r.ending ≠ .unfinished := by
  obtain ⟨store, host, outer, stack⟩ := r
  obtain rfl : stack = [] := stack_eq_nil_of_isOver ended
  cases outer with
  | done a =>
    change Ending.returned a ≠ _
    exact nofun
  | panic =>
    change Ending.panicked ≠ _
    exact nofun
  | host | call => cases ended

end Run

theorem Audit.outer_after (env : Environment σ L) (n : Nat) {a : Audit σ L α} {result : α}
    (h : a.run.outer = .done result ∨ a.run.outer = .panic) :
    (a.after env n).run.outer = .done result ∨ (a.after env n).run.outer = .panic := by
  induction n generalizing a with
  | zero => exact h
  | succ n ih => exact ih (Run.outer_step h)

/-! ## Sessions -/

namespace ScriptedStore

/-- The deliveries that a session can still send, calls of some weight being made. -/
def limit (s : ScriptedStore) (weight : Nat) : Nat :=
  deliveries s.store.queue.length (weight + s.journal.remaining s.listeners) s.store.listenerCount

theorem hosts_listeners (s : ScriptedStore) : s.store.Hosts (· ∈ s.listeners) where
  document _ mem := List.mem_append_left _ (List.mem_append_left _ (List.mem_map_of_mem mem))
  query _ mem := List.mem_append_left _ (List.mem_append_right _ (List.mem_map_of_mem mem))
  queue _ mem := List.mem_append_right _ (List.mem_map_of_mem mem)

theorem limited_start (s : ScriptedStore) {p : Program Journal Scripted α} {m w n : Nat}
    (costs : p.Costs m w) (steps : 7 * s.limit w + 2 * m ≤ n) :
    (Run.start s.store s.journal p).Limited (s.limit w) n :=
  .quiet ⟨s.hosts_listeners, Nat.le_refl _⟩ costs steps

/-- **With listeners that run out of reactions, every call comes to its end.**  Whatever state the
store is in, queue and flag included, and however many listeners the reactions register, a call from
outside is answered or swept away by a panic, after no more deliveries than `limit` says. -/
theorem drain_ends (freshId : Nat → String) (s : ScriptedStore) (c : Call Scripted) :
    ∃ (n : Nat) (b : Audit Journal Scripted c.Reply),
      Audit.after (Scripted.environment freshId) n
        ⟨Run.start s.store s.journal (.perform c), [], []⟩ = b ∧
      (b.run.ending = .returned (s.store.perform freshId c).reply ∨ b.run.ending = .panicked) ∧
      b.sent.length ≤ s.limit c.weight := by
  have costs : (Program.perform c : Program Journal Scripted c.Reply).Costs 1 c.weight :=
    .call (w := 0) (Nat.le_refl _) fun _ => .done _
  let a : Audit Journal Scripted c.Reply := ⟨Run.start s.store s.journal (.perform c), [], []⟩
  obtain ⟨ended, few⟩ := Audit.ends_of_limited freshId (a := a)
    (s.limited_start costs (Nat.le_refl _))
  -- The first step is the call, and hands over the reply.
  have answered : (a.step (Scripted.environment freshId)).run.outer =
      .done (s.store.perform freshId c).reply := Run.flush_outer _ _
  have waiting := Audit.outer_after (Scripted.environment freshId) (7 * s.limit c.weight + 1)
    (Or.inl answered)
  refine ⟨_, _, rfl, Run.ending_of_isOver ended waiting, ?_⟩
  rwa [List.length_nil, Nat.zero_add] at few

/-- The fuel covers the steps of all deliveries, and those of the step itself. -/
theorem limit_le_fuel (s : ScriptedStore) (step : Step) :
    7 * s.limit step.weight + 2 * 3 ≤ s.fuel step := by
  have left := Nat.add_le_add_left (s.journal.remaining_le_weights s.listeners) step.weight
  have less : s.limit step.weight ≤ _ := deliveries_mono left
  rw [deliveries] at less
  unfold fuel
  generalize step.weight + Step.weights (s.listeners.flatMap (·.reactions)) = reactions at less ⊢
  dsimp only
  have more : reactions * (s.store.listenerCount + reactions) ≤
      (reactions + 1) * (s.store.listenerCount + reactions + 1) :=
    Nat.mul_le_mul (Nat.le_succ _) (Nat.le_succ _)
  omega

/-- **A step from outside comes to its end with the fuel it is given.** -/
theorem perform_ne_unfinished (s : ScriptedStore) (step : Step) :
    (s.perform step).2 ≠ .unfinished := by
  have limited := s.limited_start step.program_costs (s.limit_le_fuel step)
  have ended := (Audit.ends_of_limited DocumentId.ofBits
    (a := ⟨Run.start s.store s.journal step.program, [], []⟩) limited).1
  rw [Audit.run_after] at ended
  exact Run.ending_ne_unfinished ended

end ScriptedStore

end DocDispatch
