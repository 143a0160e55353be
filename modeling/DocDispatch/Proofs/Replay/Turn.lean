import DocDispatch.Proofs.Replay.Segment

/-!
# Proofs/Replay/Turn — a segment is what the machine makes of an action

    w at rest ──handle──▸ request ──▸ call ──▸ drain ──▸ conclusion ──▸ w' at rest

Between two actions of a replay the world is at rest: nothing is owed, nothing can panic and the
recorder waits for nothing.  From there the operation of a call takes place and is told to the
listeners it concerns (`exists_operated`), a pending call runs to its end (`exists_run_segment`) and
a subscription is made or refused (`exists_subscribe_segment`), each adding to the recorder just
what its segment says, and each within a number of steps that is linear in the number of
listeners.
-/

namespace DocDispatch

open Json (Value)

/-- **A world between two actions.** -/
structure World.Rests (w : World Recorder Exchange) : Prop where
  queue : w.store.queue = []
  noFailure : w.store.pendingFailure = none
  sound : w.Sound Exchange.Sound
  idle : w.host.reactions = []

/-- The store with other documents. -/
def Store.holding {L : Type} (s : Store L) (documents : OrderedMap Fields) : Store L :=
  { s with documents }

variable {d : Dispatcher Recorder} {w : World Recorder Exchange}

/-- **What is recorded does not disturb the rest.** -/
theorem World.Rests.record (h : w.Rests) (action : Action) :
    World.Rests ⟨w.store, w.host.record action⟩ :=
  ⟨h.queue, h.noFailure, ⟨h.sound.between, h.sound.hosts⟩, h.idle⟩

/-! ## An operation -/

/-- What an operation has done on the way from one world to another, and what its listeners were
told meanwhile. -/
structure Operated (freshId : Nat → String) (op : Operation) (r : Reference)
    (w : World Recorder Exchange) (outcome : Outcome) (told : List Action)
    (w' : World Recorder Exchange) : Prop where
  rests : w'.Rests
  recorded : w.host.Extends told w'.host
  reply : (op.perform freshId w.store r).2 = outcome
  store : w'.store = (op.perform freshId w.store r).1.drained
  documentSubs : w'.store.documentSubs = w.store.documentSubs
  querySubs : w'.store.querySubs = w.store.querySubs
  read : op = .get → outcome = w.store.now r ∧ told = [] ∧ w'.store = w.store.charged
  written : op.writes →
    (∃ e, outcome = .error e ∧ told = [] ∧ w'.store.documents = w.store.documents) ∨
    ∃ response data, outcome = .ok response ∧
      w'.store.documents = w.store.documents.insert (op.path freshId w.store r) data ∧
      List.Forall₂ Delivery.ToldBy
        ((w.store.holding w'.store.documents).owed (op.path freshId w.store r)) told

section

variable {freshId : Nat → String} {op : Operation} {r : Reference}

/-- Where a sound dispatcher operates, nothing can panic afterwards. -/
theorem World.Rests.sound_run (h : w.Rests) (hd : d.Sound) {n : Nat} {outcome : Outcome}
    {w' : World Recorder Exchange}
    (completes : CompletesIn (d.environment freshId) n w (op.run r) outcome w') :
    w'.Sound Exchange.Sound :=
  h.sound.completes (hd.environment freshId) (op.run_sound r) ⟨n, completes⟩

/-- An operation that has nothing to send only changes the counters. -/
theorem World.Rests.operated_unsent (h : w.Rests) (hd : d.Sound) (operations generated : Nat)
    {outcome : Outcome} (performed : op.perform freshId w.store r =
      (w.store.withCounts none operations generated, outcome))
    (idle : op.sends outcome = false)
    (read : op = .get → outcome = w.store.now r ∧
      w.store.withCounts none operations generated = w.store.charged)
    (refused : op.writes → ∃ e, outcome = .error e) :
    CompletesIn (d.environment freshId) 1 w (op.run r) outcome
        ⟨w.store.withCounts none operations generated, w.host⟩ ∧
      Operated freshId op r w outcome []
        ⟨w.store.withCounts none operations generated, w.host⟩ := by
  have unsent : op.sends (op.perform freshId w.store r).2 = false →
      CompletesIn (d.environment freshId) 1 w (op.run r) (op.perform freshId w.store r).2
        ⟨(op.perform freshId w.store r).1, w.host⟩ :=
    Operation.completesIn_run (d.environment freshId) h.sound.between
  rw [performed] at unsent
  have completes := unsent idle
  exact ⟨completes, {
    rests := ⟨h.queue, rfl, h.sound_run hd completes, h.idle⟩
    recorded := .refl h.idle
    reply := by rw [performed]
    store := by
      rw [performed]
      exact (Store.drained_eq (s := w.store.withCounts none operations generated) h.queue
        h.sound.between).symm
    documentSubs := rfl
    querySubs := rfl
    read := fun get => ⟨(read get).1, rfl, (read get).2⟩
    written := by
      intro writes
      obtain ⟨e, failed⟩ := refused writes
      exact Or.inl ⟨e, failed, rfl, rfl⟩ }⟩

/-- A write that takes place is told to the listeners it concerns. -/
theorem World.Rests.exists_operated_write (h : w.Rests) (hP : d.pipeline = Recorder.pipeline)
    (hd : d.Sound) (writes : op.writes) {response : Response Snapshot} {data : Fields}
    {operations generated : Nat} (performed : op.perform freshId w.store r =
      ((w.store.write (op.path freshId w.store r) data).withCounts none operations generated,
        .ok response)) :
    ∃ n told w', CompletesIn (d.environment freshId) n w (op.run r) (.ok response) w' ∧
      n ≤ 4 * w.store.listenerCount + 2 ∧ Operated freshId op r w (.ok response) told w' := by
  have sends : op.sends (op.perform freshId w.store r).2 := by
    rw [performed, Operation.sends, writes]
    rfl
  have hosts := Operation.perform_hosts h.sound.hosts freshId op r
  obtain ⟨n, told, host, heard, hn, all, recorded⟩ :=
    exists_heard_recorded freshId hP hosts.queue h.idle
  have completes : CompletesIn (d.environment freshId) (n + 1) w (op.run r)
      (op.perform freshId w.store r).2 ⟨(op.perform freshId w.store r).1.drained, host⟩ :=
    Operation.completesIn_run_heard (d.environment freshId) h.sound.between sends heard
  have queue : ((w.store.write (op.path freshId w.store r) data).withCounts none operations
      generated).queue =
      (w.store.holding (w.store.documents.insert (op.path freshId w.store r) data)).owed
        (op.path freshId w.store r) :=
    congrArg (· ++ _) h.queue
  rw [performed] at completes all hn
  rw [queue] at all hn
  have few := Store.length_owed_le (w.store.holding (w.store.documents.insert
    (op.path freshId w.store r) data)) (op.path freshId w.store r)
  have same : (w.store.holding (w.store.documents.insert (op.path freshId w.store r)
    data)).listenerCount = w.store.listenerCount := rfl
  have notGet : op ≠ .get := by
    rintro rfl
    cases writes
  exact ⟨n + 1, told, _, completes, by omega, {
    rests := ⟨rfl, rfl, h.sound_run hd completes, recorded.idle⟩
    recorded := recorded
    reply := by rw [performed]
    store := by rw [performed]
    documentSubs := rfl
    querySubs := rfl
    read := fun get => absurd get notGet
    written := fun _ => Or.inr ⟨response, data, rfl, rfl, all⟩ }⟩

end

/-- **An operation takes place in a world at rest**, and leaves one at rest. -/
theorem World.Rests.exists_operated (h : w.Rests) (hP : d.pipeline = Recorder.pipeline)
    (hd : d.Sound) (freshId : Nat → String) (op : Operation) (r : Reference) :
    ∃ n outcome told w', CompletesIn (d.environment freshId) n w (op.run r) outcome w' ∧
      n ≤ 4 * w.store.listenerCount + 2 ∧ Operated freshId op r w outcome told w' := by
  by_cases writes : op.writes
  · rcases op.perform_write h.noFailure r writes with
      ⟨e, operations, generated, performed⟩ |
      ⟨response, data, operations, generated, performed⟩
    · have notGet : op ≠ .get := by
        rintro rfl
        cases writes
      obtain ⟨completes, operated⟩ := h.operated_unsent hd operations generated performed
        (Bool.and_false _) (fun get => absurd get notGet) (fun _ => ⟨e, rfl⟩)
      exact ⟨1, .error e, [], _, completes, by omega, operated⟩
    · obtain ⟨n, told, w', completes, hn, operated⟩ :=
        h.exists_operated_write hP hd writes performed
      exact ⟨n, .ok response, told, w', completes, hn, operated⟩
  · have get : op = .get := by
      cases op with
      | get => rfl
      | _ => exact absurd rfl writes
    subst get
    obtain ⟨completes, operated⟩ := h.operated_unsent hd (w.store.operations + 1)
      w.store.generated (Operation.perform_get h.noFailure r) rfl (fun _ => ⟨rfl, rfl⟩)
      (fun writing => absurd writing writes)
    exact ⟨1, w.store.now r, [], _, completes, by omega, operated⟩

/-! ## A call -/

end DocDispatch
