import DocDispatch.Proofs.Store.Completion
import DocDispatch.Proofs.Store.Order

/-!
# Proofs/Store/Quiet — programs that leave the store alone, and drains of such listeners

    ⟨s, h⟩ ──call──▸ drain d₁ ─▸ drain d₂ ─▸ … ─▸ ⟨s without a queue, h'⟩

A program runs *quietly* if it only ever changes the host state.  A drain whose listeners all run
quietly sends exactly the queue it began with: `Heard` adds up what that does to the host state, and
how many steps of the machine it takes.  A call from outside then ends, on an empty queue, within
one step more; in the books there are the notices of its effect and the deliveries that were owed,
and nothing else (`Heard.after_call`).
-/

namespace DocDispatch

variable {σ L α β : Type}

/-- **The run of an audit is the run without its books.** -/
theorem Audit.run_after (env : Environment σ L) :
    ∀ (n : Nat) (a : Audit σ L α), (a.after env n).run = Run.steps env n a.run
  | 0, _ => rfl
  | n + 1, a => by
      rw [after, run_after env n]
      by_cases ended : a.run.isOver
      · rw [Run.steps_of_isOver ended, step, Run.step_of_isOver env ended,
          Run.steps_of_isOver ended]
      · rw [Run.steps_succ (eq_false_of_ne_true ended), step]

/-- **Within `n` changes of the host state, from `h` to `h'`, a program returns without having
called the store.** -/
inductive Quietly : Nat → σ → Program σ L α → α → σ → Prop
  | done {h : σ} {a : α} : Quietly 0 h (.done a) a h
  | host {n : Nat} {h h' : σ} {change : σ → σ} {next : σ → Program σ L α} {a : α}
      (rest : Quietly n (change h) (next (change h)) a h') :
      Quietly (n + 1) h (.host change next) a h'

namespace Program

/-- **Whether a program never calls the store and never breaks off, wherever it is begun.** -/
def Quiet : Program σ L α → Prop
  | done _ => True
  | panic => False
  | host change next => ∀ h, (next (change h)).Quiet
  | call _ _ => False

/-- A quiet program runs quietly from anywhere. -/
theorem Quiet.exists_quietly : ∀ {p : Program σ L α}, p.Quiet → ∀ h, ∃ n a h', Quietly n h p a h'
  | .done a, _, h => ⟨0, a, h, .done⟩
  | .host change _, quiet, h => by
    obtain ⟨n, a, h', rest⟩ := (quiet h).exists_quietly (change h)
    exact ⟨n + 1, a, h', .host rest⟩

theorem Quiet.bind {f : α → Program σ L β} :
    ∀ {p : Program σ L α}, p.Quiet → (∀ a, (f a).Quiet) → (p.bind f).Quiet
  | .done a, _, hf => hf a
  | .host _ _, quiet, hf => fun h => (quiet h).bind hf

end Program

theorem Quietly.bind {m n : Nat} {h h' h'' : σ} {p : Program σ L α} {a : α}
    {f : α → Program σ L β} {b : β} (hp : Quietly m h p a h') (hf : Quietly n h' (f a) b h'') :
    Quietly (m + n) h (p.bind f) b h'' := by
  induction hp with
  | done => rwa [Nat.zero_add]
  | host _ ih =>
    rw [Nat.succ_add]
    exact .host (ih hf)

/-- **A program run by itself.** -/
theorem Quietly.completesIn {env : Environment σ L} {n : Nat} {h h' : σ} {p : Program σ L α}
    {a : α} (hp : Quietly n h p a h') (s : Store L) : CompletesIn env n ⟨s, h⟩ p a ⟨s, h'⟩ := by
  induction hp with
  | done => rfl
  | host _ ih => exact (Run.steps_succ rfl _).trans ih

/-- A listener run by a drain enters nothing in the books. -/
theorem Quietly.after_listener {env : Environment σ L} {n : Nat} {h h' : σ}
    {p : Program σ L Unit} {u : Unit} (hp : Quietly n h p u h') (s : Store L)
    (outer : Program σ L α) (below : List (Frame σ L)) (queued : List (Notice L))
    (sent : List (Delivery L)) :
    Audit.after env (n + 1) ⟨⟨s, h, outer, .listener p :: below⟩, queued, sent⟩ =
      ⟨⟨s, h', outer, below⟩, queued, sent⟩ := by
  induction hp with
  | done => simp [Audit.after, Audit.step, Run.step, Run.noticed, Run.calling?, Run.handed]
  | @host n h h' change next a rest ih =>
    have step : Audit.step env
        ⟨⟨s, h, outer, .listener (.host change next) :: below⟩, queued, sent⟩ =
          ⟨⟨s, change h, outer, .listener (next (change h)) :: below⟩, queued, sent⟩ := by
      simp [Audit.step, Run.step, Run.noticed, Run.calling?, Run.handed]
    rw [Audit.after, step, ih]

/-! ## Drains -/

/-- **Listeners hear some deliveries one after another, quietly**; a drain that sends them and
nothing else is over within `n` steps. -/
inductive Heard (env : Environment σ L) : Nat → σ → List (Delivery L) → σ → Prop
  | nil {h : σ} : Heard env 1 h [] h
  | cons {m n : Nat} {h h' h'' : σ} {d : Delivery L} {ds : List (Delivery L)}
      (first : Quietly m h (env.respond d.listener d.outcome) () h')
      (rest : Heard env n h' ds h'') :
      Heard env (m + 2 + n) h (d :: ds) h''

theorem exists_heard {env : Environment σ L} :
    ∀ {ds : List (Delivery L)}, (∀ d ∈ ds, (env.respond d.listener d.outcome).Quiet) →
      ∀ h, ∃ n h', Heard env n h ds h'
  | [], _, h => ⟨1, h, .nil⟩
  | d :: ds, quiet, h => by
    obtain ⟨m, _, h₁, first⟩ := (quiet d List.mem_cons_self).exists_quietly h
    obtain ⟨n, h', rest⟩ := exists_heard (fun d' hd' => quiet d' (List.mem_cons_of_mem _ hd')) h₁
    exact ⟨m + 2 + n, h', .cons first rest⟩

namespace Store

/-- **The store after a drain.** -/
def drained (s : Store L) : Store L := { s with queue := [], draining := false }

/-- **A store that owes nothing is not changed by a drain.** -/
theorem drained_eq {s : Store L} (hq : s.queue = []) (hd : s.draining = false) : s.drained = s := by
  obtain ⟨_, _, _, _, _, _, _, queue, draining⟩ := s
  obtain rfl : queue = [] := hq
  obtain rfl : draining = false := hd
  rfl

end Store

variable {env : Environment σ L}

/-- A drain sends the deliveries at the front of the queue and enters them, and is left with the
others. -/
theorem Heard.after_front {n : Nat} {h h' : σ} {ds : List (Delivery L)}
    (heard : Heard env n h ds h') {s : Store L} {rest : List (Delivery L)}
    (hq : s.queue = ds ++ rest) (outer : Program σ L α) (queued : List (Notice L))
    (sent : List (Delivery L)) :
    Audit.after env n ⟨⟨s, h, outer, [.drain]⟩, queued, sent⟩ =
      Audit.after env 1 ⟨⟨{ s with queue := rest }, h', outer, [.drain]⟩, queued, sent ++ ds⟩ := by
  induction heard generalizing s sent with
  | nil =>
    obtain rfl : s.queue = rest := hq
    rw [List.append_nil]
  | @cons m n h h₁ h₂ d ds first _ ih =>
    have pop : Audit.step env ⟨⟨s, h, outer, [.drain]⟩, queued, sent⟩ =
        ⟨⟨{ s with queue := ds ++ rest }, h, outer,
          [.listener (env.respond d.listener d.outcome), .drain]⟩, queued, sent ++ [d]⟩ := by
      simp [Audit.step, Run.step, Run.noticed, Run.calling?, Run.handed, hq]
    rw [show m + 2 + n = m + 1 + n + 1 by omega, Audit.after, pop, Audit.after_add,
      first.after_listener, ih rfl, List.append_assoc, List.singleton_append]

theorem Heard.steps_front {n : Nat} {h h' : σ} {ds : List (Delivery L)}
    (heard : Heard env n h ds h') {s : Store L} {rest : List (Delivery L)}
    (hq : s.queue = ds ++ rest) (outer : Program σ L α) :
    Run.steps env n ⟨s, h, outer, [.drain]⟩ =
      Run.steps env 1 ⟨{ s with queue := rest }, h', outer, [.drain]⟩ := by
  simpa only [Audit.run_after] using congrArg Audit.run (heard.after_front hq outer [] [])

/-- A drain sends the queue and ends. -/
theorem Heard.after_drain {n : Nat} {h h' : σ} {ds : List (Delivery L)}
    (heard : Heard env n h ds h') {s : Store L} (hq : s.queue = ds) (outer : Program σ L α)
    (queued : List (Notice L)) (sent : List (Delivery L)) :
    Audit.after env n ⟨⟨s, h, outer, [.drain]⟩, queued, sent⟩ =
      ⟨⟨s.drained, h', outer, []⟩, queued, sent ++ ds⟩ := by
  rw [heard.after_front (hq.trans (List.append_nil ds).symm)]
  simp [Audit.after, Audit.step, Run.step, Run.noticed, Run.calling?, Run.handed, Store.drained]

/-! ## Calls from outside -/

section

variable {a : Audit σ L α} {c : Call L}

/-- **A call that sends enters the notices of its effect, and all that is owed.** -/
theorem Heard.after_call {n : Nat} {host : σ} (idle : a.run.store.draining = false)
    (flushes : (a.run.store.perform env.freshId c).flushes)
    (heard : Heard env n a.run.host (a.run.store.perform env.freshId c).store.queue host) :
    (a.next (.perform c)).after env (n + 1) =
      ⟨Run.start (a.run.store.perform env.freshId c).store.drained host
          (.done (a.run.store.perform env.freshId c).reply),
        a.queued ++ (a.run.store.effect env.freshId c).notices a.run.store,
        a.sent ++ (a.run.store.perform env.freshId c).store.queue⟩ := by
  have call := (Run.step_outer_call env (Run.orderly_start idle a.run.host (.perform c)) rfl
    rfl).trans (if_pos flushes)
  have first : (a.next (.perform c)).step env =
      ⟨⟨{ (a.run.store.perform env.freshId c).store with draining := true }, a.run.host,
          .done (a.run.store.perform env.freshId c).reply, [.drain]⟩,
        a.queued ++ (a.run.store.effect env.freshId c).notices a.run.store, a.sent⟩ :=
    (Audit.mk.injEq ..).mpr ⟨call, rfl, List.append_nil _⟩
  rw [Audit.after, first]
  exact heard.after_drain
    (s := { (a.run.store.perform env.freshId c).store with draining := true }) rfl _ _ _

/-- **A call that sends nothing enters the notices of its effect.** -/
theorem Audit.after_call (idle : a.run.store.draining = false)
    (flushes : (a.run.store.perform env.freshId c).flushes = false) :
    (a.next (.perform c)).after env 1 =
      ⟨Run.start (a.run.store.perform env.freshId c).store a.run.host
          (.done (a.run.store.perform env.freshId c).reply),
        a.queued ++ (a.run.store.effect env.freshId c).notices a.run.store, a.sent⟩ :=
  have call := (Run.step_outer_call env (Run.orderly_start idle a.run.host (.perform c)) rfl
    rfl).trans (if_neg (ne_true_of_eq_false flushes))
  (Audit.mk.injEq ..).mpr ⟨call, rfl, List.append_nil _⟩

end

section

variable {w : World σ L} {c : Call L}

/-- **A call from outside ends on an empty queue** when its listeners hear quietly. -/
theorem Heard.completesIn_call {n : Nat} {h' : σ} (hd : w.store.draining = false)
    (flushes : (w.store.perform env.freshId c).flushes)
    (heard : Heard env n w.host (w.store.perform env.freshId c).store.queue h') :
    CompletesIn env (n + 1) w (.perform c) (w.store.perform env.freshId c).reply
      ⟨(w.store.perform env.freshId c).store.drained, h'⟩ := by
  have ended := Heard.after_call (a := ⟨Run.start w.store w.host (.done ()), [], []⟩) hd flushes
    heard
  exact (Audit.run_after ..).symm.trans (congrArg Audit.run ended)

/-- **A call that sends nothing is over at once.** -/
theorem completesIn_call (hd : w.store.draining = false)
    (flushes : (w.store.perform env.freshId c).flushes = false) :
    CompletesIn env 1 w (.perform c) (w.store.perform env.freshId c).reply
      ⟨(w.store.perform env.freshId c).store, w.host⟩ := by
  have ended := Audit.after_call (a := ⟨Run.start w.store w.host (.done ()), [], []⟩) hd flushes
  exact (Audit.run_after ..).symm.trans (congrArg Audit.run ended)

end

/-- **A call from outside has been answered**: `b` is how it leaves `a`. -/
def Audit.Answered (env : Environment σ L) (a : Audit σ L α) (c : Call L) (reply : c.Reply)
    (b : Audit σ L c.Reply) : Prop :=
  ∃ n, (a.next (.perform c)).after env n = b ∧ b.run.ending = .returned reply

end DocDispatch
