import DocDispatch.Proofs.Store.Quiet

/-!
# Proofs/Store/Soundness — runs that nothing breaks off

A program is *sound* if no path through it panics, whatever it is answered, and if the listeners it
registers are of a kind `ok`.  Where listeners of that kind respond soundly, and the store hosts no
others, a sound program never panics and never meets a panic: soundness of the outermost program,
of the listener at work and of the store are kept by every step (`Sound.step`).
-/

namespace DocDispatch

variable {σ L α β : Type}

/-! ## Listeners of a kind -/

/-- Whether a listener that a call registers is of a kind. -/
def Call.Admits (ok : L → Prop) : Call L → Prop
  | .listen _ listener => ok listener
  | _ => True

/-- Whether a listener that an effect subscribes is of a kind. -/
def Effect.Admits (ok : L → Prop) : Effect L → Prop
  | .subscribeDocument _ listener => ok listener
  | .subscribeQuery _ listener => ok listener
  | _ => True

namespace Store

variable {ok : L → Prop} {s : Store L}

/-- **A store all of whose listeners are of a kind**, those included that are only still owed a
delivery. -/
structure Hosts (s : Store L) (ok : L → Prop) : Prop where
  document : ∀ sub ∈ s.documentSubs, ok sub.listener
  query : ∀ sub ∈ s.querySubs, ok sub.listener
  queue : ∀ d ∈ s.queue, ok d.listener

theorem Hosts.mono {ok' : L → Prop} (h : s.Hosts ok) (imp : ∀ l, ok l → ok' l) : s.Hosts ok' :=
  ⟨fun sub hs => imp _ (h.document sub hs), fun sub hs => imp _ (h.query sub hs),
    fun d hd => imp _ (h.queue d hd)⟩

theorem Hosts.noticesOf (h : s.Hosts ok) {path : String} {n : Notice L}
    (hn : n ∈ s.noticesOf path) : ok n.delivery.listener := by
  unfold Store.noticesOf at hn
  rcases List.mem_append.mp hn with hn | hn
  · obtain ⟨sub, hs, rfl⟩ := List.mem_map.mp hn
    exact h.document sub (List.mem_filter.mp hs).1
  · obtain ⟨sub, hs, rfl⟩ := List.mem_map.mp hn
    exact h.query sub (List.mem_filter.mp hs).1

/-- The listeners of the notices of an effect are those of the store, or the one it subscribes. -/
theorem Hosts.notices (h : s.Hosts ok) {e : Effect L} (he : e.Admits ok) {n : Notice L}
    (hn : n ∈ e.notices s) : ok n.delivery.listener := by
  cases e with
  | nothing => cases hn
  | write path data =>
    have after : { s with documents := s.documents.insert path data : Store L }.Hosts ok :=
      ⟨h.document, h.query, h.queue⟩
    exact after.noticesOf hn
  | failAll e =>
    rcases List.mem_append.mp hn with hn | hn
    · obtain ⟨sub, hs, rfl⟩ := List.mem_map.mp hn
      exact h.document sub hs
    · obtain ⟨sub, hs, rfl⟩ := List.mem_map.mp hn
      exact h.query sub hs
  | subscribeDocument r listener =>
    obtain rfl := List.mem_singleton.mp hn
    exact he
  | subscribeQuery q listener =>
    simp only [Effect.notices] at hn
    split at hn
    · obtain rfl := List.mem_singleton.mp hn
      exact he
    · cases hn
  | unsubscribe id => cases hn

theorem Hosts.apply (h : s.Hosts ok) {e : Effect L} (he : e.Admits ok) : (e.apply s).Hosts ok := by
  have queue : ∀ d ∈ (e.apply s).queue, ok d.listener := by
    intro d hd
    rw [Effect.apply_queue] at hd
    rcases List.mem_append.mp hd with hd | hd
    · exact h.queue d hd
    · obtain ⟨n, hn, rfl⟩ := List.mem_map.mp hd
      exact h.notices he hn
  cases e with
  | subscribeDocument r listener =>
    refine ⟨fun sub hs => ?_, h.query, queue⟩
    rcases List.mem_append.mp hs with hs | hs
    · exact h.document sub hs
    · obtain rfl := List.mem_singleton.mp hs
      exact he
  | subscribeQuery q listener =>
    simp only [Effect.apply, listenQuery] at queue ⊢
    cases found : s.runQuery q with
    | error e => exact h
    | ok docs =>
      rw [found] at queue
      refine ⟨h.document, fun sub hs => ?_, queue⟩
      rcases List.mem_append.mp hs with hs | hs
      · exact h.query sub hs
      · obtain rfl := List.mem_singleton.mp hs
        exact he
  | unsubscribe id =>
    exact ⟨fun sub hs => h.document sub (List.mem_filter.mp hs).1,
      fun sub hs => h.query sub (List.mem_filter.mp hs).1, queue⟩
  | _ => exact ⟨h.document, h.query, queue⟩

theorem operationEffect_admits {c : Call L} (hc : c.Admits ok) (freshId : Nat → String)
    (s : Store L) : (s.operationEffect freshId c).Admits ok := by
  unfold operationEffect
  split
  · trivial
  · split <;> trivial
  · dsimp only
    split
    · split <;> trivial
    · trivial
  · exact hc
  · exact hc
  · trivial

theorem effect_admits {c : Call L} (hc : c.Admits ok) (freshId : Nat → String) (s : Store L) :
    (s.effect freshId c).Admits ok := by
  unfold effect
  split
  · trivial
  · trivial
  · trivial
  · split
    · trivial
    · exact operationEffect_admits hc freshId s

/-- **A call keeps the listeners of a store, but for the one it registers.** -/
theorem Hosts.perform (h : s.Hosts ok) {c : Call L} (hc : c.Admits ok) (freshId : Nat → String) :
    (s.perform freshId c).store.Hosts ok := by
  obtain ⟨_, _, _, store⟩ := s.perform_store freshId c
  have applied := h.apply (effect_admits hc freshId s)
  rw [store]
  exact ⟨applied.document, applied.query, applied.queue⟩

end Store

/-! ## Sound programs -/

namespace Program

variable {ok : L → Prop}

/-- **No path through the program panics**, and it registers only listeners of a kind. -/
def Sound (ok : L → Prop) : Program σ L α → Prop
  | done _ => True
  | panic => False
  | host change next => ∀ h, (next (change h)).Sound ok
  | call c next => c.Admits ok ∧ ∀ reply, (next reply).Sound ok

theorem Sound.bind {f : α → Program σ L β} :
    ∀ {p : Program σ L α}, p.Sound ok → (∀ a, (f a).Sound ok) → (p.bind f).Sound ok
  | .done a, _, hf => hf a
  | .host _ _, hp, hf => fun h => (hp h).bind hf
  | .call _ _, hp, hf => ⟨hp.1, fun reply => (hp.2 reply).bind hf⟩

theorem Quiet.sound : ∀ {p : Program σ L α}, p.Quiet → p.Sound ok
  | .done _, _ => trivial
  | .host _ _, quiet => fun h => (quiet h).sound

end Program

/-- **Listeners of a kind respond soundly.** -/
def Environment.Sound (env : Environment σ L) (ok : L → Prop) : Prop :=
  ∀ l outcome, ok l → (env.respond l outcome).Sound ok

namespace Run

/-- **A run in which nothing can panic**: not the outermost program, not the listener at work, and
none of those yet to be called. -/
structure Sound (r : Run σ L α) (ok : L → Prop) : Prop where
  outer : r.outer.Sound ok
  listener : ∀ p, .listener p ∈ r.stack → p.Sound ok
  store : r.store.Hosts ok

variable {ok : L → Prop}

theorem Sound.flush {r : Run σ L α} (h : r.Sound ok) (wanted : Bool) :
    (r.flush wanted).Sound ok := by
  unfold Run.flush
  split
  · refine ⟨h.outer, fun p hp => ?_, h.store.document, h.store.query, h.store.queue⟩
    rcases List.mem_cons.mp hp with hp | hp
    · cases hp
    · exact h.listener p hp
  · exact h

/-- The listener on top of the stack goes on with a sound program. -/
theorem listener_replaced {p : Program σ L Unit} (hp : p.Sound ok) {q : Program σ L Unit}
    {below : List (Frame σ L)}
    (h : ∀ p', .listener p' ∈ .listener q :: below → Program.Sound ok p') :
    ∀ p', .listener p' ∈ .listener p :: below → Program.Sound ok p' := by
  intro p' mem
  rcases List.mem_cons.mp mem with same | mem
  · cases same
    exact hp
  · exact h p' (List.mem_cons_of_mem _ mem)

theorem mem_queue_of_handed {r : Run σ L α} {d : Delivery L} (h : d ∈ r.handed) :
    d ∈ r.store.queue := by
  unfold handed at h
  split at h
  · rename_i queue
    obtain rfl := List.mem_singleton.mp h
    rw [queue]
    exact List.mem_cons_self
  · cases h

/-- **A step is sound if the listener that it calls, if any, responds soundly.** -/
theorem Sound.step {env : Environment σ L} {r : Run σ L α}
    (henv : ∀ d ∈ r.handed, (env.respond d.listener d.outcome).Sound ok) (h : r.Sound ok) :
    (r.step env).Sound ok := by
  obtain ⟨store, host, outer, stack⟩ := r
  obtain ⟨sound, listeners, hosts⟩ := h
  cases stack with
  | nil =>
    cases outer with
    | done a => exact ⟨sound, listeners, hosts⟩
    | panic => exact ⟨sound, listeners, hosts⟩
    | host change next => exact ⟨sound host, listeners, hosts⟩
    | call c next =>
      have called : (⟨(store.perform env.freshId c).store, host,
          next (store.perform env.freshId c).reply, []⟩ : Run σ L α).Sound ok :=
        ⟨sound.2 _, listeners, hosts.perform sound.1 env.freshId⟩
      exact called.flush _
  | cons top below =>
    cases top with
    | drain =>
      have rest : ∀ p, .listener p ∈ below → Program.Sound ok p :=
        fun p hp => listeners p (List.mem_cons_of_mem _ hp)
      cases hq : store.queue with
      | nil =>
        simp only [Run.step, hq]
        exact ⟨sound, rest, hosts.document, hosts.query, List.forall_mem_nil _⟩
      | cons d queue =>
        simp only [Run.step, hq]
        have queued : ∀ d' ∈ d :: queue, ok d'.listener := hq ▸ hosts.queue
        refine ⟨sound, fun p hp => ?_, hosts.document, hosts.query,
          fun d' hd' => queued d' (List.mem_cons_of_mem _ hd')⟩
        rcases List.mem_cons.mp hp with same | hp
        · cases same
          exact henv d (by rw [handed, hq]; exact List.mem_singleton_self d)
        · exact listeners p hp
    | listener p =>
      have here : p.Sound ok := listeners p List.mem_cons_self
      cases p with
      | done a => exact ⟨sound, fun p hp => listeners p (List.mem_cons_of_mem _ hp), hosts⟩
      | panic => exact here.elim
      | host change next => exact ⟨sound, listener_replaced (here host) listeners, hosts⟩
      | call c next =>
        have called : (⟨(store.perform env.freshId c).store, host, outer,
            .listener (next (store.perform env.freshId c).reply) :: below⟩ : Run σ L α).Sound ok :=
          ⟨sound, listener_replaced (here.2 _) listeners, hosts.perform here.1 env.freshId⟩
        exact called.flush _

theorem Sound.steps {env : Environment σ L} (henv : env.Sound ok) (n : Nat) {r : Run σ L α}
    (h : r.Sound ok) : (Run.steps env n r).Sound ok := by
  induction n generalizing r with
  | zero => exact h
  | succ n ih =>
    rw [Run.steps]
    split
    · exact h
    · exact ih (h.step fun d hd => henv _ _ (h.store.queue d (mem_queue_of_handed hd)))

/-- **A sound run never ends in a panic.** -/
theorem Sound.ending_ne_panicked {r : Run σ L α} (h : r.Sound ok) : r.ending ≠ .panicked := by
  obtain ⟨store, host, outer, stack⟩ := r
  intro panicked
  cases stack with
  | nil =>
    cases outer with
    | panic => exact h.outer
    | done a => cases panicked
    | host change next => cases panicked
    | call c next => cases panicked
  | cons top below => cases panicked

end Run

/-! ## Sound worlds -/

/-- **A world between calls, whose store hosts only listeners of a kind.** -/
structure World.Sound (w : World σ L) (ok : L → Prop) : Prop where
  between : w.store.draining = false
  hosts : w.store.Hosts ok

section

variable {ok : L → Prop} {env : Environment σ L} {w w' : World σ L} {p : Program σ L α}

theorem World.Sound.start (h : w.Sound ok) (hp : p.Sound ok) :
    (Run.start w.store w.host p).Sound ok :=
  ⟨hp, fun _ mem => absurd mem List.not_mem_nil, h.hosts⟩

theorem Run.Orderly.steps (env : Environment σ L) (n : Nat) {r : Run σ L α} (h : r.Orderly) :
    (Run.steps env n r).Orderly := by
  induction n generalizing r with
  | zero => exact h
  | succ n ih =>
    rw [Run.steps]
    split
    · exact h
    · exact ih h.step

/-- **A call that runs to its end leaves the flag clear.** -/
theorem Completes.between {a : α} (h : Completes env w p a w') (hw : w.store.draining = false) :
    w'.store.draining = false := by
  obtain ⟨n, h⟩ := h
  have orderly := (Run.orderly_start hw w.host p).steps env n
  rw [h] at orderly
  exact orderly.draining_eq_false rfl

/-- **A sound program leaves a sound world.** -/
theorem World.Sound.completes {a : α} (hw : w.Sound ok) (henv : env.Sound ok) (hp : p.Sound ok)
    (h : Completes env w p a w') : w'.Sound ok := by
  refine ⟨h.between hw.between, ?_⟩
  obtain ⟨n, h⟩ := h
  have sound := (hw.start hp).steps henv n
  rw [h] at sound
  exact sound.store

/-- However far a program is run from a world, it has not panicked. -/
def Unbroken (env : Environment σ L) (w : World σ L) (p : Program σ L α) : Prop :=
  ∀ n, (Run.steps env n (Run.start w.store w.host p)).ending ≠ .panicked

/-- **A sound program is never broken off** in a sound world. -/
theorem World.Sound.unbroken (hw : w.Sound ok) (henv : env.Sound ok) (hp : p.Sound ok) :
    Unbroken env w p :=
  fun n => ((hw.start hp).steps henv n).ending_ne_panicked

/-- **Where listeners respond quietly, every call runs to its end.** -/
theorem World.Sound.exists_call_completes (hw : w.Sound ok)
    (quiet : ∀ l outcome, ok l → (env.respond l outcome).Quiet) {c : Call L} (hc : c.Admits ok) :
    ∃ w', Completes env w (.perform c) (w.store.perform env.freshId c).reply w' := by
  by_cases flushes : (w.store.perform env.freshId c).flushes
  · have hosts := hw.hosts.perform hc env.freshId
    obtain ⟨n, h', heard⟩ := exists_heard (fun d hd => quiet d.listener d.outcome
      (hosts.queue d hd)) w.host
    exact ⟨_, n + 1, heard.completesIn_call hw.between flushes⟩
  · exact ⟨_, 1, completesIn_call hw.between (by simpa using flushes)⟩

end

end DocDispatch
