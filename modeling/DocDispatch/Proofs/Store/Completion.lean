import DocDispatch.Store.Machine

/-!
# Proofs/Store/Completion — programs that run to their end

    w ──p──▸ w'      within n steps of the machine, p returns a and nothing is left on the stack

A program completes where the machine brings it to a result with an empty stack, so everything its
calls owed has been sent.  Completion is compositional: `p.bind f` completes exactly when `p` does
and then what `f` makes of its result (`completes_bind`), whatever listeners do in between.  So a
program can be taken apart into the programs it is built from, and no later module has to look at
steps of the outermost program again.
-/

namespace DocDispatch

variable {σ L α β : Type}

/-- **A store, and the host state beside it.** -/
@[ext]
structure World (σ L : Type) where
  store : Store L
  host : σ

namespace Program

@[simp] theorem bind_eq (p : Program σ L α) (f : α → Program σ L β) : (p >>= f) = p.bind f := rfl

@[simp] theorem pure_eq (a : α) : (pure a : Program σ L α) = .done a := rfl

end Program

namespace Run

/-! ## Some steps -/

theorem step_of_isOver (env : Environment σ L) {r : Run σ L α} (h : r.isOver) : r.step env = r := by
  obtain ⟨store, host, outer, stack⟩ := r
  cases stack with
  | cons top below => cases h
  | nil => cases outer with
    | done a => rfl
    | panic => rfl
    | _ => cases h

/-- A run that is over stays as it is. -/
theorem steps_of_isOver {env : Environment σ L} {r : Run σ L α} (h : r.isOver) (n : Nat) :
    steps env n r = r := by
  cases n with
  | zero => rfl
  | succ n => rw [steps, if_pos h]

theorem steps_succ {env : Environment σ L} {r : Run σ L α} (h : r.isOver = false) (n : Nat) :
    steps env (n + 1) r = steps env n (r.step env) := by
  rw [steps, if_neg (by simp [h])]

/-- Steps add up. -/
theorem steps_add (env : Environment σ L) (m n : Nat) (r : Run σ L α) :
    steps env (m + n) r = steps env n (steps env m r) := by
  induction m generalizing r with
  | zero => rw [Nat.zero_add, steps]
  | succ m ih =>
    by_cases h : r.isOver
    · rw [steps_of_isOver h, steps_of_isOver h, steps_of_isOver h]
    · have working : r.isOver = false := by simpa using h
      rw [Nat.succ_add, steps_succ working, steps_succ working, ih]

/-! ## What follows the outermost program -/

/-- The run of a longer program, of which this is the beginning. -/
def bind (r : Run σ L α) (f : α → Program σ L β) : Run σ L β :=
  ⟨r.store, r.host, r.outer.bind f, r.stack⟩

/-- Sending is the store's own matter, whatever comes after. -/
theorem bind_flush (r : Run σ L α) (wanted : Bool) (f : α → Program σ L β) :
    (r.flush wanted).bind f = (r.bind f).flush wanted := by
  unfold flush bind
  dsimp only
  split <;> rfl

theorem isOver_bind {r : Run σ L α} (h : r.isOver = false) (f : α → Program σ L β) :
    (r.bind f).isOver = false := by
  obtain ⟨store, host, outer, stack⟩ := r
  cases stack with
  | nil =>
    cases outer with
    | done a => cases h
    | panic => cases h
    | host change next => rfl
    | call c next => rfl
  | cons top below => rfl

/-- **What follows a program has no part in its steps.** -/
theorem step_bind (env : Environment σ L) {r : Run σ L α} (h : r.isOver = false)
    (f : α → Program σ L β) : (r.bind f).step env = (r.step env).bind f := by
  obtain ⟨store, host, outer, stack⟩ := r
  cases stack with
  | nil =>
    cases outer with
    | done a => cases h
    | panic => cases h
    | host change next => rfl
    | call c next =>
      exact (bind_flush ⟨(store.perform env.freshId c).store, host, next _, []⟩ _ f).symm
  | cons top below =>
    cases top with
    | drain =>
      cases hq : store.queue with
      | nil => simp [step, bind, hq]
      | cons d queue => simp [step, bind, hq]
    | listener p =>
      cases p with
      | done a => rfl
      | panic => rfl
      | host change next => rfl
      | call c next =>
        exact (bind_flush ⟨(store.perform env.freshId c).store, host, outer,
          .listener (next _) :: below⟩ _ f).symm

end Run

/-! ## Completing -/

/-- **Within `n` steps the program is over, and has returned.** -/
def CompletesIn (env : Environment σ L) (n : Nat) (w : World σ L) (p : Program σ L α) (a : α)
    (w' : World σ L) : Prop :=
  Run.steps env n (Run.start w.store w.host p) = Run.start w'.store w'.host (.done a)

/-- **A program runs to its end**, from one world to another, and returns a result. -/
def Completes (env : Environment σ L) (w : World σ L) (p : Program σ L α) (a : α)
    (w' : World σ L) : Prop :=
  ∃ n, CompletesIn env n w p a w'

section

variable {env : Environment σ L} {w w' w'' : World σ L}

/-- **Steps to spare do no harm.** -/
theorem CompletesIn.mono {m n : Nat} {p : Program σ L α} {a : α}
    (h : CompletesIn env m w p a w') (hmn : m ≤ n) : CompletesIn env n w p a w' := by
  obtain ⟨k, rfl⟩ := Nat.exists_eq_add_of_le hmn
  unfold CompletesIn at h ⊢
  rw [Run.steps_add, h]
  exact Run.steps_of_isOver rfl k

/-- **A program has one result and leaves one world.** -/
theorem Completes.unique {p : Program σ L α} {a b : α} (h : Completes env w p a w')
    (h' : Completes env w p b w'') : a = b ∧ w' = w'' := by
  obtain ⟨m, h⟩ := h
  obtain ⟨n, h'⟩ := h'
  have ended := (h.mono (Nat.le_max_left m n)).symm.trans (h'.mono (Nat.le_max_right m n))
  rw [Run.start, Run.start, Run.mk.injEq] at ended
  obtain ⟨store, host, result, -⟩ := ended
  exact ⟨Program.done.inj result, World.ext store host⟩

/-- Nothing is left to do in no step. -/
theorem completes_done {a b : α} : Completes env w (.done a) b w' ↔ b = a ∧ w' = w := by
  constructor
  · rintro ⟨n, h⟩
    have ended : (Run.start w.store w.host (.done a : Program σ L α)).isOver := rfl
    rw [CompletesIn, Run.steps_of_isOver ended, Run.start, Run.start, Run.mk.injEq] at h
    obtain ⟨store, host, result, -⟩ := h
    cases result
    exact ⟨rfl, World.ext store.symm host.symm⟩
  · rintro ⟨rfl, rfl⟩
    exact ⟨0, rfl⟩

/-- **What panics does not complete.** -/
theorem not_completes_panic {a : α} : ¬ Completes env w (.panic : Program σ L α) a w' := by
  rintro ⟨n, h⟩
  have ended : (Run.start w.store w.host (.panic : Program σ L α)).isOver := rfl
  rw [CompletesIn, Run.steps_of_isOver ended] at h
  have outer : (.panic : Program σ L α) = .done a := congrArg Run.outer h
  cases outer

/-- A run that comes to its result with others behind it has come to its own before. -/
theorem Run.exists_steps_of_bind {f : α → Program σ L β} {b : β} :
    ∀ {n : Nat} {r : Run σ L α},
      Run.steps env n (r.bind f) = Run.start w'.store w'.host (.done b) →
      ∃ m a v, m ≤ n ∧ Run.steps env m r = Run.start v.store v.host (.done a) ∧
        CompletesIn env n v (f a) b w'
  | n, r, h => by
    by_cases ended : r.isOver
    · obtain ⟨store, host, outer, stack⟩ := r
      cases stack with
      | cons top below => cases ended
      | nil =>
        cases outer with
        | done a => exact ⟨0, a, ⟨store, host⟩, Nat.zero_le n, rfl, h⟩
        | panic =>
          have completes : Completes env ⟨store, host⟩ .panic b w' := ⟨n, h⟩
          exact absurd completes not_completes_panic
        | host change next => cases ended
        | call c next => cases ended
    · have working : r.isOver = false := by simpa using ended
      cases n with
      | zero =>
        have ended' : (r.bind f).isOver := congrArg Run.isOver h
        rw [Run.isOver_bind working] at ended'
        cases ended'
      | succ n =>
        rw [Run.steps_succ (Run.isOver_bind working f), Run.step_bind env working] at h
        obtain ⟨m, a, v, hm, first, rest⟩ := Run.exists_steps_of_bind h
        exact ⟨m + 1, a, v, Nat.succ_le_succ hm, (Run.steps_succ working m).trans first,
          rest.mono (Nat.le_succ n)⟩

/-- A run that comes to its result goes on, as the beginning of a longer one, with what follows. -/
theorem Run.exists_steps_bind (f : α → Program σ L β) {a : α} :
    ∀ {n : Nat} {r : Run σ L α}, Run.steps env n r = Run.start w'.store w'.host (.done a) →
      ∃ m, m ≤ n ∧ Run.steps env m (r.bind f) = Run.start w'.store w'.host (f a)
  | n, r, h => by
    by_cases ended : r.isOver
    · rw [Run.steps_of_isOver ended] at h
      exact ⟨0, Nat.zero_le n, by rw [h]; rfl⟩
    · have working : r.isOver = false := by simpa using ended
      cases n with
      | zero =>
        rw [Run.steps] at h
        exact absurd (congrArg Run.isOver h) ended
      | succ n =>
        rw [Run.steps_succ working] at h
        obtain ⟨m, hm, rest⟩ := Run.exists_steps_bind f h
        refine ⟨m + 1, Nat.succ_le_succ hm, ?_⟩
        rw [Run.steps_succ (Run.isOver_bind working f), Run.step_bind env working, rest]

/-- **Programs complete one after the other**, in as many steps together. -/
theorem CompletesIn.bind {m n : Nat} {p : Program σ L α} {a : α} {f : α → Program σ L β} {b : β}
    (hp : CompletesIn env m w p a w') (hf : CompletesIn env n w' (f a) b w'') :
    CompletesIn env (m + n) w (p.bind f) b w'' := by
  obtain ⟨k, hk, first⟩ := Run.exists_steps_bind f hp
  exact (show CompletesIn env (k + n) w (p.bind f) b w'' from
    (Run.steps_add env k n _).trans ((congrArg _ first).trans hf)).mono (by omega)

/-- **Completion is compositional.** -/
theorem completes_bind {p : Program σ L α} {f : α → Program σ L β} {b : β} :
    Completes env w (p.bind f) b w'' ↔
      ∃ a w', Completes env w p a w' ∧ Completes env w' (f a) b w'' := by
  constructor
  · rintro ⟨n, h⟩
    obtain ⟨m, a, v, -, first, rest⟩ :=
      Run.exists_steps_of_bind (r := Run.start w.store w.host p) h
    exact ⟨a, v, ⟨m, first⟩, n, rest⟩
  · rintro ⟨a, w', ⟨m, hp⟩, n, hf⟩
    exact ⟨m + n, hp.bind hf⟩

end

end DocDispatch
