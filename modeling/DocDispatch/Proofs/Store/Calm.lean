import DocDispatch.Proofs.Store.Completion
import DocDispatch.Proofs.Store.Order

/-!
# Proofs/Store/Calm — runs in which no listener panics

    [drain] ──d──▸ [respond d, drain] ──▸ [p, drain] ──▸ ⋯ ──▸ [done, drain] ──▸ [drain]
               b ┆                                            ┆ c

A listener at work knows of the drain below it only by the flag, which is set; so what it has done
since it was called is a run of its own program, begun where it was called (`Listening.atWork`).
In a calm run the listener can only return, and where none is at work every one that was called has:
its delivery has been *heard out*.
-/

namespace DocDispatch

variable {σ L α β : Type}

namespace Run

/-- Whether the next step is a listener's panic. -/
def panics (r : Run σ L α) : Bool :=
  match r.stack with
  | .listener .panic :: _ => true
  | _ => false

def world (r : Run σ L α) : World σ L := ⟨r.store, r.host⟩

/-- One step more, at the end. -/
theorem steps_succ_eq_step {env : Environment σ L} {r r' : Run σ L α} {n : Nat}
    (h : steps env n r = r') (working : r'.isOver = false) :
    steps env (n + 1) r = r'.step env := by
  rw [steps_add, h, steps_succ working, steps]

/-- Where no listener is at work, a step calls one or none. -/
theorem Orderly.step_of_idle (env : Environment σ L) {r : Run σ L α} (h : r.Orderly)
    (none : ∀ p, .listener p ∉ r.stack) :
    (r.handed = [] ∧ ∀ p, .listener p ∉ (r.step env).stack) ∨
      ∃ d, r.handed = [d] ∧
        (r.step env).stack = [.listener (env.respond d.listener d.outcome), .drain] := by
  obtain ⟨store, host, outer, stack⟩ := r
  have quiet (p : Program σ L Unit) : .listener p ∉ ([] : List (Frame σ L)) := List.not_mem_nil
  obtain ⟨stacked, draining⟩ := h
  cases stacked with
  | quiet =>
    refine Or.inl ⟨rfl, ?_⟩
    cases outer with
    | call c next =>
      rw [step_outer_call _ ⟨.quiet, draining⟩ rfl rfl]
      split
      · exact fun p mem => nomatch List.mem_singleton.mp mem
      · exact quiet
    | _ => exact quiet
  | between =>
    cases hq : store.queue with
    | nil =>
      refine Or.inl ⟨by rw [handed, hq], ?_⟩
      simp only [Run.step, hq]
      exact quiet
    | cons d queue => exact Or.inr ⟨d, by rw [handed, hq], by simp only [Run.step, hq]⟩
  | inside p => exact absurd List.mem_cons_self (none p)

section

variable {r : Run σ L α} {p : Program σ L Unit} {below : List (Frame σ L)}

theorem handed_of_listener (hs : r.stack = .listener p :: below) : r.handed = [] := by
  rw [handed, hs]

theorem eq_done_of_listener (hs : r.stack = .listener p :: below) (whole : r.panics = false)
    (ended : (start r.store r.host p).isOver) : p = .done () := by
  cases p with
  | done a => rfl
  | panic => rw [panics, hs] at whole; cases whole
  | host change next => cases ended
  | call c next => cases ended

end

/-- A listener that returns leaves the drain that called it. -/
theorem stack_step_of_done (env : Environment σ L) {r : Run σ L α} {below : List (Frame σ L)}
    (hs : r.stack = .listener (.done ()) :: below) : (r.step env).stack = below := by
  rw [step, hs]

/-- **A listener at work takes a step of its own program**, until that is over. -/
theorem Orderly.step_listener (env : Environment σ L) {r : Run σ L α} (h : r.Orderly)
    {p : Program σ L Unit} (hs : r.stack = [.listener p, .drain])
    (working : (start r.store r.host p).isOver = false) :
    ∃ p', (r.step env).stack = [.listener p', .drain] ∧
      (start r.store r.host p).step env = start (r.step env).store (r.step env).host p' := by
  obtain ⟨store, host, outer, stack⟩ := r
  obtain rfl : stack = _ := hs
  cases p with
  | done a => cases working
  | panic => cases working
  | host change next => exact ⟨_, rfl, rfl⟩
  | call c next =>
    have flag : (store.perform env.freshId c).store.draining = true :=
      (Store.perform_draining ..).trans h.draining
    refine ⟨next (store.perform env.freshId c).reply, ?_, ?_⟩
    · rw [step_listener_call h rfl]
    · rw [step_listener_call h rfl]
      change flush _ _ = _
      rw [flush, if_neg (by simp [start, flag])]
      rfl

end Run

namespace Audit

/-- **The audits of programs run one after another in which no listener panics.** -/
inductive Calm (env : Environment σ L) : ∀ {α : Type}, Audit σ L α → Prop
  | start {α : Type} (documents : OrderedMap Fields) (host : σ) (p : Program σ L α) :
      Calm env (.start documents host p)
  | step {α : Type} {a : Audit σ L α} (h : Calm env a) (calm : a.run.panics = false) :
      Calm env (a.step env)
  | next {α β : Type} {a : Audit σ L α} (h : Calm env a) (ended : a.run.isOver)
      (p : Program σ L β) : Calm env (a.next p)

/-- Whether none of the next steps is a listener's panic. -/
def staysCalm (env : Environment σ L) : Nat → Audit σ L α → Bool
  | 0, _ => true
  | n + 1, a => !a.run.panics && staysCalm env n (a.step env)

variable {env : Environment σ L} {a : Audit σ L α}

namespace Calm

/-- Calm lasts as long as nothing panics… -/
theorem after : ∀ (n : Nat) {a : Audit σ L α}, a.Calm env → a.staysCalm env n →
    (a.after env n).Calm env
  | 0, _, h, _ => h
  | n + 1, _, h, stays => by
      rw [staysCalm, Bool.and_eq_true, Bool.not_eq_true'] at stays
      exact after n (h.step stays.1) stays.2

theorem reachable (h : a.Calm env) : a.Reachable env := by
  induction h with
  | start documents host p => exact .start documents host p
  | step _ _ ih => exact ih.step
  | next _ ended p ih => exact ih.next ended p

end Calm

/-- **The audits that an audit leads to.** -/
inductive Leads (env : Environment σ L) (a : Audit σ L α) : ∀ {β : Type}, Audit σ L β → Prop
  | refl : Leads env a a
  | step {β : Type} {b : Audit σ L β} (h : Leads env a b) : Leads env a (b.step env)
  | next {β γ : Type} {b : Audit σ L β} (h : Leads env a b) (ended : b.run.isOver)
      (p : Program σ L γ) : Leads env a (b.next p)

/-- Audits lead on to what they lead on to. -/
theorem Leads.trans {γ : Type} {b : Audit σ L β} {c : Audit σ L γ} (ab : a.Leads env b)
    (bc : b.Leads env c) : a.Leads env c := by
  induction bc with
  | refl => exact ab
  | step _ ih => exact ih.step
  | next _ ended p ih => exact ih.next ended p

/-! ## Listeners that have returned -/

/-- **A delivery that has been heard out**, after some earlier ones: on the way to the audit its
listener was called, and returned after its program had been run to its end. -/
inductive HeardOut (env : Environment σ L) (a : Audit σ L α) (earlier : List (Delivery L))
    (d : Delivery L) : Prop
  | intro {β : Type} {b c : Audit σ L β} (calm : b.Calm env) (sent : b.sent = earlier)
      (called : b.run.handed = [d]) (works : (b.step env).Leads env c)
      (completes : Completes env (b.step env).run.world (env.respond d.listener d.outcome) ()
        c.run.world)
      (since : c.Leads env a)

/-- All of some deliveries have been heard out, one after another. -/
def AllHeardOut (env : Environment σ L) (a : Audit σ L α) (ds : List (Delivery L)) : Prop :=
  ∀ earlier d later, ds = earlier ++ d :: later → a.HeardOut env earlier d

/-- **What has been heard out stays so.** -/
theorem AllHeardOut.leads {ds : List (Delivery L)} (h : a.AllHeardOut env ds) {b : Audit σ L β}
    (leads : a.Leads env b) : b.AllHeardOut env ds := by
  intro earlier d later split
  obtain ⟨calm, sent, called, works, completes, since⟩ := h earlier d later split
  exact ⟨calm, sent, called, works, completes, since.trans leads⟩

/-- …and one delivery more may be heard out after it. -/
theorem AllHeardOut.concat {ds : List (Delivery L)} (h : a.AllHeardOut env ds) {d : Delivery L}
    (last : a.HeardOut env ds d) : a.AllHeardOut env (ds ++ [d]) := by
  intro earlier d' later split
  rcases List.eq_nil_or_concat later with rfl | ⟨later, d'', rfl⟩
  · obtain ⟨rfl, same⟩ := List.append_inj' split rfl
    obtain rfl := List.singleton_inj.mp same
    exact last
  · rw [List.concat_eq_append, ← List.cons_append, ← List.append_assoc] at split
    exact h earlier d' later (List.append_inj' split rfl).1

/-! ## The listener at work -/

/-- **Which listeners have returned**: all that were called, but for the one at work. -/
inductive Listening (env : Environment σ L) (a : Audit σ L α) : Prop
  | idle (none : ∀ p, .listener p ∉ a.run.stack) (heard : a.AllHeardOut env a.sent)
  /-- What the listener has done since it was called at `b` is a run of its own program. -/
  | atWork {b : Audit σ L α} {d : Delivery L} {p : Program σ L Unit} {n : Nat} (calm : b.Calm env)
      (called : b.run.handed = [d]) (works : (b.step env).Leads env a)
      (stack : a.run.stack = [.listener p, .drain])
      (steps : Run.steps env n (.start (b.step env).run.store (b.step env).run.host
        (env.respond d.listener d.outcome)) = .start a.run.store a.run.host p)
      (sent : a.sent = b.sent ++ [d]) (heard : a.AllHeardOut env b.sent)

namespace Listening

/-- While nobody listens, a step calls the next listener or sends nothing. -/
theorem step_of_idle (h : a.Calm env) (none : ∀ p, .listener p ∉ a.run.stack)
    (heard : a.AllHeardOut env a.sent) : (a.step env).Listening env := by
  have heard : (a.step env).AllHeardOut env a.sent := heard.leads (.step .refl)
  rcases h.reachable.balanced.orderly.step_of_idle env none with ⟨handed, none'⟩ |
    ⟨d, handed, stack⟩
  · refine .idle none' ?_
    have sent : (a.step env).sent = a.sent ++ a.run.handed := rfl
    rw [sent, handed, List.append_nil]
    exact heard
  · exact .atWork (n := 0) h handed .refl stack rfl (handed ▸ rfl) heard

/-- **At any step at most one listener is at it**, and all before it have been heard out. -/
theorem step (h : a.Listening env) (calm : a.Calm env) (whole : a.run.panics = false) :
    (a.step env).Listening env := by
  cases h with
  | idle none heard => exact step_of_idle calm none heard
  | @atWork b d p n bcalm called works stack steps sent heard =>
    have heard' : (a.step env).AllHeardOut env b.sent := heard.leads (.step .refl)
    have sent' : (a.step env).sent = b.sent ++ [d] := by
      change a.sent ++ a.run.handed = _
      rw [sent, Run.handed_of_listener stack, List.append_nil]
    by_cases ended : (Run.start a.run.store a.run.host p).isOver
    · obtain rfl := Run.eq_done_of_listener stack whole ended
      refine .idle (fun p => ?_) ?_
      · have returned : (a.step env).run.stack = [.drain] := Run.stack_step_of_done env stack
        rw [returned]
        exact fun mem => nomatch List.mem_singleton.mp mem
      · rw [sent']
        exact heard'.concat (.intro bcalm rfl called works ⟨n, steps⟩ (.step .refl))
    · -- The drain below has no part in the step, which the run begun at `b` takes as well.
      have working := eq_false_of_ne_true ended
      obtain ⟨p', stack', step⟩ :=
        calm.reachable.balanced.orderly.step_listener env stack working
      exact .atWork bcalm called works.step stack'
        ((Run.steps_succ_eq_step steps working).trans step) sent' heard'

end Listening

/-- **Where none panics, every listener that is called returns.** -/
theorem Calm.listening (h : a.Calm env) : a.Listening env := by
  induction h with
  | start =>
    refine .idle (fun _ => List.not_mem_nil) fun earlier d later split => ?_
    exact absurd split.symm (List.append_ne_nil_of_right_ne_nil _ (List.cons_ne_nil _ _))
  | step h whole ih => exact ih.step h whole
  | @next α β a h ended p ih =>
    cases ih with
    | idle none heard =>
      exact .idle (fun _ => List.not_mem_nil) (heard.leads (.next .refl ended p))
    | atWork _ _ _ stack =>
      rw [Run.stack_eq_nil_of_isOver ended] at stack
      cases stack

/-- **While no listener is at work, everything that was sent has been heard out.** -/
theorem Calm.heardOut (h : a.Calm env) (idle : ∀ p, .listener p ∉ a.run.stack) :
    a.AllHeardOut env a.sent := by
  cases h.listening with
  | idle _ heard => exact heard
  | atWork _ _ _ stack => exact absurd (stack ▸ List.mem_cons_self) (idle _)

end Audit

end DocDispatch
