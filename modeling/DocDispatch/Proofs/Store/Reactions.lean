import DocDispatch.Proofs.Store.Soundness
import DocDispatch.Store.Scripted

/-!
# Proofs/Store/Reactions — what scripted listeners have left, and what it costs to use it up

    reactions   r₀ r₁ r₂ r₃ r₄
    heard       ───────▸              two deliveries noted
    left              r₂ r₃ r₄        r₂ is due

A listener's reactions are counted by its notes, which only ever grow: so what listeners have left
never does, and a listener that notes a delivery has the reaction due to it less
(`Journal.left_note`).  The weight of a reaction covers the call that it makes and, if that
registers a listener, all of that listener's reactions; what is left to everyone together, the calls
under way included, is therefore never added to.
-/

namespace DocDispatch

variable {L α β : Type}

/-! ## What is left of listeners -/

namespace Step

theorem weights_append (xs ys : List Step) : weights (xs ++ ys) = weights xs + weights ys := by
  induction xs with
  | nil => simp [weights]
  | cons x xs ih => rw [List.cons_append, weights, weights, ih, Nat.add_assoc]

theorem weights_drop_le (xs : List Step) (n : Nat) : weights (xs.drop n) ≤ weights xs := by
  have whole := weights_append (xs.take n) (xs.drop n)
  rw [List.take_append_drop] at whole
  omega

end Step

namespace Journal

/-- The reactions that a listener has not come to yet. -/
def left (j : Journal) (l : Scripted) : List Step := l.reactions.drop (j.heard l.number)

/-- What the reactions come to that some listeners have left. -/
def remaining (j : Journal) : List Scripted → Nat
  | [] => 0
  | l :: known => Step.weights (j.left l) + j.remaining known

/-- The weight of the reaction that a listener comes to next. -/
def due (j : Journal) (l : Scripted) : Nat := (l.reactions[j.heard l.number]?).elim 0 Step.weight

variable {j j' : Journal} {known : List Scripted} {l : Scripted}

theorem heard_note (j : Journal) (e : Event) (number : Nat) :
    (j.note e).heard number = j.heard number + if e.isDeliveryTo number then 1 else 0 := by
  rw [heard, note, List.countP_append, List.countP_singleton]
  rfl

theorem heard_le_note (j : Journal) (e : Event) (number : Nat) :
    j.heard number ≤ (j.note e).heard number := by
  rw [heard_note]
  omega

theorem heard_note_own (j : Journal) (number : Nat) (o : Outcome) :
    (j.note (.delivery number o)).heard number = j.heard number + 1 := by
  simp [heard_note, Event.isDeliveryTo]

theorem left_le (h : ∀ number, j.heard number ≤ j'.heard number) (l : Scripted) :
    Step.weights (j'.left l) ≤ Step.weights (j.left l) := by
  obtain ⟨k, more⟩ := Nat.exists_eq_add_of_le (h l.number)
  rw [left, more, ← List.drop_drop]
  exact Step.weights_drop_le _ k

/-- **The more listeners have heard, the less they have left.** -/
theorem remaining_le (h : ∀ number, j.heard number ≤ j'.heard number) (known : List Scripted) :
    j'.remaining known ≤ j.remaining known := by
  induction known with
  | nil => exact Nat.le_refl 0
  | cons l known ih =>
    rw [remaining, remaining]
    exact Nat.add_le_add (left_le h l) ih

/-- A listener that notes a delivery comes to its next reaction. -/
theorem left_note (j : Journal) (l : Scripted) (o : Outcome) :
    Step.weights ((j.note (.delivery l.number o)).left l) + j.due l = Step.weights (j.left l) := by
  rw [left, left, heard_note_own, due]
  cases reaction : l.reactions[j.heard l.number]? with
  | none =>
    have beyond := List.getElem?_eq_none_iff.mp reaction
    rw [List.drop_eq_nil_of_le beyond, List.drop_eq_nil_of_le (Nat.le_succ_of_le beyond)]
    rfl
  | some step =>
    obtain ⟨inside, here⟩ := List.getElem?_eq_some_iff.mp reaction
    rw [List.drop_eq_getElem_cons inside, here, Step.weights, Nat.add_comm]
    rfl

/-- …which passes from what is left to what the listener is at. -/
theorem remaining_note (mem : l ∈ known) (o : Outcome) :
    (j.note (.delivery l.number o)).remaining known + j.due l ≤ j.remaining known := by
  have others := remaining_le (j.heard_le_note (.delivery l.number o))
  induction known with
  | nil => cases mem
  | cons l' known ih =>
    rw [remaining, remaining]
    rcases List.mem_cons.mp mem with same | mem
    · subst same
      have own := j.left_note l o
      have rest := others known
      omega
    · have own := left_le (j.heard_le_note (.delivery l.number o)) l'
      have rest := ih mem
      omega

/-- What is left is at most what there was. -/
theorem remaining_le_weights (j : Journal) (known : List Scripted) :
    j.remaining known ≤ Step.weights (known.flatMap (·.reactions)) := by
  induction known with
  | nil => exact Nat.le_refl 0
  | cons l known ih =>
    rw [remaining, List.flatMap_cons, Step.weights_append]
    exact Nat.add_le_add (Step.weights_drop_le ..) ih

end Journal

/-! ## What programs cost -/

namespace Call

/-- A call and the reactions of the listener that it brings. -/
def weight : Call Scripted → Nat
  | listen _ l => Step.weights l.reactions + 1
  | _ => 1

/-- The listener that a call brings. -/
def brought : Call L → List L
  | listen _ l => [l]
  | _ => []

theorem remaining_brought (j : Journal) (c : Call Scripted) (known : List Scripted) :
    j.remaining (c.brought ++ known) + 1 ≤ c.weight + j.remaining known := by
  cases c with
  | listen r l =>
    have left := Step.weights_drop_le l.reactions (j.heard l.number)
    rw [brought, List.singleton_append, Journal.remaining, Journal.left, weight]
    omega
  | _ => exact Nat.le_of_eq (Nat.add_comm _ 1)

theorem admits_brought (c : Call L) (known : List L) : c.Admits (· ∈ c.brought ++ known) := by
  cases c with
  | listen r l => exact List.mem_cons_self
  | _ => trivial

end Call

namespace Program

/-- **A program makes at most so many moves, and calls of at most so much weight**, whatever it is
answered and whatever has been heard meanwhile. -/
inductive Costs {α : Type} : Nat → Nat → Program Journal Scripted α → Prop
  | done {m w : Nat} (a : α) : Costs m w (.done a)
  | panic {m w : Nat} : Costs m w .panic
  | host {m w : Nat} {change : Journal → Journal} {next : Journal → Program Journal Scripted α}
      (hears : ∀ j number, j.heard number ≤ (change j).heard number)
      (rest : ∀ j, Costs m w (next (change j))) : Costs (m + 1) w (.host change next)
  | call {m w w' : Nat} {c : Call Scripted} {next : c.Reply → Program Journal Scripted α}
      (weight : c.weight + w ≤ w') (rest : ∀ reply, Costs m w (next reply)) :
      Costs (m + 1) w' (.call c next)

theorem Costs.mono {m m' w w' : Nat} {p : Program Journal Scripted α} (h : p.Costs m w)
    (hm : m ≤ m') (hw : w ≤ w') : p.Costs m' w' := by
  induction h generalizing m' w' with
  | done a => exact .done a
  | panic => exact .panic
  | host hears _ ih =>
    obtain ⟨k, rfl⟩ := Nat.exists_eq_add_of_le' hm
    exact .host hears fun j => ih j (Nat.le_add_left _ k) hw
  | call weight _ ih =>
    obtain ⟨k, rfl⟩ := Nat.exists_eq_add_of_le' hm
    exact .call (Nat.le_trans weight hw) fun reply => ih reply (Nat.le_add_left _ k) (Nat.le_refl _)

theorem Costs.bind {m m' w : Nat} {p : Program Journal Scripted α}
    {f : α → Program Journal Scripted β} (hp : p.Costs m w) (hf : ∀ a, (f a).Costs m' 0) :
    (p.bind f).Costs (m' + m) w := by
  induction hp with
  | done a => exact (hf a).mono (Nat.le_add_right ..) (Nat.zero_le _)
  | panic => exact .panic
  | host hears _ ih => exact .host hears ih
  | call weight _ ih => exact .call weight ih

theorem costs_note (e : Event) : (modify (·.note e) : Program Journal Scripted Unit).Costs 1 0 :=
  .host (fun j => j.heard_le_note e) fun _ => .done ()

end Program

/-- **A step costs what it weighs.** -/
theorem Step.program_costs (step : Step) : step.program.Costs 3 step.weight := by
  have same (j : Journal) (number : Nat) : j.heard number ≤ j.heard number := Nat.le_refl _
  cases step with
  | nothing | panic | refused => constructor
  | listen r reactions =>
    refine .host same fun j => .call (w := 0) (Nat.le_refl _) fun reply => ?_
    cases reply with
    | ok id => exact .host same fun _ => .done _
    | error e => exact .done _
  | remove number =>
    refine .host same fun j => ?_
    split
    · exact .host same fun _ => .call (w := 0) (Nat.le_refl _) fun _ => .done _
    · exact .done _
  | _ => exact .call (w := 0) (Nat.le_refl _) fun _ => .done _

namespace Scripted

/-- Scripted listeners, beside any source of ids. -/
def environment (freshId : Nat → String) : Environment Journal Scripted := ⟨respond, freshId⟩

/-- What a listener does with a delivery that it has noted. -/
def react (l : Scripted) (j : Journal) : Program Journal Scripted Unit :=
  match l.reactions[j.heard l.number - 1]? with
  | none | some .nothing => .done ()
  | some step => step.program.bind fun answer => .modify (·.note (.reaction l.number answer))

theorem respond_eq (l : Scripted) (o : Outcome) :
    l.respond o = .host (·.note (.delivery l.number o)) l.react := rfl

/-- **That costs what was due before it noted it.** -/
theorem react_costs (l : Scripted) (j : Journal) (o : Outcome) :
    (l.react (j.note (.delivery l.number o))).Costs 4 (j.due l) := by
  rw [react, Journal.heard_note_own, Nat.add_sub_cancel, Journal.due]
  split
  · exact .done ()
  · exact .done ()
  · rename_i step _ reaction
    rw [reaction]
    exact step.program_costs.bind fun answer => Program.costs_note _

end Scripted

end DocDispatch
