import DocDispatch.Proofs.Store.Children
import DocDispatch.Proofs.Store.Numbered
import DocDispatch.Proofs.Store.Order

/-!
# Proofs/Store/Convergence — what a subscription heard last is how the store reads now

The invariant is about what was *queued*: the last notice of every subscription, injected errors
left aside, has the outcome that its reference has in the store at this moment (`Current`).  A write
either queues a notice for a subscription, with the outcome right after it, or leaves the outcome of
its reference as it is.  On an empty queue everything queued has been sent, so there the invariant
is about what listeners heard.
-/

namespace DocDispatch

variable {σ L α : Type}

/-! ## The last delivery of a subscription -/

/-- The last delivery to a subscription among notices, injected errors left aside. -/
def lastHeard (notices : List (Notice L)) (id : Nat) : Option (Delivery L) :=
  (notices.filter fun n => n.subscription = id ∧ n.occasion ≠ .failed).getLast?.map Notice.delivery

/-- An injected error leaves what was heard last as it was. -/
theorem lastHeard_append_of_forall {earlier later : List (Notice L)} {id : Nat}
    (h : ∀ n ∈ later, n.subscription = id → n.occasion = .failed) :
    lastHeard (earlier ++ later) id = lastHeard earlier id := by
  have none : later.filter (fun n => n.subscription = id ∧ n.occasion ≠ .failed) = [] :=
    List.filter_eq_nil_iff.mpr fun n hn => by simpa using h n hn
  rw [lastHeard, List.filter_append, none, List.append_nil, lastHeard]

/-- **Of what is heard about one subscription at a time the last is the same**, so it is what was
heard last. -/
theorem lastHeard_append_of_mem {earlier later : List (Notice L)} {id : Nat} {n : Notice L}
    (hn : n ∈ later) (hid : n.subscription = id) (real : n.occasion ≠ .failed)
    (same : ∀ n' ∈ later, n'.subscription = id → n'.delivery = n.delivery) :
    lastHeard (earlier ++ later) id = some n.delivery := by
  have mem : n ∈ later.filter fun n => n.subscription = id ∧ n.occasion ≠ .failed :=
    List.mem_filter.mpr ⟨hn, by simp [hid, real]⟩
  obtain ⟨last, hlast⟩ := Option.ne_none_iff_exists'.mp
    (mt List.getLast?_eq_none_iff.mp (List.ne_nil_of_mem mem))
  obtain ⟨later', keep⟩ := List.mem_filter.mp (List.mem_of_getLast? hlast)
  have hid' : last.subscription = id := (of_decide_eq_true keep).1
  rw [lastHeard, List.filter_append, List.getLast?_append, hlast]
  exact congrArg some (same last later' hid')

/-! ## The invariant -/

/-- **Every subscription was last owed what its reference reads now.** -/
structure Current (s : Store L) (notices : List (Notice L)) : Prop where
  numbered : s.Numbered
  known : ∀ n ∈ notices, n.subscription < s.nextId
  document : ∀ sub ∈ s.documentSubs, lastHeard notices sub.id =
    some ⟨sub.listener, s.documentOutcome sub.reference.path⟩
  query : ∀ sub ∈ s.querySubs, lastHeard notices sub.id =
    some ⟨sub.listener, s.queryOutcome sub.reference⟩

namespace Current

variable {s : Store L} {notices : List (Notice L)}

/-- Nobody is told anything under an id that is still to be given. -/
theorem known_apply (h : Current s notices) (e : Effect L) :
    ∀ n ∈ notices ++ e.notices s, n.subscription < (e.apply s).nextId := by
  intro n hn
  rcases List.mem_append.mp hn with hn | hn
  · exact Nat.lt_of_lt_of_le (h.known n hn) (e.nextId_le_apply s)
  · exact Effect.notice_below h.numbered hn

/-- **What was heard last stays current**: after a write, for the subscriptions it concerns hear of
it and the others see no difference… -/
theorem write (h : Current s notices) (path : String) (data : Fields) :
    Current ((Effect.write path data).apply s)
      (notices ++ (Effect.write path data).notices s) where
  numbered := h.numbered.apply _
  known := h.known_apply _
  document sub hs := by
    by_cases hp : sub.reference.path = path
    · refine (lastHeard_append_of_mem (Store.mem_noticesOf.mpr (.inl ⟨sub, hs, hp, rfl⟩)) rfl
        nofun ?_).trans (by rw [hp])
      intro n hn hid
      rcases Store.mem_noticesOf.mp hn with ⟨sub', hs', _, rfl⟩ | ⟨sub', hs', _, rfl⟩
      · obtain rfl := h.numbered.document_eq hs' hs hid
        rfl
      · exact absurd hid.symm (h.numbered.document_ne_query hs hs')
    · rw [lastHeard_append_of_forall, h.document sub hs]
      · exact congrArg (fun o => some (Delivery.mk sub.listener o))
          (s.documentOutcome_write data hp).symm
      · intro n hn hid
        rcases Store.mem_noticesOf.mp hn with ⟨sub', hs', hp', rfl⟩ | ⟨sub', hs', _, rfl⟩
        · obtain rfl := h.numbered.document_eq hs' hs hid
          exact absurd hp' hp
        · exact absurd hid.symm (h.numbered.document_ne_query hs hs')
  query sub hs := by
    by_cases hp : sub.reference.path = Text.parentPath path
    · refine lastHeard_append_of_mem (Store.mem_noticesOf.mpr (.inr ⟨sub, hs, hp, rfl⟩)) rfl
        nofun ?_
      intro n hn hid
      rcases Store.mem_noticesOf.mp hn with ⟨sub', hs', _, rfl⟩ | ⟨sub', hs', _, rfl⟩
      · exact absurd hid (h.numbered.document_ne_query hs' hs)
      · obtain rfl := h.numbered.query_eq hs' hs hid
        rfl
    · rw [lastHeard_append_of_forall, h.query sub hs]
      · exact congrArg (fun o => some (Delivery.mk sub.listener o))
          (s.queryOutcome_write data hp).symm
      · intro n hn hid
        rcases Store.mem_noticesOf.mp hn with ⟨sub', hs', _, rfl⟩ | ⟨sub', hs', hp', rfl⟩
        · exact absurd hid (h.numbered.document_ne_query hs' hs)
        · obtain rfl := h.numbered.query_eq hs' hs hid
          exact absurd hp' hp

/-- …after an injected error, which is left aside… -/
theorem failAll (h : Current s notices) (e : StoreError) :
    Current ((Effect.failAll e).apply s) (notices ++ (Effect.failAll e).notices s) := by
  have injected : ∀ n ∈ (Effect.failAll e).notices s, n.occasion = .failed := by
    intro n hn
    rcases List.mem_append.mp hn with hn | hn <;> obtain ⟨sub, _, rfl⟩ := List.mem_map.mp hn <;> rfl
  have last (id : Nat) : lastHeard (notices ++ (Effect.failAll e).notices s) id =
      lastHeard notices id :=
    lastHeard_append_of_forall fun n hn _ => injected n hn
  exact ⟨h.numbered.apply _, h.known_apply _, fun sub hs => (last sub.id).trans (h.document sub hs),
    fun sub hs => (last sub.id).trans (h.query sub hs)⟩

/-- A notice under the next id is about no subscription there was. -/
theorem lastHeard_subscribed {id nextId : Nat} (hid : id < nextId) (d : Delivery L) :
    lastHeard (notices ++ [⟨nextId, .subscribed, d⟩]) id = lastHeard notices id :=
  lastHeard_append_of_forall fun n hn h => by
    obtain rfl := List.mem_singleton.mp hn
    exact absurd h (Nat.ne_of_gt hid)

/-- The first delivery of a subscription is what it heard last… -/
theorem lastHeard_new (nextId : Nat) (d : Delivery L) :
    lastHeard (notices ++ [⟨nextId, .subscribed, d⟩]) nextId = some d :=
  lastHeard_append_of_mem (List.mem_singleton.mpr rfl) rfl nofun fun n hn _ => by
    rw [List.mem_singleton.mp hn]

/-- …which is current for a document… -/
theorem subscribeDocument (h : Current s notices) (r : DocumentRef) (listener : L) :
    Current ((Effect.subscribeDocument r listener).apply s)
      (notices ++ (Effect.subscribeDocument r listener).notices s) where
  numbered := h.numbered.apply _
  known := h.known_apply _
  document sub hs := by
    rcases List.mem_append.mp hs with hs | hs
    · exact (lastHeard_subscribed (h.numbered.document_below hs) _).trans (h.document sub hs)
    · obtain rfl := List.mem_singleton.mp hs
      exact lastHeard_new _ _
  query sub hs :=
    (lastHeard_subscribed (h.numbered.query_below hs) _).trans (h.query sub hs)

/-- …and for a query… -/
theorem subscribeQuery (h : Current s notices) (q : QueryRef) (listener : L) :
    Current ((Effect.subscribeQuery q listener).apply s)
      (notices ++ (Effect.subscribeQuery q listener).notices s) := by
  have numbered := h.numbered.apply (.subscribeQuery q listener)
  have known := h.known_apply (.subscribeQuery q listener)
  simp only [Effect.apply, Effect.notices, Store.listenQuery] at numbered known ⊢
  cases found : s.runQuery q with
  | error e =>
    rw [List.append_nil]
    exact h
  | ok docs =>
    rw [found] at numbered known
    refine ⟨numbered, known, fun sub hs => ?_, fun sub hs => ?_⟩
    · exact (lastHeard_subscribed (h.numbered.document_below hs) _).trans (h.document sub hs)
    · rcases List.mem_append.mp hs with hs | hs
      · exact (lastHeard_subscribed (h.numbered.query_below hs) _).trans (h.query sub hs)
      · obtain rfl := List.mem_singleton.mp hs
        refine (lastHeard_new _ _).trans ?_
        change _ = some (Delivery.mk listener ((s.runQuery q).map .many))
        rw [found]
        rfl

/-- …and a removal takes no delivery back. -/
theorem unsubscribe (h : Current s notices) (id : Nat) :
    Current ((Effect.unsubscribe id).apply s)
      (notices ++ (Effect.unsubscribe id).notices s) := by
  rw [Effect.notices, List.append_nil]
  exact ⟨h.numbered.apply _, h.known,
    fun sub hs => h.document sub (List.mem_of_mem_filter hs),
    fun sub hs => h.query sub (List.mem_of_mem_filter hs)⟩

/-- **Whatever the effect, what was heard last is current.** -/
theorem apply (h : Current s notices) (e : Effect L) :
    Current (e.apply s) (notices ++ e.notices s) := by
  cases e with
  | nothing => simpa [Effect.apply, Effect.notices] using h
  | write path data => exact h.write path data
  | failAll e => exact h.failAll e
  | subscribeDocument r listener => exact h.subscribeDocument r listener
  | subscribeQuery q listener => exact h.subscribeQuery q listener
  | unsubscribe id => exact h.unsubscribe id

theorem kept : Audit.Kept (L := L) Current where
  start _ := ⟨⟨List.nodup_nil, nofun⟩, nofun, nofun, nofun⟩
  apply e h := h.apply e
  counts _ _ _ h := ⟨⟨h.numbered.nodup, h.numbered.below⟩, h.known, h.document, h.query⟩
  queue _ _ h := ⟨⟨h.numbered.nodup, h.numbered.below⟩, h.known, h.document, h.query⟩

end Current

namespace Audit

/-- **What was sent are the deliveries of the first notices.** -/
theorem Balanced.map_delivered {a : Audit σ L α} (h : a.Balanced) :
    a.delivered.map Notice.delivery = a.sent := by
  rw [delivered, List.map_take, ← h.balance, List.take_left]

/-- **With nothing left in the queue everything queued has been delivered.** -/
theorem Balanced.delivered_eq_queued {a : Audit σ L α} (h : a.Balanced)
    (hq : a.run.store.queue = []) : a.delivered = a.queued := by
  have length : a.sent.length = a.queued.length := by
    have := congrArg List.length h.balance
    simpa [hq] using this
  rw [delivered, length, List.take_length]

/-- **Subscriptions converge.**  In every reachable store with nothing left to send, whatever
listeners did on the way, each document subscription has last heard how its document reads now, and
each query subscription what its query finds now, be it documents or an error; errors that were
injected are left aside. -/
theorem Reachable.last_heard_is_current {env : Environment σ L} {a : Audit σ L α}
    (h : a.Reachable env) (hq : a.run.store.queue = []) :
    a.delivered.map Notice.delivery = a.sent ∧
    (∀ sub ∈ a.run.store.documentSubs, lastHeard a.delivered sub.id =
      some ⟨sub.listener, a.run.store.documentOutcome sub.reference.path⟩) ∧
    (∀ sub ∈ a.run.store.querySubs, lastHeard a.delivered sub.id =
      some ⟨sub.listener, a.run.store.queryOutcome sub.reference⟩) := by
  have current := h.kept Current.kept
  refine ⟨h.balanced.map_delivered, ?_, ?_⟩
  · rw [h.balanced.delivered_eq_queued hq]
    exact current.document
  · rw [h.balanced.delivered_eq_queued hq]
    exact current.query

/-- Listeners that write to the document they listen to where they hear that it is missing, or
only listen. -/
def reactive : Environment Unit Bool where
  respond
    | true, .ok (.one ⟨_, path, none⟩) => .call (.put path []) fun _ => .done ()
    | _, _ => .done ()
  freshId _ := ""

/-- A silent listener on a collection and, after it, a writing one on a document in it. -/
def watched : Audit Unit Bool (Except StoreError Nat) :=
  let users : Reference := .query ⟨[.collection "users"], []⟩
  let user : Reference := .document ⟨[.collection "users", .doc "a"]⟩
  let listening := (start .empty () (.perform (.listen users false))).after reactive 4
  (listening.next (.perform (.listen user true))).after reactive 9

/-- There both have last heard of the document that the second one wrote when it was called. -/
theorem last_heard_is_current_watched :
    watched.Reachable reactive ∧ watched.run.store.queue = [] ∧
    lastHeard watched.delivered 0 = some ⟨false, .ok (.many [.of "users/a" []])⟩ ∧
    lastHeard watched.delivered 1 = some ⟨true, .ok (.one (.of "users/a" []))⟩ := by
  have reached : watched.Reachable reactive := .after 9 (.next (.after 4 (.start _ _ _)) rfl _)
  have law := reached.last_heard_is_current rfl
  exact ⟨reached, rfl, law.2.2 ⟨0, ⟨[.collection "users"], []⟩, false⟩ (.head _),
    law.2.1 ⟨1, ⟨[.collection "users", .doc "a"]⟩, true⟩ (.head _)⟩

end Audit

end DocDispatch
