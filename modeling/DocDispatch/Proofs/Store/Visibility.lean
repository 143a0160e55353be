import DocDispatch.Proofs.Assoc
import DocDispatch.Proofs.Dispatch.Operating
import DocDispatch.Proofs.Reference.Location
import DocDispatch.Proofs.Store.Convergence
import DocDispatch.Proofs.Store.Matching

/-!
# Proofs/Store/Visibility — where a document that was set is seen

    set users · "b"      read back as "b"    listed in users        told to who listens to users
    set users · "b/c"    read back as "c"    not listed in users    not told

Whoever sets a document can read it back under the same reference.  Whether it can also be seen from
the collection that the reference names, by a query or by a listener, is a question about its path
(`Proofs/Reference/Location`): the collection shows it exactly if there is no slash in its name, and
that is also when it keeps its name for an id.
-/

namespace DocDispatch

variable {σ L α : Type}

/-! ## Lists of documents -/

namespace Store

/-- **Without filters there is nothing to fail in.** -/
theorem select_nil : ∀ m : Assoc Fields,
    select [] m = .ok (m.map fun p => Snapshot.of p.1 p.2)
  | [] => rfl
  | (path, data) :: m => by
      rw [select, select_nil m]
      rfl

variable {s : Store L} {q : QueryRef} {path : String} {data : Fields}

theorem exists_runQuery (s : Store L) (collection : q.targetsCollection)
    (unfiltered : q.filters = []) : ∃ docs, s.runQuery q = .ok docs := by
  rw [runQuery, if_pos collection, unfiltered, select_nil]
  exact ⟨_, rfl⟩

/-- **A query without filters finds a document exactly if it is directly in the collection.** -/
theorem mem_runQuery_iff {docs : List Snapshot} (found : s.runQuery q = .ok docs)
    (unfiltered : q.filters = []) (there : s.documents.get? path = some data) :
    .of path data ∈ docs ↔ isChild q.path path := by
  rw [runQuery_eq_ok found, List.mem_map]
  constructor
  · rintro ⟨p, mem, same⟩
    obtain rfl : p.1 = path := congrArg Snapshot.path same
    exact isChild_of_mem_matching mem
  · intro child
    refine ⟨(path, data), List.mem_filter.mpr ⟨Assoc.mem_of_get? there, ?_⟩, rfl⟩
    rw [unfiltered, child]
    rfl

end Store

/-! ## A document that is set -/

/-- Whether a delivery is of a list with a document in it. -/
def Delivery.Shows (d : Delivery L) (doc : Snapshot) : Prop :=
  ∃ docs, d.outcome = .ok (.many docs) ∧ doc ∈ docs

namespace Store

variable {freshId : Nat → String} {s : Store L} {r : DocumentRef} {data : Fields}
  {options : SetOptions}

theorem effect_set (unharmed : s.pendingFailure = none) (r : DocumentRef) (data : Fields)
    (options : SetOptions) :
    s.effect freshId (.set (.document r) data options) =
      .write r.path (s.dataToSet r.path data options) := by
  change (if s.pendingFailure.isSome then _ else _) = _
  rw [unharmed]
  rfl

/-- A document is set only where no failure is pending. -/
theorem pendingFailure_of_set {response : Response Snapshot}
    (h : (s.perform freshId (.set (.document r) data options)).reply = .ok response) :
    s.pendingFailure = none := by
  cases pending : s.pendingFailure with
  | none => rfl
  | some e =>
    simp only [perform, attempt_of_some pending] at h
    cases h

/-- **A listener of the collection is told of a document exactly if there is no slash in its
name.** -/
theorem told_iff (numbered : s.Numbered) (located : r.Located) (data : Fields)
    {sub : Subscription QueryRef L} (mem : sub ∈ s.querySubs)
    (around : sub.reference = r.siblings) :
    (∃ n ∈ (Effect.write r.path data).notices s, n.subscription = sub.id ∧
      n.delivery.listener = sub.listener ∧ n.delivery.Shows (.of r.path data)) ↔
      '/' ∉ r.id.toList := by
  have path : sub.reference.path = r.parentPath := congrArg QueryRef.path around
  rw [← located.parentPath_eq_iff, ← path]
  constructor
  · rintro ⟨n, told, own, -, -⟩
    rcases mem_noticesOf.mp told with ⟨sub', mem', -, rfl⟩ | ⟨sub', mem', around', rfl⟩
    · exact absurd own (numbered.document_ne_query mem' mem)
    · exact numbered.query_eq mem' mem own ▸ around'
  · intro whole
    refine ⟨_, mem_noticesOf.mpr (.inr ⟨sub, mem, whole, rfl⟩), rfl, rfl, ?_⟩
    obtain ⟨docs, found⟩ := exists_runQuery
      ({ s with documents := s.documents.insert r.path data } : Store L)
      located.targetsCollection_siblings rfl
    refine ⟨docs, ?_, (mem_runQuery_iff found rfl (get?_write s r.path data)).mpr ?_⟩
    · rw [around, queryOutcome, found]
      rfl
    · exact located.isChild_iff.mpr (located.parentPath_eq_iff.mp (path.symm.trans whole))

end Store

namespace Audit

variable {env : Environment σ L} {a : Audit σ L α}

/-- A store that no failure is pending in answers what its listeners would hear. -/
theorem exists_answered_get (idle : a.run.store.draining = false)
    (unharmed : a.run.store.pendingFailure = none) (r : Reference) :
    ∃ b, a.Answered env (.get r) (a.run.store.now r) b := by
  have answer : Operation.get.perform env.freshId a.run.store r = _ :=
    Operation.perform_get unharmed r
  have reply : (a.run.store.perform env.freshId (.get r)).reply = a.run.store.now r :=
    congrArg Prod.snd answer
  rw [← reply]
  exact ⟨_, 1, after_call idle (Operation.flushes_get r), rfl⟩

/-- Setting a document stores it and tells all listeners that are owed it, if they only listen. -/
theorem exists_answered_set (quiet : ∀ l outcome, (env.respond l outcome).Quiet)
    (idle : a.run.store.draining = false) (unharmed : a.run.store.pendingFailure = none)
    {r : DocumentRef} {data data' : Fields} {options : SetOptions}
    (stored : a.run.store.dataToSet r.path data options = data') :
    ∃ b, a.Answered env (.set (.document r) data options) (.ok (.one (.of r.path data'))) b ∧
      b.run.store.draining = false ∧ b.run.store.pendingFailure = none ∧
      b.run.store.documents.get? r.path = some data' ∧
      b.queued = a.queued ++ (Effect.write r.path data').notices a.run.store ∧
      b.sent = a.sent ++ a.run.store.queue ++
        ((Effect.write r.path data').notices a.run.store).map Notice.delivery := by
  subst stored
  obtain ⟨n, host, heard⟩ := exists_heard (fun d _ => quiet d.listener d.outcome) a.run.host
  have performed : a.run.store.perform env.freshId (.set (.document r) data options) = _ :=
    Store.perform_set unharmed r data options
  have ended := Heard.after_call (c := .set (.document r) data options) idle (by rw [performed])
    heard
  have queue := a.run.store.perform_queue env.freshId (.set (.document r) data options)
  rw [Store.effect_set unharmed] at ended queue
  rw [queue, performed] at ended
  exact ⟨_, ⟨n + 1, ended, rfl⟩, rfl, rfl, a.run.store.get?_write r.path _, rfl,
    (List.append_assoc ..).symm⟩

end Audit

namespace Descriptor

/-- **A document that was set is seen in its collection exactly if there is no slash in its name.**
Take any store that listeners only listen to, after any run, and a reference to a document that a
descriptor was read for; its path without the last step is that of a query.  Once setting the
document has succeeded,

* it is answered with under the same reference, by the name that the reference gives it exactly if
  there is no slash in that name;
* the collection around it, read without filters, lists it exactly if there is no slash in it;
* and of those who listened to that collection each has been sent a list with the document in it
  exactly if there is no slash in it. -/
theorem document_seen_iff {env : Environment σ L}
    (quiet : ∀ l outcome, (env.respond l outcome).Quiet)
    {v : Json.Value} {d : Descriptor} (read : ofJson v = .ok d) {r : DocumentRef}
    (compiled : d.query.compile = .ok (.document r)) {a : Audit σ L α} (reachable : a.Reachable env)
    (ended : a.run.isOver) {data : Fields} {options : SetOptions} {response : Response Snapshot}
    (set : (a.run.store.perform env.freshId (.set (.document r) data options)).reply =
      .ok response) :
    Reference.of r.segments.dropLast [] = .query r.siblings ∧
    ∃ doc b, response = .one doc ∧
      a.Answered env (.set (.document r) data options) (.ok (.one doc)) b ∧
      (∃ b', b.Answered env (.get (.document r)) (.ok (.one doc)) b') ∧
      (doc.id = r.id ↔ '/' ∉ r.id.toList) ∧
      (∃ docs, (∃ b', b.Answered env (.get (.query r.siblings)) (.ok (.many docs)) b') ∧
        (doc ∈ docs ↔ '/' ∉ r.id.toList)) ∧
      ∃ told, b.queued = a.queued ++ told ∧
        b.sent = a.sent ++ a.run.store.queue ++ told.map Notice.delivery ∧
        ∀ sub ∈ a.run.store.querySubs, sub.reference = r.siblings →
          ((∃ n ∈ told, n.subscription = sub.id ∧ n.delivery.listener = sub.listener ∧
            n.delivery.Shows doc) ↔ '/' ∉ r.id.toList) := by
  have located := located_of_read read compiled
  have idle := reachable.balanced.orderly.draining_eq_false (Run.stack_eq_nil_of_isOver ended)
  have numbered := (reachable.kept Current.kept).numbered
  have unharmed := Store.pendingFailure_of_set set
  obtain ⟨data', stored⟩ : ∃ data', a.run.store.dataToSet r.path data options = data' := ⟨_, rfl⟩
  rw [Store.perform_set unharmed, stored] at set
  obtain ⟨b, answered, idle', unharmed', there, queued, sent⟩ :=
    Audit.exists_answered_set quiet idle unharmed stored
  have back : b.run.store.now (.document r) = .ok (.one (.of r.path data')) := by
    rw [Store.now, Store.documentOutcome, Store.snapshot, there]
    rfl
  obtain ⟨docs, found⟩ := b.run.store.exists_runQuery located.targetsCollection_siblings rfl
  have list : b.run.store.now (.query r.siblings) = .ok (.many docs) := by
    rw [Store.now, Store.queryOutcome, found]
    rfl
  exact ⟨located.of_siblings, _, b, (Except.ok.inj set).symm, answered,
    back ▸ Audit.exists_answered_get idle' unharmed' (.document r),
    located.lastSegment_eq_iff,
    ⟨docs, list ▸ Audit.exists_answered_get idle' unharmed' (.query r.siblings),
      (Store.mem_runQuery_iff found rfl there).trans located.isChild_iff⟩,
    _, queued, sent, fun sub mem around => Store.told_iff numbered located _ mem around⟩

/-! ## With and without a slash -/

/-- Listeners that only listen. -/
def silent : Environment Unit Unit := ⟨fun _ _ => .done (), fun _ => ""⟩

/-- A descriptor that sets a user, as a value… -/
def setUserJson (name : String) : Json.Value :=
  .object [("types", .array [.string "ASK", .string "OK", .string "NO"]),
    ("query", .object [("method", .string "set"), ("collection", .string "users"),
      ("doc", .string name), ("data", .object [])])]

/-- …and read. -/
def setUser (name : String) : Descriptor where
  types := ⟨"ASK", "OK", "NO"⟩
  schema := none
  payload := none
  metadata := none
  bailout := none
  query := ⟨"users", some name, [], [], .set [] .default⟩

def user (name : String) : DocumentRef := ⟨[.collection "users", .doc name]⟩

/-- A store whose users are listened to. -/
def usersHeard : Audit Unit Unit (Except StoreError Nat) :=
  (Audit.start .empty () (.perform (.listen (.query (user "").siblings) ()))).after silent 4

theorem usersHeard_reachable : usersHeard.Reachable silent := .after 4 (.start _ _ _)

/-- A user whose name has no slash is seen everywhere. -/
theorem document_seen_iff_user :
    ∃ doc b,
      usersHeard.Answered silent (.set (.document (user "a")) [] .default) (.ok (.one doc)) b ∧
      doc.id = "a" ∧
      (∃ docs, (∃ b', b.Answered silent (.get (.query (user "a").siblings)) (.ok (.many docs)) b') ∧
        doc ∈ docs) ∧
      ∃ told : List (Notice Unit), b.sent = usersHeard.sent ++ told.map Notice.delivery ∧
        ∃ n ∈ told, n.subscription = 0 ∧ n.delivery.Shows doc := by
  have quiet : ∀ l outcome, (silent.respond l outcome).Quiet := fun _ _ => trivial
  have read : ofJson (setUserJson "a") = .ok (setUser "a") := by decide
  have compiled : (setUser "a").query.compile = .ok (.document (user "a")) := rfl
  have stored : (usersHeard.run.store.perform silent.freshId
      (.set (.document (user "a")) [] .default)).reply = .ok (.one (.of "users/a" [])) := rfl
  have whole : '/' ∉ (user "a").id.toList := by decide
  obtain ⟨-, doc, b, -, set, -, id, ⟨docs, listed, mem⟩, told, -, sent, heard⟩ :=
    document_seen_iff quiet read compiled usersHeard_reachable rfl stored
  obtain ⟨n, there, own, -, shows⟩ :=
    (heard ⟨0, (user "a").siblings, ()⟩ (.head _) rfl).mpr whole
  exact ⟨doc, b, set, id.mpr whole, ⟨docs, listed, mem.mpr whole⟩, told, sent, n, there, own, shows⟩

/-- One with a slash in its name is read back under another, and is not seen from the users. -/
theorem document_with_slash_hidden :
    ofJson (setUserJson "b/c") = .ok (setUser "b/c") ∧
    (setUser "b/c").query.compile = .ok (.document (user "b/c")) ∧
    usersHeard.Reachable silent ∧
    usersHeard.run.store.querySubs = [⟨0, (user "b/c").siblings, ()⟩] ∧
    ∃ b, usersHeard.Answered silent (.set (.document (user "b/c")) [] .default)
        (.ok (.one ⟨"c", "users/b/c", some []⟩)) b ∧
      (user "b/c").id = "b/c" ∧
      (∃ b', b.Answered silent (.get (.query (user "b/c").siblings)) (.ok (.many [])) b') ∧
      b.queued = usersHeard.queued ∧ b.sent = usersHeard.sent :=
  ⟨by decide, rfl, usersHeard_reachable, rfl, _, ⟨2, rfl, rfl⟩, rfl, ⟨_, 1, rfl, rfl⟩, rfl, rfl⟩

end Descriptor

end DocDispatch
