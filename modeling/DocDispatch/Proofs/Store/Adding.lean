import DocDispatch.Proofs.Store.Visibility

/-!
# Proofs/Store/Adding — a document that is added, and what is seen of it

    users/ · a          get users/   ──▸  a  d             get users  ──▸  x
    users/ · c   (added)             ──▸  a  c  d                     ──▸  x
    users/ · d
    users · x

The path of an added document is its collection's with the id behind it, so the document stands in
the block of its collection and in no other's, whatever other paths that block's begins with or
begins.  Within the block documents come by id, and a map in path order takes a new one up at one
place (`Ascending.exists_insert_eq`); so the collection is listed with one document more, and every
other as before.
-/

namespace DocDispatch

variable {σ L : Type}

/-- A list of documents is another one with a document put in, and is in strictly ascending order of
ids. -/
structure Snapshot.PutIn (doc : Snapshot) (docs docs' : List Snapshot) : Prop where
  put : ∃ before after, docs = before ++ after ∧ docs' = before ++ doc :: after
  ascending : docs'.Pairwise fun d d' => d.id < d'.id

namespace Store

variable {s : Store L} {q : QueryRef} {path : String} {data : Fields}

/-! ## Listing a collection -/

/-- A query without filters finds every document directly in its collection. -/
theorem runQuery_of_unfiltered (s : Store L) (collection : q.targetsCollection)
    (unfiltered : q.filters = []) :
    s.runQuery q = .ok ((s.documents.members.filter fun p => isChild q.path p.1).map fun p =>
      Snapshot.of p.1 p.2) := by
  rw [runQuery, if_pos collection, unfiltered, select_nil, children_eq_filter s.documents.ascending]

/-- What a query finds depends on the documents alone. -/
theorem queryOutcome_of_documents {s s' : Store L} (same : s.documents = s'.documents)
    (q : QueryRef) : s.queryOutcome q = s'.queryOutcome q := by
  rw [queryOutcome, queryOutcome, runQuery, runQuery, same]

/-- Documents directly in a collection come in ascending order of their ids. -/
theorem pairwise_id_children {m : Assoc Fields} (h : m.Ascending) (collection : String) :
    ((m.filter fun p => isChild collection p.1).map fun p => Snapshot.of p.1 p.2).Pairwise
      fun d d' => d.id < d'.id := by
  rw [List.pairwise_map]
  refine (List.Pairwise.filter _ h).imp_of_mem fun mem mem' lt => ?_
  exact id_lt_of_isChild (List.mem_filter.mp mem).2 (List.mem_filter.mp mem').2 lt

/-- **A new document directly in a collection is put in where its id belongs.** -/
theorem exists_putIn (collection : q.targetsCollection) (unfiltered : q.filters = [])
    (child : isChild q.path path) (new : s.documents.get? path = none) (data : Fields) :
    ∃ docs docs', s.queryOutcome q = .ok (.many docs) ∧
      (s.write path data).queryOutcome q = .ok (.many docs') ∧
      (Snapshot.of path data).PutIn docs docs' := by
  have found (t : Store L) := congrArg (Except.map Response.many)
    (t.runQuery_of_unfiltered collection unfiltered)
  refine ⟨_, _, found s, found (s.write path data), ?put,
    pairwise_id_children (OrderedMap.ascending _) _⟩
  obtain ⟨before, after, parts, put⟩ := s.documents.ascending.exists_insert_eq data new
  change ∃ before after, _ = before ++ after ∧
    ((s.documents.members.insert path data).filter _).map _ = _
  rw [put, parts]
  simp only [List.filter_append, List.filter_cons, child, if_true, List.map_append, List.map_cons]
  exact ⟨_, _, rfl, rfl⟩

/-- A document under a new path is one more. -/
theorem size_write (new : s.documents.get? path = none) (data : Fields) :
    (s.write path data).documents.size = s.documents.size + 1 := by
  obtain ⟨before, after, parts, put⟩ := s.documents.ascending.exists_insert_eq data new
  change (s.documents.members.insert path data).length = s.documents.members.length + 1
  rw [put, parts, List.length_append, List.length_append, List.length_cons, Nat.add_assoc]

/-! ## The call -/

variable {freshId : Nat → String}

/-- Under a path that is free, a document is added there… -/
theorem perform_add_of_free (unharmed : s.pendingFailure = none) (collection : q.targetsCollection)
    (unfiltered : q.filters = [])
    (free : s.documents.get? (below q.path ++ freshId (s.generated + 1)) = none) (data : Fields) :
    s.perform freshId (.add (.query q) data) =
      ⟨(s.write (below q.path ++ freshId (s.generated + 1)) data).withCounts none
          (s.operations + 1) (s.generated + 1),
        .ok (.many [.of (below q.path ++ freshId (s.generated + 1)) data]), true⟩ := by
  have addable : q.targetsCollection ∧ q.filters = [] := ⟨collection, unfiltered⟩
  have absent : ¬ s.charged.documents.contains (below q.path ++ freshId (s.generated + 1)) :=
    Option.not_isSome_iff_eq_none.mpr free
  have next : s.charged.generated = s.generated := rfl
  rw [← snapshot_write]
  simp only [perform, attempt_of_none unharmed, addDocument, if_pos addable, next, if_neg absent]
  rfl

/-- …and under one that is taken, none is. -/
theorem perform_add_of_taken (unharmed : s.pendingFailure = none) (collection : q.targetsCollection)
    (unfiltered : q.filters = [])
    (taken : s.documents.get? (below q.path ++ freshId (s.generated + 1)) ≠ none) (data : Fields) :
    s.perform freshId (.add (.query q) data) =
      ⟨s.withCounts none (s.operations + 1) (s.generated + 1),
        .error (.alreadyExists (below q.path ++ freshId (s.generated + 1))), false⟩ := by
  have addable : q.targetsCollection ∧ q.filters = [] := ⟨collection, unfiltered⟩
  have there : s.charged.documents.contains (below q.path ++ freshId (s.generated + 1)) :=
    Option.isSome_iff_ne_none.mpr taken
  have next : s.charged.generated = s.generated := rfl
  simp only [perform, attempt_of_none unharmed, addDocument, if_pos addable, next, if_pos there]
  rfl

end Store

/-! ## Calls from outside -/

/-- What a call from outside is answered with. -/
def World.Answers (env : Environment σ L) (w : World σ L) (c : Call L) (reply : c.Reply) : Prop :=
  ∃ w', Completes env w (.perform c) reply w'

variable {env : Environment σ L} {w : World σ L}

/-- A call among listeners that only listen is answered, and what they hear changes no document. -/
theorem exists_completes_call (quiet : ∀ l outcome, (env.respond l outcome).Quiet)
    (idle : w.store.draining = false) (c : Call L) :
    ∃ w', Completes env w (.perform c) (w.store.perform env.freshId c).reply w' ∧
      w'.store.documents = (w.store.perform env.freshId c).store.documents ∧
      w'.store.pendingFailure = (w.store.perform env.freshId c).store.pendingFailure ∧
      w'.store.draining = false := by
  cases flushes : (w.store.perform env.freshId c).flushes with
  | false =>
    refine ⟨_, ⟨1, completesIn_call idle flushes⟩, rfl, rfl, ?_⟩
    rw [Store.perform_draining, idle]
  | true =>
    obtain ⟨n, host, heard⟩ := exists_heard (fun d _ => quiet d.listener d.outcome) w.host
    exact ⟨_, ⟨n + 1, heard.completesIn_call idle flushes⟩, rfl, rfl, rfl⟩

/-- Where no failure is pending, a query is answered with what it finds. -/
theorem World.answers_get (idle : w.store.draining = false)
    (unharmed : w.store.pendingFailure = none) (q : QueryRef) :
    w.Answers env (.get (.query q)) (w.store.queryOutcome q) := by
  have answer : Operation.get.perform env.freshId w.store (.query q) = _ :=
    Operation.perform_get unharmed (.query q)
  have reply : (w.store.perform env.freshId (.get (.query q))).reply = w.store.queryOutcome q :=
    congrArg Prod.snd answer
  rw [← reply]
  exact ⟨_, 1, completesIn_call idle (Operation.flushes_get (.query q))⟩

/-- **Adding puts one document into its collection.**  Take any store whose listeners only listen,
any collection, whatever it is called, and an id without a slash.  Adding is answered, and with
success exactly if no failure is pending and nothing stands under the id's path.  If it succeeds,

* it is answered with one document, which has that id and those data, under that path;
* the collection is listed as before, with this document put in where its id belongs;
* there is one document more;
* and every query of another collection is answered as before.

If the path is taken, that is the error it is answered with, and no document is changed. -/
theorem add_puts_in (quiet : ∀ l outcome, (env.respond l outcome).Quiet)
    (idle : w.store.draining = false) {q : QueryRef} (collection : q.targetsCollection)
    (unfiltered : q.filters = []) (data : Fields) {id path : String}
    (fresh : env.freshId (w.store.generated + 1) = id) (plain : '/' ∉ id.toList)
    (spelled : path = q.path ++ "/" ++ id) :
    ∃ reply w', Completes env w (.perform (.add (.query q) data)) reply w' ∧
      ((∃ response, reply = .ok response) ↔
        w.store.pendingFailure = none ∧ w.store.documents.get? path = none) ∧
      (∀ response, reply = .ok response →
        ∃ doc docs docs', response = .many [doc] ∧ doc = ⟨id, path, some data⟩ ∧
          w.Answers env (.get (.query q)) (.ok (.many docs)) ∧
          w'.Answers env (.get (.query q)) (.ok (.many docs')) ∧
          doc.PutIn docs docs' ∧
          w'.store.documents.size = w.store.documents.size + 1 ∧
          ∀ q' : QueryRef, q'.path ≠ q.path → ∃ outcome,
            w.Answers env (.get (.query q')) outcome ∧
            w'.Answers env (.get (.query q')) outcome) ∧
      (w.store.pendingFailure = none → w.store.documents.get? path ≠ none →
        reply = .error (.alreadyExists path) ∧ w'.store.documents = w.store.documents) := by
  obtain ⟨w', completes, documents, pending', idle'⟩ :=
    exists_completes_call quiet idle (.add (.query q) data)
  refine ⟨_, w', completes, ?_⟩
  subst fresh
  obtain rfl : path = Store.below q.path ++ env.freshId (w.store.generated + 1) := spelled
  cases pending : w.store.pendingFailure with
  | some e =>
    have refused : (w.store.perform env.freshId (.add (.query q) data)).reply = .error e := by
      simp only [Store.perform, Store.attempt_of_some pending]
    rw [refused]
    simp
  | none =>
    by_cases free :
        w.store.documents.get? (Store.below q.path ++ env.freshId (w.store.generated + 1)) = none
    · rw [Store.perform_add_of_free pending collection unfiltered free] at documents pending' ⊢
      have child : Store.isChild q.path
          (Store.below q.path ++ env.freshId (w.store.generated + 1)) :=
        Store.isChild_iff.mpr ⟨_, plain, rfl⟩
      have unharmed' : w'.store.pendingFailure = none := pending'
      have now (q' : QueryRef) : w'.store.queryOutcome q' = _ :=
        Store.queryOutcome_of_documents documents q'
      obtain ⟨docs, docs', before, after, putIn⟩ :=
        Store.exists_putIn collection unfiltered child free data
      refine ⟨by simp [free], ?_, fun _ taken => absurd free taken⟩
      rintro response ⟨⟩
      refine ⟨_, docs, docs', rfl, ?_, before ▸ World.answers_get idle pending q, ?_, putIn, ?_, ?_⟩
      · exact congrArg (Snapshot.mk · _ _) (Text.lastSegment_child q.path plain)
      · rw [← after]
        exact now q ▸ World.answers_get idle' unharmed' q
      · rw [documents]
        exact Store.size_write free data
      · intro q' other
        refine ⟨_, World.answers_get idle pending q', ?_⟩
        have elsewhere : q'.path ≠ Text.parentPath
            (Store.below q.path ++ env.freshId (w.store.generated + 1)) := by
          rwa [Store.parentPath_of_isChild child]
        rw [← Store.queryOutcome_write w.store data elsewhere]
        exact now q' ▸ World.answers_get idle' unharmed' q'
    · rw [Store.perform_add_of_taken pending collection unfiltered free] at documents ⊢
      refine ⟨by simp [free], ?_, fun _ _ => ⟨rfl, documents⟩⟩
      rintro response ⟨⟩

/-- A collection without a name, in the users… -/
def unnamed : QueryRef := ⟨[.collection "users", .collection ""], []⟩

/-- …with two documents, beside a user. -/
def withUnnamed : World Unit Unit :=
  ⟨.ofDocuments (.ofList [("users//a", []), ("users//d", []), ("users/x", [])]), ()⟩

/-- The next document of theirs is `c`. -/
def nextIsC : Environment Unit Unit := ⟨fun _ _ => .done (), fun _ => "c"⟩

/-- The unnamed collection's third document comes between its two, and the users do not see it. -/
theorem add_puts_in_unnamed :
    ∃ w', Completes nextIsC withUnnamed (.perform (.add (.query unnamed) []))
        (.ok (.many [⟨"c", "users//c", some []⟩])) w' ∧
      (∃ docs, w'.Answers nextIsC (.get (.query unnamed)) (.ok (.many docs)) ∧
        Snapshot.PutIn ⟨"c", "users//c", some []⟩ [.of "users//a" [], .of "users//d" []] docs) ∧
      w'.Answers nextIsC (.get (.query ⟨[.collection "users"], []⟩))
        (.ok (.many [.of "users/x" []])) := by
  obtain ⟨reply, w', completes, succeeds, added, -⟩ :=
    add_puts_in (fun _ _ => trivial : ∀ l outcome, (nextIsC.respond l outcome).Quiet)
      (rfl : withUnnamed.store.draining = false) (rfl : unnamed.targetsCollection) rfl []
      (rfl : nextIsC.freshId 1 = "c") (by decide) (rfl : "users//c" = unnamed.path ++ "/" ++ "c")
  obtain ⟨response, rfl⟩ := succeeds.mpr ⟨rfl, by decide⟩
  obtain ⟨doc, before, docs, rfl, rfl, ⟨_, listed⟩, listed', putIn, -, others⟩ :=
    added response rfl
  have inUnnamed : withUnnamed.store.queryOutcome unnamed =
      .ok (.many [.of "users//a" [], .of "users//d" []]) := by decide
  have inUsers : withUnnamed.store.queryOutcome ⟨[.collection "users"], []⟩ =
      .ok (.many [.of "users/x" []]) := by decide
  have asked (q : QueryRef) :
      withUnnamed.Answers nextIsC (.get (.query q)) (withUnnamed.store.queryOutcome q) :=
    World.answers_get rfl rfl q
  obtain ⟨_, before'⟩ := asked unnamed
  obtain ⟨_, outcome'⟩ := asked ⟨[.collection "users"], []⟩
  obtain ⟨outcome, ⟨_, first⟩, later⟩ := others ⟨[.collection "users"], []⟩ (by decide)
  obtain ⟨same, -⟩ := listed.unique (inUnnamed ▸ before')
  obtain ⟨rfl, -⟩ := first.unique (inUsers ▸ outcome')
  cases same
  exact ⟨w', completes, ⟨docs, listed', putIn⟩, later⟩

end DocDispatch
