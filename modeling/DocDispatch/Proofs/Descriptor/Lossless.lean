import DocDispatch.Proofs.Reference.Tag

/-!
# Proofs/Descriptor/Lossless — nothing of a query is lost when it is compiled

    users, none · posts, "p" · tags, none     the steps
    C users       C posts D "p"   C tags      their segments, one after another
         └─────────┴───────────────┘          a step begins wherever a collection stands

A query need not have been read: one that was built may leave out documents in the middle of its
path, and may have empty names.  Its steps can be told from its segments all the same, since each of
them begins with its collection and goes on with a document or not at all (`ofSegments_flatMap`).
So a reference tells its query's path and filters apart from any other's, although two of them may
well spell the same text.
-/

namespace DocDispatch

/-! ## Steps from segments -/

namespace PathStep

/-- The steps that segments are made of; a document without a collection before it is of none. -/
def ofSegments : List Segment → List PathStep
  | .collection c :: .doc d :: rest => ⟨c, some d⟩ :: ofSegments rest
  | .collection c :: rest => ⟨c, none⟩ :: ofSegments rest
  | .doc _ :: rest => ofSegments rest
  | [] => []

/-- A step without a document ends where the next one begins. -/
theorem ofSegments_collection (c : String) (steps : List PathStep) :
    ofSegments (.collection c :: steps.flatMap segments) =
      ⟨c, none⟩ :: ofSegments (steps.flatMap segments) := by
  cases steps with
  | nil => rfl
  | cons next steps =>
    rw [List.flatMap_cons, segments, List.cons_append, ofSegments]
    intro d rest same
    cases same

/-- **The steps of a path are told by its segments.** -/
theorem ofSegments_flatMap (steps : List PathStep) :
    ofSegments (steps.flatMap segments) = steps := by
  induction steps with
  | nil => rfl
  | cons s steps ih =>
    obtain ⟨c, _ | d⟩ := s
    · exact (ofSegments_collection c steps).trans (congrArg _ ih)
    · exact congrArg _ ih

/-- **Segments tell the steps they come from.** -/
theorem flatMap_segments_inj {steps steps' : List PathStep} :
    steps.flatMap segments = steps'.flatMap segments ↔ steps = steps' :=
  (Function.LeftInverse.injective ofSegments_flatMap).eq_iff

theorem segments_eq (s : PathStep) : s.segments =
    s.doc.elim [.collection s.collection] fun d => [.collection s.collection, .doc d] := by
  obtain ⟨c, _ | d⟩ := s <;> rfl

end PathStep

/-! ## Compiling -/

namespace Query

/-- …and the steps of a path tell its collection, its document and its subcollections. -/
theorem path_inj {q q' : Query} :
    q.path = q'.path ↔
      q.collection = q'.collection ∧ q.doc = q'.doc ∧ q.subcollections = q'.subcollections := by
  simp only [path, List.cons.injEq, PathStep.mk.injEq, and_assoc]

/-- Compiling fails where the filters do not parse, with the same error. -/
theorem compile_eq_error_iff {q : Query} {e : Filter.ParseError} :
    q.compile = .error e ↔ Filter.parseAll q.filters = .error e := by
  rw [compile]
  cases Filter.parseAll q.filters <;> simp [Except.map]

/-- A query compiles to the truthful reference with its segments and filters, and to no other. -/
theorem compile_eq_ok_iff_truthful {q : Query} {r : Reference} :
    q.compile = .ok r ↔ r.Truthful ∧ r.segments = q.path.flatMap PathStep.segments ∧
      List.Forall₂ (fun s f => Filter.parse s = .ok f) q.filters r.filters := by
  rw [compile_eq_ok_iff]
  constructor
  · rintro ⟨fs, parsed, rfl⟩
    refine ⟨Reference.truthful_of _ _, Reference.segments_of _ _, ?_⟩
    rwa [Reference.filters_of]
  · rintro ⟨truthful, segments, parsed⟩
    refine ⟨r.filters, parsed, truthful.unique (Reference.truthful_of _ _) ?_ ?_⟩
    · rw [segments, Reference.segments_of]
    · rw [Reference.filters_of]

/-- Filters that parse are the same exactly if their expressions parse to the same. -/
theorem filters_eq_iff {es es' : List String} {fs fs' : List Filter}
    (parsed : List.Forall₂ (fun s f => Filter.parse s = .ok f) es fs)
    (parsed' : List.Forall₂ (fun s f => Filter.parse s = .ok f) es' fs') :
    fs = fs' ↔ es.map Filter.parse = es'.map Filter.parse := by
  have parses {es : List String} {fs : List Filter}
      (parsed : List.Forall₂ (fun s f => Filter.parse s = .ok f) es fs) :
      es.map Filter.parse = fs.map .ok := by
    rw [← List.forall₂_eq_eq_eq, List.forall₂_map_left_iff, List.forall₂_map_right_iff]
    exact parsed
  rw [parses parsed, parses parsed', List.map_inj_right fun _ _ => Except.ok.inj]

/-- **Compiling a query is exact and loses nothing.**  For every query, however it was made:

* it fails exactly if some filter does not parse, with the error of the first that does not;
* else it gives the one truthful reference whose segments are those of the steps, in order, a
  collection each and the document it names, and whose filters are those parsed, in order;
* two references are the same exactly if the queries agree in every step and in the filters as they
  parse;
* and the method has no part in it. -/
theorem compile_exact :
    (∀ (q : Query) (e : Filter.ParseError), q.compile = .error e ↔
      ∃ before s after, q.filters = before ++ s :: after ∧
        (∀ t ∈ before, ∃ f, Filter.parse t = .ok f) ∧ Filter.parse s = .error e) ∧
    (∀ q : Query, (∃ e, q.compile = .error e) ↔
      ∃ s ∈ q.filters, ∃ e, Filter.parse s = .error e) ∧
    (∀ (q : Query) (r : Reference), q.compile = .ok r ↔
      r.Truthful ∧
      r.segments = (⟨q.collection, q.doc⟩ :: q.subcollections : List PathStep).flatMap (fun s =>
        s.doc.elim [.collection s.collection] fun d => [.collection s.collection, .doc d]) ∧
      List.Forall₂ (fun s f => Filter.parse s = .ok f) q.filters r.filters) ∧
    (∀ (q q' : Query) (r r' : Reference), q.compile = .ok r → q'.compile = .ok r' →
      (r = r' ↔
        (q.collection = q'.collection ∧ q.doc = q'.doc ∧ q.subcollections = q'.subcollections) ∧
        q.filters.map Filter.parse = q'.filters.map Filter.parse)) ∧
    ∀ (q : Query) (method : Method), { q with method }.compile = q.compile := by
  refine ⟨fun q e => compile_eq_error_iff.trans mapM_eq_error_iff, fun q => ?_, fun q r => ?_,
    fun q q' r r' compiled compiled' => ?_, fun q method => rfl⟩
  · have fails : (∃ e, q.compile = .error e) ↔ ¬ ∃ fs, Filter.parseAll q.filters = .ok fs := by
      simp only [compile_eq_error_iff]
      cases Filter.parseAll q.filters <;> simp
    have refused (s : String) :
        (∃ e, Filter.parse s = .error e) ↔ ¬ ∃ f, Filter.parse s = .ok f := by
      cases Filter.parse s <;> simp
    simp only [fails, Filter.exists_parseAll_iff, refused]
    push Not
    rfl
  · rw [compile_eq_ok_iff_truthful, funext PathStep.segments_eq]
    rfl
  · obtain ⟨truthful, segments, parsed⟩ := compile_eq_ok_iff_truthful.mp compiled
    obtain ⟨truthful', segments', parsed'⟩ := compile_eq_ok_iff_truthful.mp compiled'
    rw [← path_inj, ← PathStep.flatMap_segments_inj, ← segments, ← segments',
      ← filters_eq_iff parsed parsed']
    constructor
    · rintro rfl
      exact ⟨rfl, rfl⟩
    · rintro ⟨sameSegments, sameFilters⟩
      exact truthful.unique truthful' sameSegments sameFilters

/-- Steps without names, the second of which has a document… -/
def secondDoc : Query := ⟨"", none, [⟨"", some ""⟩], ["name == ada"], .get⟩

/-- …the first instead, below the same text… -/
def firstDoc : Query := ⟨"", some "", [⟨"", none⟩], ["name == ada"], .get⟩

/-- …and the second again, in other words and to another end. -/
def secondDocAgain : Query := { secondDoc with filters := ["name  ==  ada"], method := .add [] }

/-- What both filter by, however it is spelled. -/
def isAda : Filter := ⟨"name", .eq, .text "ada"⟩

/-- References to one text that are not the same, and one that two queries share. -/
theorem compile_exact_unnamed :
    ∃ r r', secondDoc.compile = .ok r ∧ firstDoc.compile = .ok r' ∧ r.path = r'.path ∧ r ≠ r' ∧
      secondDocAgain.compile = .ok r := by
  obtain ⟨-, -, -, same, -⟩ := compile_exact
  have second : secondDoc.compile =
      .ok (.query ⟨[.collection "", .collection "", .doc ""], [isAda]⟩) := by decide
  have first : firstDoc.compile =
      .ok (.query ⟨[.collection "", .doc "", .collection ""], [isAda]⟩) := by decide
  have again : secondDocAgain.compile =
      .ok (.query ⟨[.collection "", .collection "", .doc ""], [isAda]⟩) := by decide
  refine ⟨_, _, second, first, rfl, ?_, again⟩
  rw [Ne, same _ _ _ _ second first]
  decide

end Query

end DocDispatch
