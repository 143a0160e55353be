import Mathlib.Data.List.Chain
import Mathlib.Data.List.Induction
import DocDispatch.Proofs.Descriptor.Reading
import DocDispatch.Proofs.Dispatch.Deeds
import DocDispatch.Proofs.Dispatch.Plan

/-!
# Proofs/Descriptor/Compiling — what was read compiles

    value ──read──▸ descriptor ──compile──▸ reference ──▸ launch

Reading and compiling look at a path and its filters separately, and agree: a path is read only if
every step that another one follows names a document (`Query.SpelledBy.inner`), so its segments
alternate; an empty name is read as none or not at all, so none is left in them; and the filters are
those the reader has parsed before.  Nothing is left then that could go wrong after a predicate has
been asked.
-/

namespace DocDispatch

open Json (Value)

/-! ## The segments of a path -/

/-- Two segments of which exactly one is a collection. -/
def Segment.Alternate (s t : Segment) : Prop := s.isCollection ≠ t.isCollection

namespace PathStep

/-- A step whose names are not empty. -/
structure Named (s : PathStep) : Prop where
  collection : s.collection ≠ ""
  doc : s.doc ≠ some ""

/-- No segment of a named step is without a name. -/
theorem Named.name_ne {s : PathStep} (h : s.Named) : ∀ t ∈ s.segments, t.name ≠ "" := by
  obtain ⟨collection, _ | name⟩ := s
  · simpa [segments, Segment.name] using h.collection
  · simpa [segments, Segment.name] using ⟨h.collection, fun empty => h.doc (congrArg some empty)⟩

/-- A step ends on its document, if it has one, and else on its collection. -/
theorem getLast?_segments (s : PathStep) :
    s.segments.getLast? = some (s.doc.elim (.collection s.collection) .doc) := by
  obtain ⟨collection, _ | name⟩ := s <;> rfl

/-- A path ends on a document where its last step names one. -/
theorem exists_getLast?_eq_doc_iff {steps : List PathStep} :
    (∃ name, (steps.flatMap segments).getLast? = some (.doc name)) ↔
      ∃ last, steps.getLast? = some last ∧ last.doc ≠ none := by
  cases steps using List.reverseRecOn with
  | nil => simp
  | append_singleton before last =>
    rw [List.flatMap_append, List.flatMap_singleton, List.getLast?_append, getLast?_segments,
      Option.some_or, List.getLast?_concat]
    cases hdoc : last.doc <;> simp [hdoc]

/-- Steps alternate where each that another one follows names a document. -/
theorem isChain_flatMap {steps : List PathStep} (inner : ∀ s ∈ steps.dropLast, s.doc ≠ none) :
    (steps.flatMap segments).IsChain Segment.Alternate := by
  induction steps with
  | nil => exact .nil
  | cons s steps ih =>
    rw [forall_mem_dropLast_cons] at inner
    obtain ⟨collection, _ | name⟩ := s
    · obtain rfl : steps = [] := by_contra fun more => inner.1 more rfl
      exact .singleton _
    · have turn : Segment.Alternate (.collection collection) (.doc name) := nofun
      cases steps with
      | nil => exact .cons_cons turn (.singleton _)
      | cons next rest => exact .cons_cons turn (.cons_cons nofun (ih inner.2))

end PathStep

/-! ## References -/

/-- **A reference addresses a document** where its path ends on one and nothing filters. -/
theorem Reference.of_eq_document_iff {segments : List Segment} {filters : List Filter}
    {doc : DocumentRef} :
    Reference.of segments filters = .document doc ↔
      doc.segments = segments ∧ (∃ name, segments.getLast? = some (.doc name)) ∧ filters = [] := by
  obtain ⟨docSegments⟩ := doc
  unfold Reference.of
  split
  · rename_i name last
    simp [last, eq_comm]
  · rename_i other
    simp only [reduceCtorEq, false_iff, not_and]
    rintro - ⟨name, last⟩ rfl
    exact other name last rfl

namespace Query

/-- **What a query compiles to**: the segments of its steps, in turn collections and documents, and
its filters as they parse; a document exactly where the last step names one and nothing filters. -/
structure CompilesTo (q : Query) (r : Reference) : Prop where
  compiled : q.compile = .ok r
  steps : r.segments = (⟨q.collection, q.doc⟩ :: q.subcollections).flatMap PathStep.segments
  first : ∃ rest, r.segments = .collection q.collection :: rest
  alternate : r.segments.IsChain Segment.Alternate
  named : ∀ s ∈ r.segments, s.name ≠ ""
  filters : List.Forall₂ (fun e f => Filter.parse e = .ok f) q.filters r.filters
  document : (∃ doc, r = .document doc) ↔
    (∃ last, q.path.getLast? = some last ∧ last.doc ≠ none) ∧ q.filters = []
  ends : ∀ doc, r = .document doc → ∃ name, doc.segments.getLast? = some (.doc name)

/-- **A query compiles where its filters parse**, and then to the reference of its path. -/
theorem compile_eq_ok_iff {q : Query} {r : Reference} :
    q.compile = .ok r ↔ ∃ fs, List.Forall₂ (fun e f => Filter.parse e = .ok f) q.filters fs ∧
      r = .of (q.path.flatMap PathStep.segments) fs := by
  simp only [← Filter.parseAll_eq_ok_iff, compile]
  cases Filter.parseAll q.filters <;> simp [Except.map, eq_comm]

end Query

/-! ## What was read -/

/-- An empty name counts as none. -/
theorem Assoc.Gives.ne_some_empty {m : Fields} {key : String} {d : Option String}
    (h : m.Gives key none Spells.name d) : d ≠ some "" := by
  rintro rfl
  exact (gives_some_iff.mp h).2 rfl

/-- Steps that are spelled are named. -/
theorem PathStep.SpelledBy.isNamed {s : PathStep} {m : Fields} (h : s.SpelledBy m) : s.Named :=
  ⟨h.named, h.doc.ne_some_empty⟩

/-- …all of them, where several are. -/
theorem Spells.steps_named {v : Value} {steps : List PathStep} (h : Spells.steps v steps) :
    ∀ s ∈ steps, s.Named := by
  obtain ⟨items, -, spelled⟩ := h
  induction spelled with
  | nil => nofun
  | cons first _ ih =>
    obtain ⟨m, -, step⟩ := first
    exact List.forall_mem_cons.mpr ⟨step.isNamed, ih⟩

namespace Query

variable {q : Query} {m : Fields}

/-- **The path of a spelled query is named**, from the top-level step on. -/
theorem SpelledBy.named_path (h : q.SpelledBy m) : ∀ s ∈ q.path, s.Named := by
  refine List.forall_mem_cons.mpr ⟨⟨h.named, h.doc.ne_some_empty⟩, ?_⟩
  have gives := Assoc.gives_iff.mp h.subcollections
  split at gives
  · rw [gives]
    nofun
  · exact Spells.steps_named gives

/-- **A query that was read compiles.** -/
theorem SpelledBy.exists_compilesTo (h : q.SpelledBy m) : ∃ r, q.CompilesTo r := by
  obtain ⟨fs, parsed⟩ := Filter.exists_parseAll_iff.mpr h.parsed
  rw [Filter.parseAll_eq_ok_iff] at parsed
  have unfiltered : q.filters = [] ↔ fs = [] := by
    rw [← List.length_eq_zero_iff, parsed.length_eq, List.length_eq_zero_iff]
  refine ⟨.of (q.path.flatMap PathStep.segments) fs, {
    compiled := compile_eq_ok_iff.mpr ⟨fs, parsed, rfl⟩
    steps := Reference.segments_of _ _
    first := ⟨_, Reference.segments_of _ _⟩
    alternate := (Reference.segments_of _ _).symm ▸ PathStep.isChain_flatMap h.inner
    named := ?named
    filters := (Reference.filters_of _ _).symm ▸ parsed
    document := ?document
    ends := ?ends }⟩
  case named =>
    rw [Reference.segments_of, List.forall_mem_flatMap]
    exact fun s mem => (h.named_path s mem).name_ne
  case document =>
    rw [unfiltered, ← PathStep.exists_getLast?_eq_doc_iff]
    constructor
    · rintro ⟨doc, same⟩
      exact (Reference.of_eq_document_iff.mp same).2
    · intro both
      exact ⟨⟨_⟩, Reference.of_eq_document_iff.mpr ⟨rfl, both⟩⟩
  case ends =>
    intro doc same
    obtain ⟨segments, name, -⟩ := Reference.of_eq_document_iff.mp same
    rwa [segments]

end Query

/-! ## On the way to the store -/

namespace Dispatcher

variable {σ : Type} {D : Dispatcher σ} {state : Value} {canRun : Bool} {action : Action}
  {v : Value} {d : Descriptor}

/-- A descriptor that compiles is refused for the names in it only, before any predicate is
asked. -/
theorem planCall_eq_error {r : Reference} (compiled : d.query.compile = .ok r)
    {e : DescriptorError} (h : D.planCall state action d = .error e) :
    D.bailout d.bailout = .error e ∨ D.schema d.schema = .error e := by
  unfold planCall at h
  cases bailout : D.bailout d.bailout with
  | error e' =>
    rw [bailout] at h
    cases h
    exact Or.inl rfl
  | ok predicate =>
    cases schema : D.schema d.schema with
    | error e' =>
      rw [bailout, schema] at h
      cases h
      exact Or.inr rfl
    | ok s =>
      rw [bailout, schema, compiled] at h
      simp only [bind, Except.bind] at h
      split at h <;> cases h

/-- That nothing can run a call is no fault of its descriptor. -/
theorem runnable_ne_config (p : Plan) (e : DescriptorError) :
    runnable canRun p ≠ .error (.config e) := by
  unfold runnable
  split
  · split <;> nofun
  · nofun

/-- **Once a descriptor is read and compiles, only its names can be at fault** — its predicate's or
its transform's. -/
theorem plan_eq_config {r : Reference} (marked : action.get? D.marker = some v)
    (read : Descriptor.ofJson v = .ok d) (compiled : d.query.compile = .ok r) {e : DescriptorError}
    (h : D.plan state canRun action = .error (.config e)) :
    D.bailout d.bailout = .error e ∨ D.schema d.schema = .error e := by
  simp only [plan, marked, read, bind, Except.bind, Except.mapError] at h
  cases decided : D.planCall state action d with
  | error e' =>
    rw [decided] at h
    cases h
    exact planCall_eq_error compiled decided
  | ok p =>
    rw [decided] at h
    exact absurd h (runnable_ne_config p e)

/-- …and a plan launches on the compiled reference. -/
theorem reference_of_plan {l : Launch} (marked : action.get? D.marker = some v)
    (read : Descriptor.ofJson v = .ok d) (h : D.plan state canRun action = .ok (.launch l)) :
    d.query.compile = .ok l.reference := by
  have planned := D.planned state canRun action
  rw [h] at planned
  cases planned with
  | launch marked' read' _ compiled _ =>
    rw [marked, Option.some_inj] at marked'
    subst marked'
    rw [read, Except.ok.injEq] at read'
    subst read'
    exact compiled

end Dispatcher

namespace Descriptor

/-- **A descriptor that was read compiles**, to a reference whose segments alternate and are all
named, and to a document just where its path ends on one and nothing filters it.  Whatever action
carries it then, a store call is made on that reference or not at all, and the descriptor is
refused only for a predicate or a transform that is not there: never once the predicate has been
asked. -/
theorem compiles_of_read {v : Value} {d : Descriptor} (read : ofJson v = .ok d) :
    ∃ r, d.query.CompilesTo r ∧
      ∀ {σ : Type} (D : Dispatcher σ) (state : Value) (canRun : Bool) (action : Action),
        action.get? D.marker = some v →
        (∀ l, D.plan state canRun action = .ok (.launch l) → l.reference = r) ∧
        ∀ env w w' e, Completes env w (D.handle state canRun action) (.error (.config e)) w' →
          D.bailout d.bailout = .error e ∨ D.schema d.schema = .error e := by
  obtain ⟨config, -, spelled⟩ := ofJson_eq_ok_iff.mp read
  obtain ⟨q, -, query⟩ := spelled.query
  obtain ⟨r, compiles⟩ := query.exists_compilesTo
  refine ⟨r, compiles, fun D state canRun action marked => ⟨fun l planned => ?_, ?_⟩⟩
  · have compiled := Dispatcher.reference_of_plan marked read planned
    rw [compiles.compiled, Except.ok.injEq] at compiled
    exact compiled.symm
  · intro env w w' e completes
    obtain ⟨ds, opens, -⟩ := (D.handle_completes state canRun action _).mp completes
    cases opens with
    | refused h => exact Dispatcher.plan_eq_config marked read compiles.compiled h

/-- A query of the posts of a user, with one filter, as a value. -/
def postsOfUserJson : Value :=
  .object [("types", .array [.string "ASK", .string "OK", .string "NO"]),
    ("query", .object [("method", .string "get"), ("collection", .string "users"),
      ("doc", .string "u1"),
      ("subcollections", .array [.object [("collection", .string "posts"), ("doc", .string "")]]),
      ("where", .string "stars >= 3")])]

/-- …and read: the empty name of a post is none. -/
def postsOfUser : Descriptor where
  types := ⟨"ASK", "OK", "NO"⟩
  schema := none
  payload := none
  metadata := none
  bailout := none
  query := ⟨"users", some "u1", [⟨"posts", none⟩], ["stars >= 3"], .get⟩

/-- The posts are three segments down, and a query, in whatever action they are asked for. -/
theorem compiles_of_read_postsOfUser :
    ofJson postsOfUserJson = .ok postsOfUser ∧
      ∃ r, postsOfUser.query.CompilesTo r ∧
        r.segments = [.collection "users", .doc "u1", .collection "posts"] ∧
        ∀ {σ : Type} (D : Dispatcher σ) (state : Value) (canRun : Bool) (action : Action),
          action.get? D.marker = some postsOfUserJson →
          ∀ env w w' e,
            ¬ Completes env w (D.handle state canRun action) (.error (.config e)) w' := by
  have read : ofJson postsOfUserJson = .ok postsOfUser := by decide
  obtain ⟨r, compiles, dispatched⟩ := compiles_of_read read
  refine ⟨read, r, compiles, compiles.steps, ?_⟩
  intro σ D state canRun action marked env w w' e completes
  rcases (dispatched D state canRun action marked).2 env w w' e completes with refused | refused
  · cases refused
  · cases refused

end Descriptor

end DocDispatch
