import DocDispatch.Proofs.Assoc
import DocDispatch.Proofs.Store.Matching
import Mathlib.Data.List.Sort

/-!
# Proofs/Store/Scan — a query is the plain scan of all documents

    every document, by path
     ├ not directly in the collection       passed over
     └ its filters, from left to right
        ├ one that needs a list             the query is refused
        ├ one that does not hold            passed over
        └ all of them hold                  found

A query is run on the block of documents below its collection, and leaves that block at the first
path that does not begin with the collection's.  Nothing of this shows: what is answered is what a
walk along all documents answers (`runQuery_eq_iff`), whatever paths there are next to the block.
Which document a refusal is for depends on the order of the walk; what is found does not, and is
told by what is among it (`Found`).
-/

namespace DocDispatch

namespace Filter

/-- Whether an operator needs a list to compare with, which no operand is. -/
def Operator.needsList : Operator → Bool
  | .arrayContainsAny | .isIn | .notIn => true
  | _ => false

/-- What a filter answers about the data of a document. -/
def tried (f : Filter) (data : Fields) : Option Bool :=
  f.matches? (FieldPath.read data (FieldPath.steps f.field))

def Holds (f : Filter) (data : Fields) : Prop := f.tried data = some true

instance (f : Filter) (data : Fields) : Decidable (f.Holds data) :=
  inferInstanceAs (Decidable (_ = _))

/-- **A filter has no answer exactly if its operator needs a list.** -/
theorem tried_eq_none_iff {f : Filter} {data : Fields} :
    f.tried data = none ↔ f.operator.needsList := by
  obtain ⟨field, operator, operand⟩ := f
  cases operator with
  | arrayContains =>
    simp only [tried, matches?, Operator.needsList]
    split <;> simp
  | _ => simp [tried, matches?, Operator.needsList]

end Filter

namespace Store

/-! ## The first stop of a walk -/

section

variable {α β : Type} {pass : α → Prop} {stop : α → β → Prop}

/-- Whether a walk along a list, past the items it may pass, comes to a stop. -/
def ComesTo (pass : α → Prop) (stop : α → β → Prop) (items : List α) (end_ : β) : Prop :=
  ∃ before a after, items = before ++ a :: after ∧ (∀ b ∈ before, pass b) ∧ stop a end_

theorem not_comesTo_nil {b : β} : ¬ ComesTo pass stop [] b := by
  rintro ⟨before, a, after, parts, -⟩
  simp at parts

theorem comesTo_cons {a : α} {items : List α} {b : β} :
    ComesTo pass stop (a :: items) b ↔ stop a b ∨ pass a ∧ ComesTo pass stop items b := by
  constructor
  · rintro ⟨_ | ⟨first, before⟩, c, after, parts, passed, stops⟩
    · obtain ⟨rfl, rfl⟩ := List.cons.inj parts
      exact Or.inl stops
    · obtain ⟨rfl, rfl⟩ := List.cons.inj parts
      obtain ⟨first, rest⟩ := List.forall_mem_cons.mp passed
      exact Or.inr ⟨first, before, c, after, rfl, rest, stops⟩
  · rintro (stops | ⟨first, before, c, after, rfl, rest, stops⟩)
    · exact ⟨[], a, items, rfl, List.forall_mem_nil _, stops⟩
    · exact ⟨a :: before, c, after, rfl, List.forall_mem_cons.mpr ⟨first, rest⟩, stops⟩

end

/-! ## The filters, on one document -/

/-- Whether the filters of a query, as far as they hold of a document, come to one that needs a
list. -/
def StopsAt (filters : List Filter) (data : Fields) : Filter.Operator → Prop :=
  ComesTo (fun f => f.Holds data) (fun f op => f.operator.needsList ∧ f.operator = op) filters

variable {filters : List Filter} {data : Fields}

theorem satisfies_cons (f : Filter) (filters : List Filter) (data : Fields) :
    satisfies data (f :: filters) = match f.tried data with
      | some true => satisfies data filters
      | some false => .ok false
      | none => .error (.invalidReference (.needsList f.operator)) := rfl

theorem stopsAt_cons {f : Filter} {op : Filter.Operator} :
    StopsAt (f :: filters) data op ↔
      f.tried data = none ∧ f.operator = op ∨
        f.tried data = some true ∧ StopsAt filters data op := by
  rw [Filter.tried_eq_none_iff]
  exact comesTo_cons

/-- **Filters are refused exactly where they stop**… -/
theorem satisfies_eq_error_iff {e : StoreError} :
    satisfies data filters = .error e ↔
      ∃ op, StopsAt filters data op ∧ e = .invalidReference (.needsList op) := by
  induction filters with
  | nil => simp [satisfies, StopsAt, not_comesTo_nil]
  | cons f filters ih =>
    simp only [satisfies_cons, stopsAt_cons]
    split
    next answer => simp [answer, ih]
    next answer => simp [answer]
    next answer => simp [answer, eq_comm]

/-- …and satisfied exactly if all of them hold. -/
theorem satisfies_eq_true_iff :
    satisfies data filters = .ok true ↔ ∀ f ∈ filters, f.Holds data := by
  induction filters with
  | nil => simp [satisfies]
  | cons f filters ih =>
    rw [satisfies_cons, List.forall_mem_cons, Filter.Holds]
    split
    next answer => simp [answer, ih]
    next answer => simp [answer]
    next answer => simp [answer]

theorem holds_iff : holds filters data ↔ ∀ f ∈ filters, f.Holds data := by
  rw [← satisfies_eq_true_iff, holds]
  cases satisfies data filters <;> simp

theorem stopsAt_iff {op : Filter.Operator} :
    StopsAt filters data op ↔
      satisfies data filters = .error (.invalidReference (.needsList op)) := by
  rw [satisfies_eq_error_iff]
  constructor
  · exact fun stops => ⟨op, stops, rfl⟩
  · rintro ⟨_, stops, ⟨⟩⟩
    exact stops

theorem not_stopsAt_iff :
    (∀ op, ¬ StopsAt filters data op) ↔ ∃ kept, satisfies data filters = .ok kept := by
  cases answer : satisfies data filters with
  | ok kept => simp [stopsAt_iff, answer]
  | error e =>
    obtain ⟨op, stops, -⟩ := satisfies_eq_error_iff.mp answer
    simpa using ⟨op, stops⟩

/-! ## The documents of a collection -/

/-- Whether a query, walking past documents at which its filters do not stop, comes to one at which
they do. -/
def RefusedAt (filters : List Filter) : Assoc Fields → Filter.Operator → Prop :=
  ComesTo (fun p => ∀ op, ¬ StopsAt filters p.2 op) fun p op => StopsAt filters p.2 op

theorem refusedAt_cons {p : String × Fields} {m : Assoc Fields} {op : Filter.Operator} :
    RefusedAt filters (p :: m) op ↔
      satisfies p.2 filters = .error (.invalidReference (.needsList op)) ∨
        (∃ kept, satisfies p.2 filters = .ok kept) ∧ RefusedAt filters m op := by
  rw [← stopsAt_iff, ← not_stopsAt_iff]
  exact comesTo_cons

theorem select_cons (p : String × Fields) (m : Assoc Fields) :
    select filters (p :: m) = match satisfies p.2 filters with
      | .error e => .error e
      | .ok kept => (select filters m).map fun rest =>
          if kept then Snapshot.of p.1 p.2 :: rest else rest := by
  rw [select]
  cases satisfies p.2 filters with
  | error e => rfl
  | ok kept => cases select filters m <;> rfl

theorem refused_map {α β : Type} {f : α → β} {x : Except StoreError α} {e : StoreError} :
    x.map f = .error e ↔ x = .error e := by
  cases x <;> simp [Except.map]

/-- **A selection is refused at the first document at which the filters stop**… -/
theorem select_eq_error_iff {m : Assoc Fields} {e : StoreError} :
    select filters m = .error e ↔
      ∃ op, RefusedAt filters m op ∧ e = .invalidReference (.needsList op) := by
  induction m with
  | nil => simp [select, RefusedAt, not_comesTo_nil]
  | cons p m ih =>
    simp only [select_cons, refusedAt_cons]
    cases answer : satisfies p.2 filters with
    | error e' =>
      obtain ⟨op, -, rfl⟩ := satisfies_eq_error_iff.mp answer
      simp [eq_comm]
    | ok kept =>
      rw [refused_map]
      simpa using ih

/-- …and if they stop at none, finds what all of them hold of. -/
theorem select_eq_ok_iff {m : Assoc Fields} {docs : List Snapshot} :
    select filters m = .ok docs ↔
      (∀ op, ¬ RefusedAt filters m op) ∧
        docs = (m.filter fun p => ∀ f ∈ filters, f.Holds p.2).map fun p => Snapshot.of p.1 p.2 := by
  have kept : (fun p : String × Fields => holds filters p.2) =
      fun p => decide (∀ f ∈ filters, f.Holds p.2) :=
    funext fun p => by rw [Bool.eq_iff_iff, holds_iff, decide_eq_true_iff]
  cases answer : select filters m with
  | ok found =>
    have free : ∀ op, ¬ RefusedAt filters m op := fun op refused => by
      rw [select_eq_error_iff.mpr ⟨op, refused, rfl⟩] at answer
      cases answer
    rw [select_eq_ok answer, kept]
    simp [free, eq_comm]
  | error e =>
    obtain ⟨op, refused, -⟩ := select_eq_error_iff.mp answer
    simp only [reduceCtorEq, false_iff, not_and]
    exact fun free => absurd refused (free op)

/-! ## Queries -/

/-- Whether a path is the collection's with one more segment, the id. -/
def InCollection (collection path : String) : Prop :=
  ∃ id : String, '/' ∉ id.toList ∧ path = collection ++ "/" ++ id

instance (collection path : String) : Decidable (InCollection collection path) :=
  decidable_of_iff _ isChild_iff

/-- The documents directly in a collection, out of all documents. -/
def inside (documents : Assoc Fields) (collection : String) : Assoc Fields :=
  documents.filter fun p => InCollection collection p.1

theorem children_eq_inside {documents : Assoc Fields} (h : documents.Ascending)
    (collection : String) : children documents collection = inside documents collection := by
  rw [children_eq_filter h, inside]
  exact List.filter_congr fun p _ => by
    rw [Bool.eq_iff_iff, decide_eq_true_iff]
    exact isChild_iff

theorem isChild_of_mem_inside {documents : Assoc Fields} {collection : String}
    {p : String × Fields} (h : p ∈ inside documents collection) : isChild collection p.1 := by
  have directly : InCollection collection p.1 := of_decide_eq_true (List.mem_filter.mp h).2
  exact isChild_iff.mpr directly

/-- **The documents in a collection that filters hold of.** -/
structure Found (documents : Assoc Fields) (q : QueryRef) (docs : List Snapshot) : Prop where
  /-- None from elsewhere is among them and none is missing, each has its data and its id… -/
  mem_iff : ∀ d, d ∈ docs ↔ '/' ∉ d.id.toList ∧ d.path = q.path ++ "/" ++ d.id ∧
    ∃ data, documents.get? d.path = some data ∧ d.data = some data ∧
      ∀ f ∈ q.filters, f.Holds data
  /-- …and they come in strictly ascending order of their ids. -/
  ascending : docs.Pairwise fun d d' => d.id < d'.id

theorem Found.unique {documents : Assoc Fields} {q : QueryRef} {docs docs' : List Snapshot}
    (h : Found documents q docs) (h' : Found documents q docs') : docs = docs' := by
  have : Std.Irrefl fun d d' : Snapshot => d.id < d'.id := ⟨fun d => String.lt_irrefl d.id⟩
  have : Std.Antisymm fun d d' : Snapshot => d.id < d'.id :=
    ⟨fun _ _ lt lt' => absurd lt' (String.lt_asymm lt)⟩
  exact h.ascending.eq_of_mem_iff h'.ascending fun d => (h.mem_iff d).trans (h'.mem_iff d).symm

theorem found_filter_inside {documents : Assoc Fields} (h : documents.Ascending) (q : QueryRef) :
    Found documents q
      (((inside documents q.path).filter fun p => ∀ f ∈ q.filters, f.Holds p.2).map
        fun p => Snapshot.of p.1 p.2) := by
  constructor
  case mem_iff =>
    intro d
    simp only [List.mem_map, List.mem_filter, inside, decide_eq_true_iff]
    constructor
    · rintro ⟨⟨path, data⟩, ⟨⟨there, id, whole, rfl⟩, holds⟩, rfl⟩
      have same : Text.lastSegment (q.path ++ "/" ++ id) = id := Text.lastSegment_child q.path whole
      refine ⟨?_, ?_, data, h.get?_eq_some_iff.mpr there, rfl, holds⟩
      · change '/' ∉ (Text.lastSegment _).toList
        rwa [same]
      · exact congrArg (q.path ++ "/" ++ ·) same.symm
    · rintro ⟨whole, path, data, there, stored, holds⟩
      refine ⟨(d.path, data), ⟨⟨h.get?_eq_some_iff.mp there, d.id, whole, path⟩, holds⟩, ?_⟩
      rw [Snapshot.of, Snapshot.ofPath, ← stored]
      congr
      rw [path, Text.lastSegment_child q.path whole]
  case ascending =>
    refine List.pairwise_map.mpr (((h.filter _).imp_of_mem fun mem mem' lt => ?_).filter _)
    exact id_lt_of_isChild (isChild_of_mem_inside mem) (isChild_of_mem_inside mem') lt

/-- **What the plain scan of all documents answers a query with.** -/
inductive Scanned (documents : Assoc Fields) (q : QueryRef) :
    Except StoreError (List Snapshot) → Prop
  /-- A query of no collection is refused… -/
  | elsewhere (h : ¬ q.targetsCollection) :
      Scanned documents q
        (.error (.invalidReference (.notCollection (Reference.query q).display)))
  /-- …one of a collection for the first document in it at which the filters stop, if there is
  one… -/
  | refused (h : q.targetsCollection) {op : Filter.Operator}
      (stops : RefusedAt q.filters (inside documents q.path) op) :
      Scanned documents q (.error (.invalidReference (.needsList op)))
  /-- …and finds, if there is none, the documents in the collection that all filters hold of. -/
  | found (h : q.targetsCollection)
      (free : ∀ op, ¬ RefusedAt q.filters (inside documents q.path) op) {docs : List Snapshot}
      (found : Found documents q docs) :
      Scanned documents q (.ok docs)

variable {L : Type}

theorem runQuery_of_targetsCollection (s : Store L) {q : QueryRef} (h : q.targetsCollection) :
    s.runQuery q = select q.filters (inside s.documents.members q.path) := by
  rw [runQuery, if_pos h, children_eq_inside s.documents.ascending]

/-- **A query answers what the plain scan of all documents answers.** -/
theorem runQuery_eq_iff (s : Store L) (q : QueryRef) {answer : Except StoreError (List Snapshot)} :
    s.runQuery q = answer ↔ Scanned s.documents.members q answer := by
  have filtered := found_filter_inside s.documents.ascending q
  constructor
  · rintro rfl
    by_cases h : q.targetsCollection
    · rw [runQuery_of_targetsCollection s h]
      cases selected : select q.filters (inside s.documents.members q.path) with
      | ok docs =>
        obtain ⟨free, rfl⟩ := select_eq_ok_iff.mp selected
        exact .found h free filtered
      | error e =>
        obtain ⟨op, stops, rfl⟩ := select_eq_error_iff.mp selected
        exact .refused h stops
    · rw [runQuery, if_neg h]
      exact .elsewhere h
  · rintro (h | ⟨h, stops⟩ | ⟨h, free, found⟩)
    · rw [runQuery, if_neg h]
    · rw [runQuery_of_targetsCollection s h]
      exact select_eq_error_iff.mpr ⟨_, stops, rfl⟩
    · rw [runQuery_of_targetsCollection s h]
      exact select_eq_ok_iff.mpr ⟨free, found.unique filtered⟩

/-- A collection, with what is next to it and below it in path order. -/
def neighbours : Store Unit :=
  .ofDocuments (.ofList (["users", "users.old/a", "users/", "users/a", "users/a/posts/b", "users/c",
    "users0/a"].map (·, [("age", .string "7")])))

/-- The query of that collection. -/
def everyone (filters : List Filter) : QueryRef := ⟨[.collection "users"], filters⟩

example : (neighbours.runQuery (everyone [])).map (·.map Snapshot.id) = .ok ["", "a", "c"] := rfl

example : neighbours.runQuery (everyone
    [⟨"age", .eq, .text "7"⟩, ⟨"age", .isIn, .text "7"⟩, ⟨"age", .notIn, .text "7"⟩]) =
    .error (.invalidReference (.needsList .isIn)) := rfl

example : neighbours.runQuery (everyone [⟨"age", .ne, .text "7"⟩, ⟨"age", .isIn, .text "7"⟩]) =
    .ok [] := rfl

end Store

end DocDispatch
