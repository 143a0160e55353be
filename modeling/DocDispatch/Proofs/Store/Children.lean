import DocDispatch.Proofs.Text.Path
import DocDispatch.Store.Basic

/-!
# Proofs/Store/Children — a query depends on the documents directly in its collection

The documents below a collection stand together in path order, so taking the block they form is
filtering by `isChild` (`children_eq_filter`).  A write to any other path therefore leaves the
children as they are, and with them the outcome of every query of the collection
(`queryOutcome_write`).
-/

namespace DocDispatch

namespace Store

/-! ## Blocks of paths -/

/-- What is left of a text after its beginning. -/
theorem isPrefixOf?_eq_some_iff {α : Type} [BEq α] [LawfulBEq α] {xs ys zs : List α} :
    xs.isPrefixOf? ys = some zs ↔ ys = xs ++ zs := by
  induction xs generalizing ys with
  | nil => exact ⟨Option.some.inj, congrArg some⟩
  | cons x xs ih =>
    cases ys with
    | nil => constructor <;> rintro ⟨⟩
    | cons y ys =>
      have first : (x :: xs).isPrefixOf? (y :: ys) =
          if x == y then xs.isPrefixOf? ys else none := rfl
      by_cases h : x = y
      · rw [first, if_pos (beq_iff_eq.mpr h), ih, h, List.cons_append, List.cons.injEq,
          and_iff_right rfl]
      · rw [first, if_neg (fun same => h (beq_iff_eq.mp same))]
        constructor
        · rintro ⟨⟩
        · rintro ⟨⟩
          exact absurd rfl h

theorem rest?_eq_some_iff {start path : String} {rest : List Char} :
    rest? start path = some rest ↔ path = start ++ String.ofList rest := by
  rw [rest?, isPrefixOf?_eq_some_iff, ← String.toList_inj, String.toList_append,
    String.toList_ofList]

/-- Between a text and a text that begins with it, every text begins with it. -/
theorem exists_append_of_between {xs ys zs : List Char} (h : ¬ ys < xs) (h' : ys < xs ++ zs) :
    ∃ rest, ys = xs ++ rest := by
  induction xs generalizing ys with
  | nil => exact ⟨ys, rfl⟩
  | cons x xs ih =>
    cases ys with
    | nil => exact absurd (List.nil_lt_cons x xs) h
    | cons y ys =>
      rw [List.cons_append, List.cons_lt_cons_iff] at h'
      rw [List.cons_lt_cons_iff, not_or] at h
      rcases h' with hlt | ⟨rfl, hlt⟩
      · exact absurd hlt h.1
      · obtain ⟨rest, rfl⟩ := ih (fun hlt' => h.2 ⟨rfl, hlt'⟩) hlt
        exact ⟨rest, rfl⟩

/-- Whether a path begins with `start`. -/
def beginsWith (start path : String) : Bool := (rest? start path).isSome

/-- A path begins with another where something may be put behind. -/
theorem beginsWith_iff {start path : String} :
    beginsWith start path ↔ ∃ rest, path.toList = start.toList ++ rest := by
  simp only [beginsWith, Option.isSome_iff_exists, rest?, isPrefixOf?_eq_some_iff]

/-- A text never comes before its own beginning… -/
theorem not_lt_of_beginsWith {start path : String} (h : beginsWith start path) :
    ¬ path < start := by
  obtain ⟨rest, h⟩ := beginsWith_iff.mp h
  rw [String.lt_iff, h]
  exact List.le_append_left

/-- From `start` on, the paths that begin with it come first. -/
theorem beginsWith_of_lt {start path later : String} (h : ¬ path < start) (hlt : path < later)
    (hl : beginsWith start later) : beginsWith start path := by
  obtain ⟨rest, hl⟩ := beginsWith_iff.mp hl
  rw [String.lt_iff] at h hlt
  rw [hl] at hlt
  exact beginsWith_iff.mpr (exists_append_of_between h hlt)

/-- …so in order those with one beginning stand together. -/
theorem takeWhile_beginsWith {start : String} :
    ∀ {m : Assoc Fields}, m.Ascending → (∀ p ∈ m, ¬ p.1 < start) →
      m.takeWhile (fun p => beginsWith start p.1) = m.filter fun p => beginsWith start p.1
  | [], _, _ => rfl
  | p :: m, h, hs => by
      obtain ⟨head, tail⟩ := List.pairwise_cons.mp h
      by_cases hp : beginsWith start p.1
      · have ih := takeWhile_beginsWith tail fun q hq => hs q (List.mem_cons_of_mem _ hq)
        simp only [List.takeWhile_cons, List.filter_cons, hp, if_true, ih]
      · have later : m.filter (fun q => beginsWith start q.1) = [] :=
          List.filter_eq_nil_iff.mpr fun q hq begins =>
            hp (beginsWith_of_lt (hs p List.mem_cons_self) (head q hq) begins)
        simp only [List.takeWhile_cons, List.filter_cons, hp, later, if_false, Bool.false_eq_true]

/-- **The paths that begin with a text form a block.** -/
theorem block_eq_filter {start : String} :
    ∀ {m : Assoc Fields}, m.Ascending →
      (m.dropWhile fun p => p.1 < start).takeWhile (fun p => beginsWith start p.1) =
        m.filter fun p => beginsWith start p.1
  | [], _ => rfl
  | p :: m, h => by
      obtain ⟨head, tail⟩ := List.pairwise_cons.mp h
      by_cases hp : p.1 < start
      · have before : beginsWith start p.1 = false :=
          Bool.eq_false_iff.mpr fun begins => not_lt_of_beginsWith begins hp
        simp only [List.dropWhile_cons, hp, decide_true, if_true, block_eq_filter tail,
          List.filter_cons, before, Bool.false_eq_true, if_false]
      · rw [List.dropWhile_cons_of_neg (by simpa using hp), takeWhile_beginsWith h]
        intro q hq
        rcases List.mem_cons.mp hq with rfl | hq
        · exact hp
        · exact fun hlt => hp (String.lt_trans (head q hq) hlt)

/-! ## Children -/

/-- **Whether a path is that of a document directly in a collection.** -/
def isChild (collection path : String) : Bool :=
  (rest? (below collection) path).any fun rest => !rest.contains '/'

/-- **A child of a collection has one name more**, and that is without a slash. -/
theorem isChild_iff {collection path : String} :
    isChild collection path ↔ ∃ id : String, '/' ∉ id.toList ∧ path = collection ++ "/" ++ id := by
  constructor
  · intro h
    cases hr : rest? (below collection) path with
    | none => simp [isChild, hr] at h
    | some rest =>
      have no_slash : '/' ∉ rest := by simpa [isChild, hr] using h
      exact ⟨String.ofList rest, by simpa using no_slash, rest?_eq_some_iff.mp hr⟩
  · rintro ⟨id, hid, rfl⟩
    have hr : rest? (below collection) (collection ++ "/" ++ id) = some id.toList :=
      rest?_eq_some_iff.mpr (by rw [String.ofList_toList, below])
    simpa [isChild, hr] using hid

/-- …so its parent is the collection. -/
theorem parentPath_of_isChild {collection path : String} (h : isChild collection path) :
    Text.parentPath path = collection := by
  obtain ⟨id, hid, rfl⟩ := isChild_iff.mp h
  exact Text.parentPath_child collection id hid

/-- **For a collection with a name, to be around a path is to hold its document directly.** -/
theorem isChild_iff_parentPath {collection path : String} (named : collection ≠ "") :
    isChild collection path ↔ collection = Text.parentPath path := by
  constructor
  · exact fun h => (parentPath_of_isChild h).symm
  · rintro rfl
    exact isChild_iff.mpr (Text.exists_child_of_parentPath named)

/-- **The children of a collection are the documents whose paths are directly in it.** -/
theorem children_eq_filter {m : Assoc Fields} (h : m.Ascending) (collection : String) :
    children m collection = m.filter fun p => isChild collection p.1 := by
  rw [children]
  have block : ((m.dropWhile fun p => p.1 < below collection).takeWhile fun p =>
      (rest? (below collection) p.1).isSome) =
        m.filter fun p => beginsWith (below collection) p.1 :=
    block_eq_filter h
  rw [block, List.filter_filter]
  refine List.filter_congr fun p _ => ?_
  simp only [isChild, beginsWith]
  cases rest? (below collection) p.1 <;> simp

/-- Inserting elsewhere does not show. -/
theorem filter_insert_of_not {keep : String → Bool} {path : String} (h : keep path = false)
    (data : Fields) : ∀ m : Assoc Fields,
      (m.insert path data).filter (fun p => keep p.1) = m.filter fun p => keep p.1
  | [] => by simp [Assoc.insert, h]
  | p :: m => by
      have ih := filter_insert_of_not h data m
      unfold Assoc.insert
      split
      · rename_i same
        simp [← same, h]
      · split
        · simp [h]
        · simp [List.filter_cons, ih]

variable {L : Type}

/-- **A write elsewhere leaves a query's outcome as it is.** -/
theorem queryOutcome_write (s : Store L) {path : String} (data : Fields) {q : QueryRef}
    (h : q.path ≠ Text.parentPath path) :
    (s.write path data).queryOutcome q = s.queryOutcome q := by
  have elsewhere : isChild q.path path = false :=
    Bool.eq_false_iff.mpr fun child => h (parentPath_of_isChild child).symm
  have children : children (s.documents.insert path data).members q.path =
      children s.documents.members q.path := by
    rw [children_eq_filter (OrderedMap.ascending _), children_eq_filter (OrderedMap.ascending _)]
    exact filter_insert_of_not elsewhere data s.documents.members
  simp only [queryOutcome, runQuery]
  change Except.map _ (if _ then select _ (Store.children (s.documents.insert path data).members _)
    else _) = _
  rw [children]

/-- **A write elsewhere leaves a document as it is.** -/
theorem documentOutcome_write (s : Store L) {path other : String} (data : Fields)
    (h : other ≠ path) : (s.write path data).documentOutcome other = s.documentOutcome other := by
  have same : (s.documents.insert path data).get? other = s.documents.get? other :=
    Assoc.get?_insert_of_ne h data s.documents.members
  simp only [documentOutcome, snapshot]
  change Except.ok (Response.one
    (Snapshot.ofPath other ((s.documents.insert path data).get? other))) = _
  rw [same]

end Store

end DocDispatch
