import DocDispatch.Proofs.Descriptor.Compiling
import DocDispatch.Reference.Codec

/-!
# Proofs/Reference/Tag — references whose tag tells what they address

    path ends on    filters    built as      read as
    document        none       document      document or query, as tagged
    document        some       query         query
    elsewhere       any        query         query, or without filters document, as tagged

Every operation goes by the tag of a reference and none looks at its segments again.  Building
chooses the tag from the segments and the filters, so what is built is truthful, and nothing else is
(`truthful_iff_exists_build`).  Reading takes the tag as it is written, with any segments under it,
so what is read is truthful only where someone could have built it.
-/

namespace DocDispatch

open Json (Tree Value)

namespace Reference

/-- Whether a path ends on a document and nothing filters it. -/
def AddressesDocument (r : Reference) : Prop :=
  (∃ name, r.segments.getLast? = some (.doc name)) ∧ r.filters = []

/-- **Whether the tag of a reference tells what it addresses.** -/
def Truthful (r : Reference) : Prop := r.target = .document ↔ r.AddressesDocument

/-- A reference is to a document where it has that tag. -/
theorem target_eq_document_iff {r : Reference} :
    r.target = .document ↔ ∃ doc, r = .document doc := by
  cases r <;> simp [target]

/-! ## What is built -/

/-- **What is built tells the truth.** -/
theorem truthful_of (segments : List Segment) (filters : List Filter) :
    (of segments filters).Truthful := by
  rw [Truthful, AddressesDocument, segments_of, filters_of, target_eq_document_iff]
  constructor
  · rintro ⟨doc, made⟩
    exact (of_eq_document_iff.mp made).2
  · exact fun both => ⟨⟨segments⟩, of_eq_document_iff.mpr ⟨rfl, both⟩⟩

/-- **Truthful references of one path with the same filters are the same.** -/
theorem Truthful.unique {r r' : Reference} (h : r.Truthful) (h' : r'.Truthful)
    (segments : r.segments = r'.segments) (filters : r.filters = r'.filters) : r = r' := by
  rw [Truthful, AddressesDocument, segments, filters] at h
  have tag : r.target = .document ↔ r'.target = .document := h.trans (Iff.symm h')
  cases r <;> cases r'
  case document.document r r' => exact congrArg _ (congrArg DocumentRef.mk segments)
  case query.query r r' => exact congrArg _ (congrArg₂ QueryRef.mk segments filters)
  case document.query => cases tag.mp rfl
  case query.document => cases tag.mpr rfl

/-- Any segments and filters can be built, one after another. -/
theorem build_segments_filters (segments : List Segment) (filters : List Filter) :
    build (segments.map .segment ++ filters.map .filter) = of segments filters := by
  simp [build, List.filterMap_append, List.filterMap_map, Function.comp_def, Step.segment?,
    Step.filter?]

/-- **What is built is truthful, and what is truthful can be built.** -/
theorem truthful_iff_exists_build {r : Reference} : r.Truthful ↔ ∃ steps, build steps = r := by
  constructor
  · intro truthful
    refine ⟨_, (build_segments_filters r.segments r.filters).trans ?_⟩
    exact (truthful_of _ _).unique truthful (segments_of _ _) (filters_of _ _)
  · rintro ⟨steps, rfl⟩
    exact truthful_of _ _

/-! ## What is read -/

/-- Whether a text has the tag of a document. -/
def TaggedDocument (t : Tree) : Prop := ∃ content, t.toChoice? = some ("Document", content)

/-- The tag is taken as it is written. -/
theorem target_of_read {t : Tree} {r : Reference} (read : ofTree? t = some r) :
    r.target = .document ↔ TaggedDocument t := by
  unfold ofTree? at read
  split at read
  next content tagged =>
    obtain ⟨doc, -, rfl⟩ := Option.map_eq_some_iff.mp read
    simp [target, TaggedDocument, tagged]
  next content tagged =>
    obtain ⟨q, -, rfl⟩ := Option.map_eq_some_iff.mp read
    simp [target, TaggedDocument, tagged]
  next => cases read

/-- **What is built is truthful, and what is read is if its text has the right tag**, which is to
say, if steps could have built it. -/
theorem truthful_of_built_and_read (steps : List Step) {t : Tree} {r : Reference}
    (read : ofTree? t = some r) :
    (build steps).Truthful ∧
    (r.Truthful ↔ (TaggedDocument t ↔ r.AddressesDocument)) ∧
    (r.Truthful ↔ ∃ steps, build steps = r) := by
  refine ⟨truthful_iff_exists_build.mpr ⟨steps, rfl⟩, ?_, truthful_iff_exists_build⟩
  rw [← target_of_read read, Truthful]

/-- A collection, tagged as a document… -/
def collectionAsDocument : Value :=
  .object [("Document", .object [("segments", .array [.object [("Collection", .string "users")]])])]

/-- …and a document, tagged as a query without filters. -/
def documentAsQuery : Value :=
  .object [("Query", .object [("filters", .array []),
    ("segments", .array [.object [("Collection", .string "users")],
      .object [("Doc", .string "a")]])])]

/-- A document that is read as a query, which no steps build. -/
theorem truthful_of_built_and_read_documentAsQuery :
    ofTree? documentAsQuery.toTree = some (.query ⟨[.collection "users", .doc "a"], []⟩) ∧
      ¬ ∃ steps, build steps = .query ⟨[.collection "users", .doc "a"], []⟩ := by
  have read : ofTree? documentAsQuery.toTree =
      some (.query ⟨[.collection "users", .doc "a"], []⟩) := rfl
  obtain ⟨-, tagged, built⟩ := truthful_of_built_and_read [] read
  refine ⟨read, fun steps => ?_⟩
  obtain ⟨content, tag⟩ := (tagged.mp (built.mpr steps)).mpr ⟨⟨"a", rfl⟩, rfl⟩
  simp [documentAsQuery, Value.toTree, Value.membersToTree, Tree.toChoice?] at tag

/-- What is read need not be truthful. -/
theorem not_truthful_of_read :
    ∃ r, ofTree? collectionAsDocument.toTree = some r ∧ r.target = .document ∧
      r.segments.getLast? = some (.collection "users") ∧ ¬ r.Truthful := by
  refine ⟨.document ⟨[.collection "users"]⟩, rfl, rfl, rfl, fun truthful => ?_⟩
  obtain ⟨⟨name, last⟩, -⟩ := truthful.mp rfl
  cases last

end Reference

end DocDispatch
