import DocDispatch.Proofs.Descriptor.Compiling
import DocDispatch.Proofs.Store.Children

/-!
# Proofs/Reference/Location — where a document is, by its segments and by its path

    segments   …, collection "users", doc "b/c"      id "b/c"   parent users
    path       … users/b/c                           id "c"     parent users/b

A reference knows its segments, a store only the path they spell, and cuts that at slashes again:
for the document's id, for the collection to tell of a write, and for the documents of a query.  The
reader of descriptors lets a slash through in a name, so the two can disagree.  They agree, all
three times, exactly if there is no slash in the document's own name.
-/

namespace DocDispatch

namespace Text

/-- There is no slash in the last segment of a path. -/
theorem not_mem_lastSegment (path : String) : '/' ∉ (lastSegment path).toList := by
  have cut : split '/' path ≠ [] := by simp [split, pieces_ne_nil]
  have last : lastSegment path ∈ split '/' path := by
    rw [lastSegment, List.getLastD_eq_getLast?, List.getLast?_eq_some_getLast cut]
    exact List.getLast_mem cut
  obtain ⟨piece, mem, same⟩ := List.mem_map.mp last
  rw [← same, String.toList_ofList]
  intro slash
  simpa using not_isSeparator_of_mem_pieces mem '/' slash

end Text

/-- The path of one more segment. -/
theorem Segment.path_concat {segments : List Segment} (more : segments ≠ []) (s : Segment) :
    path (segments ++ [s]) = path segments ++ "/" ++ s.name := by
  rw [path, List.map_append, List.map_cons, List.map_nil, Text.join,
    String.intercalate_append_of_ne_nil (by simpa using more) (List.cons_ne_nil _ _),
    String.intercalate_singleton]
  rfl

namespace DocumentRef

/-- The query of all documents in the collection around a document. -/
def siblings (r : DocumentRef) : QueryRef := ⟨r.segments.dropLast, []⟩

/-- **A reference to a document in a collection**, with names that are not empty. -/
structure Located (r : DocumentRef) : Prop where
  document : ∃ name, r.segments.getLast? = some (.doc name)
  collection : ∃ name, r.segments.dropLast.getLast? = some (.collection name)
  named : ∀ s ∈ r.segments, s.name ≠ ""

end DocumentRef

namespace Descriptor

/-- **A descriptor that was read locates the document that it compiles to.** -/
theorem located_of_read {v : Json.Value} {d : Descriptor} (read : ofJson v = .ok d)
    {r : DocumentRef} (compiled : d.query.compile = .ok (.document r)) : r.Located := by
  obtain ⟨config, -, spelled⟩ := ofJson_eq_ok_iff.mp read
  obtain ⟨m, -, query⟩ := spelled.query
  obtain ⟨r', compiles⟩ := query.exists_compilesTo
  obtain rfl : r' = .document r := Except.ok.inj (compiles.compiled.symm.trans compiled)
  obtain ⟨⟨last, ends, named⟩, -⟩ := compiles.document.mp ⟨r, rfl⟩
  obtain ⟨name, doc⟩ := Option.ne_none_iff_exists'.mp named
  obtain ⟨front, path⟩ := List.getLast?_eq_some_iff.mp ends
  have segments : r.segments =
      front.flatMap PathStep.segments ++ [.collection last.collection] ++ [.doc name] := by
    have steps : r.segments = d.query.path.flatMap PathStep.segments := compiles.steps
    rw [steps, path, List.flatMap_append, List.flatMap_singleton, PathStep.segments, doc]
    simp
  exact ⟨⟨name, by rw [segments, List.getLast?_concat]⟩,
    ⟨last.collection, by rw [segments, List.dropLast_concat, List.getLast?_concat]⟩,
    compiles.named⟩

end Descriptor

namespace DocumentRef.Located

variable {r : DocumentRef}

/-- The path of a document is its collection's, with the document's name. -/
theorem path_eq (h : r.Located) : r.path = r.parentPath ++ "/" ++ r.id := by
  obtain ⟨name, last⟩ := h.document
  obtain ⟨before, segments⟩ := List.getLast?_eq_some_iff.mp last
  have more : before ≠ [] := by
    rintro rfl
    obtain ⟨c, collection⟩ := h.collection
    rw [segments] at collection
    cases collection
  rw [path, parentPath, id, segments, Segment.path_concat more, List.dropLast_concat,
    List.getLast?_concat]
  rfl

/-- A document that is in a collection has a parent. -/
theorem parentPath_ne (h : r.Located) : r.parentPath ≠ "" := by
  obtain ⟨c, collection⟩ := h.collection
  obtain ⟨before, segments⟩ := List.getLast?_eq_some_iff.mp collection
  have named : c ≠ "" :=
    h.named (.collection c) (List.dropLast_subset _ (by rw [segments]; simp))
  rw [parentPath, segments]
  by_cases more : before = []
  · rw [more]
    exact named
  · rw [Segment.path_concat more, ne_eq, String.append_eq_empty_iff]
    exact fun empty => named empty.2

/-- **The last segment of the path is the document's name**… -/
theorem lastSegment_eq_iff (h : r.Located) :
    Text.lastSegment r.path = r.id ↔ '/' ∉ r.id.toList := by
  constructor
  · exact fun same => same ▸ Text.not_mem_lastSegment r.path
  · intro whole
    rw [h.path_eq, Text.lastSegment_child _ whole]

/-- …**the document is directly in its collection**… -/
theorem isChild_iff (h : r.Located) :
    Store.isChild r.parentPath r.path ↔ '/' ∉ r.id.toList := by
  rw [Store.isChild_iff, h.path_eq]
  constructor
  · rintro ⟨id, whole, same⟩
    have same : r.id = id := by
      rw [← String.toList_inj] at same ⊢
      simpa using same
    rwa [same]
  · exact fun whole => ⟨r.id, whole, rfl⟩

/-- …**and that collection is the one around its path** exactly if there is no slash in its name. -/
theorem parentPath_eq_iff (h : r.Located) :
    r.parentPath = Text.parentPath r.path ↔ '/' ∉ r.id.toList := by
  rw [← h.isChild_iff, Store.isChild_iff_parentPath h.parentPath_ne]

/-- **The path without the document is that of a query.** -/
theorem of_siblings (h : r.Located) : Reference.of r.segments.dropLast [] = .query r.siblings := by
  obtain ⟨c, collection⟩ := h.collection
  unfold Reference.of
  rw [collection]
  rfl

theorem targetsCollection_siblings (h : r.Located) : r.siblings.targetsCollection := by
  obtain ⟨c, collection⟩ := h.collection
  simp [QueryRef.targetsCollection, siblings, collection, Segment.isCollection]

end DocumentRef.Located

end DocDispatch
