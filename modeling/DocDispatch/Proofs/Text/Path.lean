import DocDispatch.Text.Pieces

/-!
# Proofs/Text/Path — the collection around a path

Cutting a path at `/` and joining the pieces gives the path back (`join_split`), so a path that is a
collection's with one more segment has that collection around it (`parentPath_child`) and that
segment for its last (`lastSegment_child`), and a path with a collection around it is that
collection's with one more segment (`exists_child_of_parentPath`).
-/

namespace DocDispatch.Text

/-- **A separator separates.** -/
theorem pieces_append {isSeparator : Char → Bool} {c : Char} (hc : isSeparator c) (ys : List Char) :
    ∀ xs, pieces isSeparator (xs ++ c :: ys) = pieces isSeparator xs ++ pieces isSeparator ys
  | [] => by simp [pieces, hc]
  | x :: xs => by
      have ih := pieces_append hc ys xs
      by_cases hx : isSeparator x
      · simp [pieces, hx, ih]
      · simp only [List.cons_append, pieces, hx, ih]
        cases h : pieces isSeparator xs with
        | nil => exact absurd h (pieces_ne_nil _ _)
        | cons p ps => simp

/-- A text without separators is one piece… -/
theorem pieces_of_forall {isSeparator : Char → Bool} :
    ∀ {xs : List Char}, (∀ x ∈ xs, isSeparator x = false) → pieces isSeparator xs = [xs]
  | [], _ => rfl
  | x :: xs, h => by
      have ih := pieces_of_forall fun y hy => h y (List.mem_cons_of_mem _ hy)
      simp [pieces, h x List.mem_cons_self, ih]

/-- …and any text is its pieces with separators between. -/
theorem intercalate_pieces (c : Char) :
    ∀ xs, [c].intercalate (pieces (· == c) xs) = xs
  | [] => rfl
  | x :: xs => by
      have ih := intercalate_pieces c xs
      by_cases hx : x = c
      · subst hx
        cases h : pieces (· == x) xs with
        | nil => exact absurd h (pieces_ne_nil _ _)
        | cons p ps =>
          rw [h] at ih
          simp [pieces, h, List.intercalate_cons_cons, ih]
      · cases h : pieces (· == c) xs with
        | nil => exact absurd h (pieces_ne_nil _ _)
        | cons p ps =>
          rw [h] at ih
          simp only [pieces, beq_iff_eq, hx, h, if_false]
          cases ps with
          | nil => simpa [List.intercalate] using ih
          | cons q qs =>
            rw [List.intercalate_cons_cons] at ih ⊢
            simp [← ih]

theorem intercalate_isPrefix (sep : List Char) :
    ∀ {xs ys : List (List Char)}, xs <+: ys → sep.intercalate xs <+: sep.intercalate ys
  | [], _, _ => List.nil_prefix
  | [x], [], h => absurd h (by simp)
  | [x], y :: ys, h => by
      obtain ⟨rfl, -⟩ := List.cons_prefix_cons.mp h
      cases ys with
      | nil => exact List.prefix_rfl
      | cons y ys =>
        rw [List.intercalate_singleton, List.intercalate_cons_cons, List.append_assoc]
        exact List.prefix_append _ _
  | x :: x' :: xs, ys, h => by
      obtain ⟨rest, rfl⟩ := h
      have tail := intercalate_isPrefix sep (List.prefix_append (x' :: xs) rest)
      rw [List.cons_append, List.cons_append, List.intercalate_cons_cons,
        List.intercalate_cons_cons, List.prefix_append_right_inj]
      exact tail

theorem map_toList_split (c : Char) (s : String) :
    (split c s).map String.toList = pieces (· == c) s.toList := by
  have undone : String.toList ∘ String.ofList = id := funext fun _ => String.toList_ofList
  rw [split, List.map_map, undone, List.map_id]

/-- **A text begins with another whose pieces its own begin with.** -/
theorem isPrefix_of_split {c : Char} {a b : String} (h : split c a <+: split c b) :
    a.toList <+: b.toList := by
  have joined := intercalate_isPrefix [c] (h.map String.toList)
  rwa [map_toList_split, map_toList_split, intercalate_pieces, intercalate_pieces] at joined

/-- **The pieces of a path, joined, are the path.** -/
theorem join_split (path : String) : join "/" (split '/' path) = path := by
  apply String.toList_injective
  rw [join, String.toList_intercalate, map_toList_split]
  exact intercalate_pieces '/' path.toList

/-- **A path below a collection has one name more.** -/
theorem split_child (collection : String) {id : String} (hid : '/' ∉ id.toList) :
    split '/' (collection ++ "/" ++ id) = split '/' collection ++ [id] := by
  have no_slash : ∀ x ∈ id.toList, (x == '/') = false := fun x hx => by
    simpa using fun h : x = '/' => hid (h ▸ hx)
  have slash : "/".toList = ['/'] := rfl
  rw [split, String.toList_append, String.toList_append, slash, List.append_assoc,
    List.singleton_append, pieces_append (by rfl), pieces_of_forall no_slash, List.map_append]
  simp [split]

/-- **A path is in the collection that all but its last segment spell**… -/
theorem parentPath_child (collection id : String) (hid : '/' ∉ id.toList) :
    parentPath (collection ++ "/" ++ id) = collection := by
  rw [parentPath, split_child collection hid, List.dropLast_concat, join_split]

/-- …and that segment is its id. -/
theorem lastSegment_child (collection : String) {id : String} (hid : '/' ∉ id.toList) :
    lastSegment (collection ++ "/" ++ id) = id := by
  rw [lastSegment, split_child collection hid, List.getLastD_eq_getLast?, List.getLast?_concat,
    Option.getD_some]

/-- **A piece has no separator in it.** -/
theorem not_isSeparator_of_mem_pieces {isSeparator : Char → Bool} :
    ∀ {cs p : List Char}, p ∈ pieces isSeparator cs → ∀ c ∈ p, isSeparator c = false
  | [], p, hp => by
      obtain rfl : p = [] := by simpa [pieces] using hp
      exact List.forall_mem_nil _
  | c :: cs, p, hp => by
      have ih {p : List Char} (hp : p ∈ pieces isSeparator cs) :=
        not_isSeparator_of_mem_pieces hp
      unfold pieces at hp
      split at hp
      · rcases List.mem_cons.mp hp with rfl | hp
        · exact List.forall_mem_nil _
        · exact ih hp
      · rename_i hc
        cases h : pieces isSeparator cs with
        | nil => exact absurd h (pieces_ne_nil _ _)
        | cons q qs =>
          rw [h] at hp ih
          rcases List.mem_cons.mp hp with rfl | hp
          · exact List.forall_mem_cons.mpr ⟨by simpa using hc, ih List.mem_cons_self⟩
          · exact ih (List.mem_cons_of_mem _ hp)

/-- **A path with a collection around it is that collection's with one more segment.**  A path
without a slash and one whose only slash is its first character have no text around them at all. -/
theorem exists_child_of_parentPath {path : String} (h : parentPath path ≠ "") :
    ∃ id : String, '/' ∉ id.toList ∧ path = parentPath path ++ "/" ++ id := by
  have cut : split '/' path ≠ [] := by simp [split, pieces_ne_nil]
  have deep : (split '/' path).dropLast ≠ [] := fun flat => h (by rw [parentPath, flat]; rfl)
  refine ⟨(split '/' path).getLast cut, ?_, ?_⟩
  · obtain ⟨piece, mem, last⟩ := List.mem_map.mp (List.getLast_mem cut)
    rw [← last, String.toList_ofList]
    intro slash
    simpa using not_isSeparator_of_mem_pieces mem '/' slash
  · calc path
        = join "/" ((split '/' path).dropLast ++ [(split '/' path).getLast cut]) := by
          rw [List.dropLast_concat_getLast, join_split]
      _ = parentPath path ++ "/" ++ (split '/' path).getLast cut := by
          rw [join, String.intercalate_append_of_ne_nil deep (List.cons_ne_nil _ _),
            String.intercalate_singleton]
          rfl

end DocDispatch.Text
