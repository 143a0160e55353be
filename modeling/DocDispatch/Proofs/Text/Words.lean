import DocDispatch.Text.Blank
import DocDispatch.Proofs.Text.Path

/-!
# Proofs/Text/Words — what the words of a text are

    ␣ ␣ age ␣ >= ␣ ␣ 21
        age   >=     21

A text is blanks and words by turns, with at least one blank between two words (`Spaced`).  There is
one way only to read it so, and the words found are those (`words_eq_iff`).
-/

namespace DocDispatch.Text

/-- **At least one character, and none of them blank.** -/
structure IsWord (w : List Char) : Prop where
  ne_nil : w ≠ []
  isBlank : ∀ c ∈ w, isBlank c = false

instance (w : List Char) : Decidable (IsWord w) :=
  decidable_of_iff (w ≠ [] ∧ w.all fun c => !isBlank c) <| by
    rw [List.all_eq_true]
    simp only [Bool.not_eq_true']
    exact ⟨fun h => ⟨h.1, h.2⟩, fun h => ⟨h.1, h.2⟩⟩

/-- **The visible ASCII characters are no blanks.** -/
theorem isBlank_of_visible {c : Char} (low : 32 < c.toNat) (high : c.toNat < 127) :
    isBlank c = false := by
  simp [isBlank]
  omega

/-- **A text with these words**: blanks, a word, and from a blank on the rest; or blanks alone. -/
inductive Spaced : List Char → List (List Char) → Prop
  | blanks {bs : List Char} (blank : ∀ c ∈ bs, isBlank c = true) : Spaced bs []
  | word (bs : List Char) {w cs : List Char} {ws : List (List Char)}
      (blank : ∀ c ∈ bs, isBlank c = true) (isWord : IsWord w)
      (apart : ∀ c ∈ cs.head?, isBlank c = true) (rest : Spaced cs ws) :
      Spaced (bs ++ w ++ cs) (w :: ws)

/-- **What blanks separate are words.** -/
theorem Spaced.isWord {cs : List Char} {ws : List (List Char)} (h : Spaced cs ws) :
    ∀ w ∈ ws, IsWord w := by
  induction h with
  | blanks => simp
  | word _ _ isWord _ _ ih => exact List.forall_mem_cons.mpr ⟨isWord, ih⟩

theorem words_nil : words [] = [] := rfl

/-- A blank in front changes no word… -/
theorem words_cons_of_blank {c : Char} (h : isBlank c = true) (cs : List Char) :
    words (c :: cs) = words cs := by
  simp [words, pieces, h]

/-- …nor do several. -/
theorem words_append_of_blanks : ∀ {bs : List Char}, (∀ c ∈ bs, isBlank c = true) →
    ∀ cs : List Char, words (bs ++ cs) = words cs
  | [], _, _ => rfl
  | c :: bs, h, cs => by
      rw [List.cons_append, words_cons_of_blank (h c List.mem_cons_self),
        words_append_of_blanks fun d hd => h d (List.mem_cons_of_mem _ hd)]

/-- A word ends at the next blank. -/
theorem words_append_of_isWord {w : List Char} (isWord : IsWord w) :
    ∀ {cs : List Char}, (∀ c ∈ cs.head?, isBlank c = true) → words (w ++ cs) = w :: words cs
  | [], _ => by
      rw [List.append_nil, words, pieces_of_forall isWord.isBlank]
      simp [isWord.ne_nil, words_nil]
  | c :: cs, apart => by
      have blank : isBlank c = true := apart c rfl
      rw [words_cons_of_blank blank, words, pieces_append blank, pieces_of_forall isWord.isBlank]
      simp [isWord.ne_nil, words]

/-- **The words of a text are those that blanks separate in it**… -/
theorem Spaced.words_eq {cs : List Char} {ws : List (List Char)} (h : Spaced cs ws) :
    words cs = ws := by
  induction h with
  | @blanks bs blank => rw [← List.append_nil bs, words_append_of_blanks blank, words_nil]
  | word _ blank isWord apart _ ih =>
    rw [List.append_assoc, words_append_of_blanks blank, words_append_of_isWord isWord apart, ih]

theorem Spaced.cons_blank {c : Char} (blank : isBlank c = true) {cs : List Char}
    {ws : List (List Char)} (h : Spaced cs ws) : Spaced (c :: cs) ws := by
  cases h with
  | blanks blanks => exact .blanks (List.forall_mem_cons.mpr ⟨blank, blanks⟩)
  | word bs blanks isWord apart rest =>
    exact .word (c :: bs) (List.forall_mem_cons.mpr ⟨blank, blanks⟩) isWord apart rest

/-- Another character either extends the first word or is a word before it. -/
theorem Spaced.exists_cons {c : Char} (letter : isBlank c = false) {cs : List Char}
    {ws : List (List Char)} (h : Spaced cs ws) : ∃ ws, Spaced (c :: cs) ws := by
  have single : IsWord [c] := ⟨List.cons_ne_nil _ _, by simpa using letter⟩
  have before (apart : ∀ d ∈ cs.head?, isBlank d = true) : ∃ ws, Spaced (c :: cs) ws :=
    ⟨_, .word [] (by simp) single apart h⟩
  cases h with
  | blanks blanks => exact before fun d hd => blanks d (List.mem_of_mem_head? hd)
  | @word bs w _ _ blanks isWord apart rest =>
    cases bs with
    | nil =>
      have longer : IsWord (c :: w) :=
        ⟨List.cons_ne_nil _ _, List.forall_mem_cons.mpr ⟨letter, isWord.isBlank⟩⟩
      exact ⟨_, .word [] (by simp) longer apart rest⟩
    | cons b bs =>
      refine before fun d hd => ?_
      obtain rfl : b = d := by simpa using hd
      exact blanks b List.mem_cons_self

/-- …and there are such for any text. -/
theorem exists_spaced : ∀ cs : List Char, ∃ ws, Spaced cs ws
  | [] => ⟨[], .blanks (by simp)⟩
  | c :: cs => by
      obtain ⟨ws, h⟩ := exists_spaced cs
      cases blank : isBlank c with
      | true => exact ⟨ws, h.cons_blank blank⟩
      | false => exact h.exists_cons blank

/-- **The words of a text are the words it is made of.** -/
theorem words_eq_iff {cs : List Char} {ws : List (List Char)} : words cs = ws ↔ Spaced cs ws := by
  refine ⟨?_, Spaced.words_eq⟩
  rintro rfl
  obtain ⟨ws, h⟩ := exists_spaced cs
  exact h.words_eq ▸ h

/-- **Words with one space between them are just those words.** -/
theorem spaced_intercalate : ∀ {ws : List (List Char)}, (∀ w ∈ ws, IsWord w) →
    Spaced ([' '].intercalate ws) ws
  | [], _ => .blanks (by simp)
  | [w], h => by
      have nothing : Spaced [] [] := .blanks (by simp)
      simpa using Spaced.word [] (by simp) (h w List.mem_cons_self) (by simp) nothing
  | w :: v :: ws, h => by
      have rest := spaced_intercalate fun u hu => h u (List.mem_cons_of_mem w hu)
      have space : isBlank ' ' = true := rfl
      simpa [List.intercalate_cons_cons] using
        Spaced.word [] (by simp) (h w List.mem_cons_self) (by simp [space]) (rest.cons_blank space)

end DocDispatch.Text
