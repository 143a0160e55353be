/-!
# Text/Pieces — cutting a text at separators

`pieces` cuts at every separator and keeps empty pieces, so there is always one piece more than
there are separators; `join` is its inverse for a single separator.
-/

namespace DocDispatch.Text

/-- The pieces between separators, empty ones included. -/
def pieces (isSeparator : Char → Bool) : List Char → List (List Char)
  | [] => [[]]
  | c :: cs =>
    if isSeparator c then [] :: pieces isSeparator cs
    else match pieces isSeparator cs with
      | [] => [[c]]
      | p :: ps => (c :: p) :: ps

theorem pieces_ne_nil (isSeparator : Char → Bool) : ∀ cs, pieces isSeparator cs ≠ []
  | [] => by simp [pieces]
  | c :: cs => by
      unfold pieces
      split
      · simp
      · split <;> simp

/-- The pieces of a text between occurrences of `separator`. -/
def split (separator : Char) (text : String) : List String :=
  (pieces (· == separator) text.toList).map String.ofList

/-- The pieces with `separator` between them. -/
def join (separator : String) (texts : List String) : String := separator.intercalate texts

/-- The piece after the last `/`, the whole text if there is none. -/
def lastSegment (path : String) : String := (split '/' path).getLastD path

/-- What stands before the last `/`, nothing if there is none. -/
def parentPath (path : String) : String := join "/" (split '/' path).dropLast

end DocDispatch.Text
