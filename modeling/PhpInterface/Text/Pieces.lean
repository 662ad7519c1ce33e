/-!
# Pieces of a text

A text with a separator is a list of pieces.  `pieces` cuts at every occurrence of the separator, so
there is always one piece more than there are separators, and `glue` puts the pieces together again.
-/

namespace PhpInterface.Text

/-- The pieces of a text between the occurrences of a separator. -/
def pieces (sep : Char) : List Char → List (List Char)
  | [] => [[]]
  | c :: rest =>
    if c = sep then [] :: pieces sep rest
    else
      match pieces sep rest with
      | [] => [[c]]
      | piece :: more => (c :: piece) :: more

/-- The pieces in one text, with the separator between them. -/
def glue (sep : Char) : List (List Char) → List Char
  | [] => []
  | [piece] => piece
  | piece :: more => piece ++ sep :: glue sep more

theorem pieces_ne_nil (sep : Char) (s : List Char) : pieces sep s ≠ [] := by
  cases s with
  | nil => simp [pieces]
  | cons c rest =>
    simp only [pieces]
    split
    · simp
    · split <;> simp

theorem length_pieces (sep : Char) (s : List Char) : (pieces sep s).length = s.count sep + 1 := by
  induction s with
  | nil => rfl
  | cons c rest ih =>
    rw [pieces, List.count_cons]
    split
    · next hc => simp [hc, ih]
    · next hc =>
      obtain ⟨piece, more, h⟩ := List.exists_cons_of_ne_nil (pieces_ne_nil sep rest)
      rw [h] at ih ⊢
      simpa [hc] using ih

/-- Cutting loses nothing. -/
@[simp] theorem glue_pieces (sep : Char) (s : List Char) : glue sep (pieces sep s) = s := by
  induction s with
  | nil => rfl
  | cons c rest ih =>
    obtain ⟨piece, more, h⟩ := List.exists_cons_of_ne_nil (pieces_ne_nil sep rest)
    simp only [pieces, h] at *
    split
    · next hc => simp [glue, hc, ih]
    · cases more with
      | nil => simpa [glue] using ih
      | cons next tail => simpa [glue] using ih

/-- A text cut at the first occurrence of a separator, which is in neither part. -/
def cut? (sep : Char) : List Char → Option (List Char × List Char)
  | [] => none
  | c :: rest => if c = sep then some ([], rest) else (cut? sep rest).map fun (a, b) => (c :: a, b)

/-- The part of a text after the last occurrence of a separator; all of it, if there is none. -/
def lastPiece (sep : Char) (s : List Char) : List Char :=
  (pieces sep s).getLastD []

/-- The texts in one, with a separator between them. -/
def joinWith (sep : String) : List String → String
  | [] => ""
  | [text] => text
  | text :: more => text ++ sep ++ joinWith sep more

end PhpInterface.Text
