/-!
# Splitting text at a separator

Empty pieces are kept, so joining the pieces gives the text back.
-/

set_option autoImplicit false

namespace WindowsListing.Text

def pieces (sep : Char) : List Char → List (List Char)
  | [] => [[]]
  | c :: cs => if c = sep then [] :: pieces sep cs else (pieces sep cs).modifyHead (c :: ·)

theorem pieces_ne_nil (sep : Char) (cs : List Char) : pieces sep cs ≠ [] := by
  induction cs with
  | nil => simp [pieces]
  | cons c cs ih =>
    by_cases h : c = sep
    · simp [pieces, h]
    · cases hp : pieces sep cs with
      | nil => exact absurd hp ih
      | cons p ps => simp [pieces, h, hp]

theorem pieces_of_not_mem (sep : Char) (cs : List Char) (h : sep ∉ cs) :
    pieces sep cs = [cs] := by
  induction cs with
  | nil => rfl
  | cons c cs ih =>
    simp only [List.mem_cons, not_or] at h
    simp [pieces, Ne.symm h.1, ih h.2]

theorem pieces_append (sep : Char) (cs ds : List Char) :
    pieces sep (cs ++ sep :: ds) = pieces sep cs ++ pieces sep ds := by
  induction cs with
  | nil => simp [pieces]
  | cons c cs ih =>
    by_cases h : c = sep
    · simp [pieces, h, ih]
    · cases hp : pieces sep cs with
      | nil => exact absurd hp (pieces_ne_nil sep cs)
      | cons p ps => simp [pieces, h, ih, hp]

end WindowsListing.Text
