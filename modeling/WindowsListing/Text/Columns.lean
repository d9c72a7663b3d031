/-!
# Console columns

How a console shows a text: five control characters are dropped, and a tab
moves to the next multiple of eight columns, counted from the start of the line.
-/

set_option autoImplicit false

namespace WindowsListing.Text

/-- Bell, backspace, vertical tab, form feed and carriage return. -/
def isDropped (c : Char) : Bool := [7, 8, 11, 12, 13].contains c.toNat

def tabWidth : Nat := 8

/-- The text as shown from the given column on, one column a character. -/
def shown : Nat → List Char → List Char
  | _, [] => []
  | column, c :: cs =>
    if c = '\n' then '\n' :: shown 0 cs
    else if c = '\t' then
      let gap := tabWidth - column % tabWidth
      List.replicate gap ' ' ++ shown (column + gap) cs
    else if isDropped c then shown column cs
    else c :: shown (column + 1) cs

def columnAfter : Nat → List Char → Nat
  | column, [] => column
  | column, c :: cs =>
    if c = '\n' then columnAfter 0 cs
    else if c = '\t' then columnAfter (column + (tabWidth - column % tabWidth)) cs
    else if isDropped c then columnAfter column cs
    else columnAfter (column + 1) cs

/-- A text without tabs, line ends and dropped characters is shown as it is. -/
theorem shown_plain (column : Nat) (cs : List Char)
    (h : ∀ c ∈ cs, c ≠ '\n' ∧ c ≠ '\t' ∧ isDropped c = false) : shown column cs = cs := by
  induction cs generalizing column with
  | nil => rfl
  | cons c cs ih =>
    obtain ⟨hn, ht, hd⟩ := h c (by simp)
    simp [shown, hn, ht, hd, ih _ fun d hd => h d (by simp [hd])]

theorem newline_not_mem_shown (column : Nat) (cs : List Char) (h : '\n' ∉ cs) :
    '\n' ∉ shown column cs := by
  induction cs generalizing column with
  | nil => simp [shown]
  | cons c cs ih =>
    simp only [List.mem_cons, not_or] at h
    by_cases ht : c = '\t'
    · simp [shown, ht, ih _ h.2]
    · by_cases hd : isDropped c
      · simp [shown, Ne.symm h.1, ht, hd, ih _ h.2]
      · simp [shown, h.1, Ne.symm h.1, ht, hd, ih _ h.2]

end WindowsListing.Text
