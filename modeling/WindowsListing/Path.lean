import WindowsListing.Text.Split

/-!
# Windows paths

A path as it is written into a command line, and the name by which a program
was called, taken out of its path.
-/

set_option autoImplicit false

namespace WindowsListing.Path
open WindowsListing.Text

def backslashed (cs : List Char) : List Char := cs.map fun c => if c = '/' then '\\' else c

def toWindows (path : String) : String := String.ofList (backslashed path.toList)

theorem toList_toWindows (path : String) :
    (toWindows path).toList = backslashed path.toList := by
  simp [toWindows]

theorem slash_not_mem_backslashed (cs : List Char) : '/' ∉ backslashed cs := by
  induction cs with
  | nil => simp [backslashed]
  | cons c cs ih =>
    by_cases h : c = '/'
    · simpa [backslashed, h] using ih
    · simpa [backslashed, h, Ne.symm h] using ih

theorem backslashed_of_not_mem (cs : List Char) (h : '/' ∉ cs) : backslashed cs = cs := by
  induction cs with
  | nil => rfl
  | cons c cs ih =>
    simp only [List.mem_cons, not_or] at h
    simpa [backslashed, Ne.symm h.1] using ih h.2

theorem mem_backslashed (c : Char) (cs : List Char) (hs : c ≠ '/') (hb : c ≠ '\\') :
    c ∈ backslashed cs ↔ c ∈ cs := by
  constructor
  · intro h
    obtain ⟨d, hd, he⟩ := List.mem_map.mp h
    by_cases hslash : d = '/'
    · rw [if_pos hslash] at he
      exact absurd he.symm hb
    · rw [if_neg hslash] at he
      exact he ▸ hd
  · intro h
    exact List.mem_map.mpr ⟨c, h, if_neg hs⟩

theorem mem_toWindows (c : Char) (path : String) (hs : c ≠ '/') (hb : c ≠ '\\') :
    c ∈ (toWindows path).toList ↔ c ∈ path.toList := by
  rw [toList_toWindows, mem_backslashed c _ hs hb]

/-- Whether a text begins and ends with a quotation mark, perhaps the same one. -/
def Enclosed (cs : List Char) : Prop := cs.head? = some '"' ∧ cs.getLast? = some '"'

instance (cs : List Char) : Decidable (Enclosed cs) := inferInstanceAs (Decidable (_ ∧ _))

/-- Puts a text that holds a space between quotation marks, unless it begins
and ends with one already. -/
def enclose (text : String) : String :=
  if ' ' ∈ text.toList ∧ ¬ Enclosed text.toList then "\"" ++ text ++ "\"" else text

theorem enclose_of_no_space (text : String) (h : ' ' ∉ text.toList) : enclose text = text := by
  simp [enclose, h]

/-- A space inside the result stands between two quotation marks at its ends. -/
theorem enclosed_enclose (text : String) (h : ' ' ∈ (enclose text).toList) :
    Enclosed (enclose text).toList := by
  by_cases he : ' ' ∈ text.toList ∧ ¬ Enclosed text.toList
  · rw [enclose, if_pos he]
    simp [Enclosed, List.getLast?_cons]
  · rw [enclose, if_neg he] at h ⊢
    exact Decidable.of_not_not fun hn => he ⟨h, hn⟩

theorem mem_enclose (c : Char) (text : String) (hq : c ≠ '"') :
    c ∈ (enclose text).toList ↔ c ∈ text.toList := by
  by_cases he : ' ' ∈ text.toList ∧ ¬ Enclosed text.toList
  · rw [enclose, if_pos he]
    simp [hq]
  · rw [enclose, if_neg he]

def argument (path : String) : String := enclose (toWindows path)

/-- An argument has the characters of its path, but for separators and quotation marks. -/
theorem mem_argument (c : Char) (path : String) (hs : c ≠ '/') (hb : c ≠ '\\') (hq : c ≠ '"') :
    c ∈ (argument path).toList ↔ c ∈ path.toList := by
  rw [argument, mem_enclose c _ hq, mem_toWindows c path hs hb]

/-- The text without the marker `\\?\` of an extended path. The marked form of
a network path becomes the plain one. -/
def unextended : List Char → List Char
  | '\\' :: '\\' :: '?' :: '\\' :: 'U' :: 'N' :: 'C' :: '\\' :: cs => '\\' :: '\\' :: cs
  | '\\' :: '\\' :: '?' :: '\\' :: cs => cs
  | cs => cs

/-- What follows host and share of a network path `\\host\share`. Neither of
the two may be empty, unless the text ends where the share would begin. -/
def afterShare? : List Char → Option (List Char)
  | '\\' :: '\\' :: cs =>
    match cs.dropWhile (· ≠ '\\') with
    | '\\' :: share =>
      if cs.head? = some '\\' ∨ share.head? = some '\\' then none
      else some ((share.dropWhile (· ≠ '\\')).drop 1)
    | _ => none
  | _ => none

def afterDrive : List Char → List Char
  | c :: ':' :: cs => if c.isAlpha then cs else c :: ':' :: cs
  | cs => cs

/-- What follows the drive, or the host and share, of a path. -/
def relative (cs : List Char) : List Char :=
  let plain := unextended cs
  (afterShare? plain).getD (afterDrive plain)

/-- The last component that is neither empty nor a lone dot, if there is any. -/
def baseName (cs : List Char) : List Char :=
  (((pieces '\\' (relative (backslashed cs))).filter fun p => p ≠ [] ∧ p ≠ ['.']).getLast?).getD []

/-- A name without its extension. The dot of an extension has text on both sides. -/
def withoutExtension (name : List Char) : List Char :=
  let extension := name.reverse.takeWhile (· ≠ '.')
  match name.reverse.dropWhile (· ≠ '.') with
  | _ :: stem => if stem ≠ [] ∧ extension ≠ [] then stem.reverse else name
  | [] => name

def stem (path : String) : String := String.ofList (withoutExtension (baseName path.toList))

end WindowsListing.Path
