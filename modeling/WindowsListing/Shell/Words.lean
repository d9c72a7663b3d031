/-!
# The words of a command line

A shell takes a line apart at the spaces that stand outside quotation marks,
and drops the marks.
-/

set_option autoImplicit false

namespace WindowsListing.Shell

def complete : Option (List Char) → List (List Char)
  | some word => [word]
  | none => []

/-- The words of a line, read on from a word begun, inside quotation marks or not. -/
def wordsFrom (inside : Bool) (begun : Option (List Char)) : List Char → List (List Char)
  | [] => complete begun
  | c :: cs =>
    if c = '"' then wordsFrom (!inside) (some (begun.getD [])) cs
    else if c = ' ' ∧ inside = false then complete begun ++ wordsFrom false none cs
    else wordsFrom inside (some (begun.getD [] ++ [c])) cs

def words (line : String) : List String := (wordsFrom false none line.toList).map String.ofList

/-- The characters that stand outside quotation marks, read on from inside them or not. -/
def unquotedFrom (inside : Bool) : List Char → List Char
  | [] => []
  | c :: cs =>
    if c = '"' then unquotedFrom (!inside) cs
    else if inside then unquotedFrom inside cs
    else c :: unquotedFrom inside cs

def unquoted (line : String) : List Char := unquotedFrom false line.toList

end WindowsListing.Shell
