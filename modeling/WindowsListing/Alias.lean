import WindowsListing.Path

/-!
# Aliases

A program called under the name of an alias behaves as if some options stood
before its arguments. The directory, the extension and the case of the name
do not matter.
-/

set_option autoImplicit false

namespace WindowsListing

inductive Alias where
  | ll
  | la
  | l
  deriving DecidableEq

/-- Upper case matters in the letters of the alias names alone, which are ASCII. -/
def Alias.ofStem? (stem : String) : Option Alias :=
  match stem.toList.map Char.toLower with
  | ['l', 'l'] => some .ll
  | ['l', 'a'] => some .la
  | ['l'] => some .l
  | _ => none

def Alias.ofProgram? (program : String) : Option Alias := Alias.ofStem? (Path.stem program)

def Alias.options : Alias → List String
  | .ll => ["-l"]
  | .la => ["-la"]
  | .l => ["-F"]

/-- The options implied by the name of a program, if it is known. -/
def impliedOptions (program : Option String) : List String :=
  match program.bind Alias.ofProgram? with
  | some a => a.options
  | none => []

end WindowsListing
