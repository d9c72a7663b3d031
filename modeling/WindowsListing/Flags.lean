/-!
# Listing flags

What a listing can be asked to show, and in which order. The flags say
nothing about how a shell is made to do it.
-/

set_option autoImplicit false

namespace WindowsListing

inductive SortKey where
  | name
  | time
  | size
  deriving DecidableEq

inductive ColorChoice where
  | auto
  | always
  | never
  deriving DecidableEq

/-- The order by name is the one that need not be asked for. -/
def SortKey.word : SortKey → String
  | .name => "none"
  | .time => "time"
  | .size => "size"

def ColorChoice.word : ColorChoice → String
  | .auto => "auto"
  | .always => "always"
  | .never => "never"

structure Flags where
  long : Bool := false
  all : Bool := false
  almostAll : Bool := false
  humanReadable : Bool := false
  onePerLine : Bool := false
  recursive : Bool := false
  directory : Bool := false
  classify : Bool := false
  showSize : Bool := false
  sortBy : SortKey := .name
  reverse : Bool := false
  unsorted : Bool := false
  color : ColorChoice := .auto
  deriving DecidableEq

/-- Hidden entries are shown under either of the two flags that ask for them. -/
def Flags.hidden (f : Flags) : Bool := f.all || f.almostAll

end WindowsListing
