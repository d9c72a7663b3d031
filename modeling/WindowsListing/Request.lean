import WindowsListing.Flags

/-!
# Requests

A request is all that one command line asks for: flags, paths, and what is to
be done with the native command for them.
-/

set_option autoImplicit false

namespace WindowsListing

inductive Mode where
  | rosetta
  | help
  | version
  | tree
  | explain
  | native
  | teach
  | execute
  deriving DecidableEq

def Mode.name : Mode → String
  | .rosetta => "rosetta"
  | .help => "help"
  | .version => "version"
  | .tree => "tree"
  | .explain => "explain"
  | .native => "native"
  | .teach => "teach"
  | .execute => "execute"

structure Request where
  flags : Flags := {}
  paths : List String := ["."]
  explain : Bool := false
  teach : Bool := false
  native : Bool := false
  rosetta : Bool := false
  tree : Bool := false
  help : Bool := false
  version : Bool := false
  powershell : Bool := false
  cmd : Bool := false
  verbose : Bool := false
  deriving DecidableEq

/-- The mode a request runs in. Of several that are asked for the first in
this order wins, and plain execution is what remains. -/
def Request.mode (r : Request) : Mode :=
  if r.rosetta then .rosetta
  else if r.help then .help
  else if r.version then .version
  else if r.tree then .tree
  else if r.explain then .explain
  else if r.native then .native
  else if r.teach then .teach
  else .execute

end WindowsListing
