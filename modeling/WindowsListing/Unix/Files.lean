import WindowsListing.Unix.Refusal
import WindowsListing.Text.Split

/-!
# Files

A tree of directories whose leaves are texts, links, devices, queues and
programs. The nodes of the tree are kept in a table, so that a node stays the
same while its name changes, and may have several names.
-/

set_option autoImplicit false

namespace WindowsListing.Unix
open WindowsListing.Text

inductive Kind where
  | directory (parent : Nat) (entries : List (String × Nat))
  | regular (text : String)
  | link (target : String)
  | queue
  | device (name : String)
  | program (name : String)

structure Node where
  kind : Kind
  mode : Nat
  changed : Nat := 0

instance : Inhabited Node := ⟨.regular "", 0, 0⟩

structure Files where
  nodes : Array Node

namespace Files

def bare : Files := ⟨#[⟨.directory 0 [], 0o755, 0⟩]⟩

def node (f : Files) (n : Nat) : Node := f.nodes.getD n default

def kind (f : Files) (n : Nat) : Kind := (f.node n).kind

def set (f : Files) (n : Nat) (node : Node) : Files := ⟨f.nodes.set! n node⟩

def setKind (f : Files) (n : Nat) (kind : Kind) : Files := f.set n { f.node n with kind }

def add (f : Files) (node : Node) : Files × Nat := (⟨f.nodes.push node⟩, f.nodes.size)

def isDirectory (f : Files) (n : Nat) : Bool :=
  match f.kind n with
  | .directory _ _ => true
  | _ => false

def isProgramOrText (f : Files) (n : Nat) : Bool :=
  match f.kind n with
  | .regular _ => true
  | .program _ => true
  | _ => false

def entries (f : Files) (n : Nat) : List (String × Nat) :=
  match f.kind n with
  | .directory _ entries => entries
  | _ => []

def parent (f : Files) (n : Nat) : Nat :=
  match f.kind n with
  | .directory parent _ => parent
  | _ => 0

def listing (f : Files) (n : Nat) : List String := ((f.entries n).map (·.1)).mergeSort

def size (f : Files) (n : Nat) : Nat :=
  match f.kind n with
  | .regular text => text.length
  | .link target => target.length
  | .directory _ _ => 4096
  | .program _ => 16384
  | _ => 0

def names (f : Files) (n : Nat) : Nat :=
  match f.kind n with
  | .directory _ entries => 2 + (entries.filter fun e => f.isDirectory e.2).length
  | _ => (f.nodes.toList.map fun node =>
      match node.kind with
      | .directory _ entries => (entries.filter fun e => e.2 = n).length
      | _ => 0).foldl (· + ·) 0

def steps (path : String) : List String := (pieces '/' path.toList).map String.ofList

def linkLimit : Nat := 40

def enter (f : Files) (here : Nat) (name : String) : Except Refusal Nat :=
  match f.kind here with
  | .directory parent entries =>
    if name = "" ∨ name = "." then .ok here
    else if name = ".." then .ok parent
    else if name.length > 255 then .error .nameTooLong
    else
      match entries.lookup name with
      | some n => .ok n
      | none => .error .missing
  | _ => .error .notDirectory

def origin (here : Nat) (target : String) : Nat :=
  if target.toList.head? = some '/' then 0 else here

/-- Goes along names. Links on the way are followed, the one at its end only
if asked. The first number bounds the steps, the second the links. -/
def walk (f : Files) (last : Bool) : Nat → Nat → Nat → List String → Except Refusal Nat
  | 0, _, _, _ => .error .tooManyLinks
  | _, _, here, [] => .ok here
  | fuel + 1, links, here, name :: names => do
    let n ← f.enter here name
    match f.kind n, names.isEmpty && !last with
    | .link target, false =>
      if links = 0 then .error .tooManyLinks
      else if target = "" then .error .missing
      else walk f last fuel (links - 1) (origin here target) (steps target ++ names)
    | _, _ => walk f last fuel links n names

def find (f : Files) (directory : Nat) (path : String) (last : Bool) : Except Refusal Nat :=
  if path = "" then .error .missing
  else if path.length ≥ 4096 then .error .nameTooLong
  else f.walk last 20000 linkLimit (origin directory path) (steps path)

def trimmedSteps (path : String) : List String :=
  ((steps path).reverse.dropWhile (· = "")).reverse

/-- The directory of a path and the last name in it, which need not be there. -/
def place (f : Files) (directory : Nat) (path : String) : Except Refusal (Nat × String) :=
  if path = "" then .error .missing
  else
    match (trimmedSteps path).reverse with
    | [] => .ok (0, ".")
    | name :: before => do
      let n ← f.walk true 20000 linkLimit (origin directory path) before.reverse
      if !f.isDirectory n then .error .notDirectory
      else if name.length > 255 then .error .nameTooLong
      else .ok (n, name)

def placeBehind (f : Files) : Nat → Nat → String → Except Refusal (Nat × String)
  | 0, _, _ => .error .tooManyLinks
  | links + 1, directory, path => do
    let (n, name) ← f.place directory path
    match (f.entries n).lookup name with
    | some e =>
      match f.kind e with
      | .link target => placeBehind f links n target
      | _ => .ok (n, name)
    | none => .ok (n, name)

def way (f : Files) : Nat → Nat → List String
  | 0, _ => []
  | fuel + 1, n =>
    if n = 0 then []
    else
      let parent := f.parent n
      match (f.entries parent).find? fun e => e.2 = n with
      | some e => way f fuel parent ++ [e.1]
      | none => []

def pathOf (f : Files) (n : Nat) : String :=
  "/" ++ "/".intercalate (f.way f.nodes.size n)

def setEntries (f : Files) (n : Nat) (entries : List (String × Nat)) (time : Nat) : Files :=
  match f.kind n with
  | .directory parent _ =>
    f.set n { f.node n with kind := .directory parent entries, changed := time }
  | _ => f

def enroll (f : Files) (directory : Nat) (name : String) (n : Nat) (time : Nat) : Files :=
  let f := f.setEntries directory ((f.entries directory).filter (·.1 ≠ name) ++ [(name, n)]) time
  match f.kind n with
  | .directory _ entries => f.setKind n (.directory directory entries)
  | _ => f

def strike (f : Files) (directory : Nat) (name : String) (time : Nat) : Files :=
  f.setEntries directory ((f.entries directory).filter (·.1 ≠ name)) time

def create (f : Files) (directory : Nat) (path : String) (kind : Kind) (mode time : Nat) :
    Except Refusal (Files × Nat) := do
  let (parent, name) ← f.place directory path
  if name = "." ∨ name = ".." then .error .present
  else if ((f.entries parent).lookup name).isSome then .error .present
  else
    let (f, n) := f.add ⟨kind, mode, time⟩
    return (f.enroll parent name n time, n)

def setText (f : Files) (n : Nat) (text : String) (time : Nat) : Files :=
  f.set n { f.node n with kind := .regular text, changed := time }

/-- A text with another one written over it from a place on. Zeros fill a gap. -/
def overwritten (text : String) (offset : Nat) (new : String) : String :=
  if offset = text.length then text ++ new
  else
    let cs := text.toList
    let gap := List.replicate (offset - cs.length) (Char.ofNat 0)
    String.ofList (cs.take offset ++ gap ++ new.toList ++ cs.drop (offset + new.length))

def unlink (f : Files) (directory : Nat) (path : String) (time : Nat) : Except Refusal Files := do
  let n ← f.find directory path false
  if f.isDirectory n then .error .isDirectory
  else
    let (parent, name) ← f.place directory path
    return f.strike parent name time

def removeDirectory (f : Files) (directory : Nat) (path : String) (time : Nat) :
    Except Refusal Files := do
  let n ← f.find directory path false
  if !f.isDirectory n then .error .notDirectory
  else if (trimmedSteps path).getLast? = some "." then .error .invalid
  else if f.entries n ≠ [] ∨ n = 0 then .error .notEmpty
  else
    let (parent, name) ← f.place directory path
    return f.strike parent name time

def isAbove (f : Files) (n : Nat) : Nat → Nat → Bool
  | 0, _ => false
  | fuel + 1, directory =>
    if n = directory then true
    else if directory = 0 then false
    else isAbove f n fuel (f.parent directory)

def rename (f : Files) (directory : Nat) (old new : String) (time : Nat) :
    Except Refusal Files := do
  let n ← f.find directory old false
  let (fromDirectory, fromName) ← f.place directory old
  let (toDirectory, toName) ← f.place directory new
  let moved := (f.strike fromDirectory fromName time).enroll toDirectory toName n time
  if f.isDirectory n && f.isAbove n f.nodes.size toDirectory then .error .invalid
  else
    match (f.entries toDirectory).lookup toName with
    | none => return moved
    | some old =>
      if old = n then return f
      else if f.isDirectory n && !f.isDirectory old then .error .notDirectory
      else if !f.isDirectory n && f.isDirectory old then .error .isDirectory
      else if f.entries old ≠ [] then .error .notEmpty
      else return moved

def linkTo (f : Files) (directory : Nat) (old new : String) (follow : Bool) (time : Nat) :
    Except Refusal Files := do
  let n ← f.find directory old follow
  if f.isDirectory n then .error .notPermitted
  else
    let (parent, name) ← f.place directory new
    if ((f.entries parent).lookup name).isSome then .error .present
    else return f.enroll parent name n time

def canExecute (f : Files) (n : Nat) : Bool :=
  f.isDirectory n || (f.node n).mode &&& 0o111 ≠ 0

def executable (f : Files) (directory : Nat) (path : String) : Except Refusal Nat := do
  let n ← f.find directory path true
  if f.isProgramOrText n && f.canExecute n then return n else .error .denied

def leadsNowhere (e : Refusal) : Bool := e = .missing || e = .notDirectory

/-- Tries one path after the other. The first refusal of what is there
outweighs the paths that lead nowhere. -/
def firstExecutable (f : Files) (directory : Nat) : Refusal → List String → Except Refusal Nat
  | refusal, [] => .error refusal
  | refusal, path :: paths =>
    match f.executable directory path with
    | .ok n => .ok n
    | .error e =>
      firstExecutable f directory (if leadsNowhere refusal then e else refusal) paths

/-- The path of a name in a directory, where no directory means the one at hand. -/
def inDirectory (directory name : String) : String :=
  if directory = "" then name else directory ++ "/" ++ name

/-- The file of a name: by its path if it holds a slash, else the first in the
directories that are searched. -/
def locate (f : Files) (directory : Nat) (search : List String) (name : String) :
    Except Refusal Nat :=
  if '/' ∈ name.toList then f.executable directory name
  else f.firstExecutable directory .missing (search.map fun d => inDirectory d name)

end Files

end WindowsListing.Unix
