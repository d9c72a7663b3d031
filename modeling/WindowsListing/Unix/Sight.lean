import WindowsListing.Unix.Calls

/-!
# What is seen of files

What a process can tell of a file without opening it. A file that stands for
a descriptor looks like what that leads to.
-/

set_option autoImplicit false

namespace WindowsListing.Unix

structure Sight where
  sort : Char
  mode : Nat
  size : Nat
  changed : Nat
  object : Object

namespace Sight

def ofNode (f : Files) (n : Nat) : Sight :=
  let sort := match f.kind n with
    | .directory _ _ => 'd'
    | .regular _ => '-'
    | .program _ => '-'
    | .link _ => 'l'
    | .queue => 'p'
    | .device _ => 'c'
  { sort, mode := (f.node n).mode, size := f.size n, changed := (f.node n).changed
    object := .node n }

def ofObject (f : Files) : Object → Sight
  | .node n => ofNode f n
  | .channel c => { sort := 'p', mode := 0o600, size := 0, changed := 0, object := .channel c }
  | .device name =>
    { sort := 'c', mode := 0o666, size := 0, changed := 0, object := .device name }
  | .elsewhere => { sort := '-', mode := 0o600, size := 0, changed := 0, object := .elsewhere }

end Sight

namespace World

/-- What is seen at a path. A link at its end is followed if asked. -/
def look (w : World) (path : String) (last : Bool) : Except Refusal Sight := do
  let n ← w.find path last
  match w.files.kind n with
  | .device name =>
    match (ownDescriptor? name).bind w.description? with
    | some (_, d) => return Sight.ofObject w.files d.object
    | none => return Sight.ofNode w.files n
  | _ => return Sight.ofNode w.files n

def lookAt? (w : World) (descriptor : Nat) : Option Sight :=
  (w.description? descriptor).map fun d => Sight.ofObject w.files d.2.object

end World

end WindowsListing.Unix
