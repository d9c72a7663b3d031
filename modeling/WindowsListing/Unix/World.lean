import WindowsListing.Unix.Files

/-!
# The world of processes

What the processes of a host have in common: the files, the channels between
them, and a record of each of them with the signals sent to it.
-/

set_option autoImplicit false

namespace WindowsListing.Unix

inductive Ending where
  | exited (status : Nat)
  | killed (signal : Nat)
  deriving DecidableEq

inductive Channel where
  | pipe (number : Nat)
  | queue (node : Nat)
  deriving DecidableEq

inductive Object where
  | node (n : Nat)
  | channel (c : Channel)
  | device (name : String)
  | elsewhere
  deriving DecidableEq

structure Description where
  object : Object
  offset : Nat := 0
  reads : Bool := false
  writes : Bool := false
  appends : Bool := false
  deriving DecidableEq

/-- A descriptor of a process. One that is private is not handed on to another program. -/
structure Handle where
  description : Nat
  isPrivate : Bool := false
  deriving DecidableEq

structure ProcessRecord where
  parent : Nat
  group : Nat
  handles : List (Nat × Handle) := []
  directory : Nat := 0
  mask : Nat := 0o022
  priority : Nat := 0
  ignored : List Nat := []
  caught : List Nat := []
  pending : List Nat := []
  stopped : Bool := false
  ending : Option Ending := none
  last : Nat := 0
  deriving DecidableEq

structure World where
  files : Files
  descriptions : List (Nat × Description) := []
  channels : List (Channel × String) := []
  records : List (Nat × ProcessRecord) := []
  clock : Nat := 0
  self : Nat := 0
  fresh : Nat := 0

def setEntry {α β : Type} [BEq α] (key : α) (value : β) (entries : List (α × β)) :
    List (α × β) :=
  match entries with
  | [] => [(key, value)]
  | e :: entries => if e.1 == key then (key, value) :: entries else e :: setEntry key value entries

namespace World

def record? (w : World) (process : Nat) : Option ProcessRecord := w.records.lookup process

def mine (w : World) : ProcessRecord := (w.record? w.self).getD { parent := 0, group := 0 }

def setRecord (w : World) (process : Nat) (r : ProcessRecord) : World :=
  { w with records := setEntry process r w.records }

def setMine (w : World) (r : ProcessRecord) : World := w.setRecord w.self r

def lives (w : World) (process : Nat) : Bool :=
  (w.record? process).any fun r => r.ending.isNone

def number (w : World) : Nat × World := (w.fresh, { w with fresh := w.fresh + 1 })

def handles (w : World) : List (Nat × Handle) := w.records.flatMap fun r => r.2.handles

def isHeld (w : World) (description : Nat) : Bool :=
  w.handles.any fun h => h.2.description = description

/-- Forgets the descriptions that nobody holds, and the channels that nothing leads to. -/
def sweep (w : World) : World :=
  let descriptions := w.descriptions.filter fun d => w.isHeld d.1
  { w with
    descriptions
    channels := w.channels.filter fun c =>
      descriptions.any fun d => d.2.object = .channel c.1 }

def description? (w : World) (descriptor : Nat) : Option (Nat × Description) :=
  (w.mine.handles.lookup descriptor).bind fun h =>
    (w.descriptions.lookup h.description).map fun d => (h.description, d)

def setDescription (w : World) (number : Nat) (d : Description) : World :=
  { w with descriptions := setEntry number d w.descriptions }

def reaches (w : World) (c : Channel) (how : Description → Bool) : Bool :=
  w.descriptions.any fun d => d.2.object = .channel c && how d.2

def content (w : World) (c : Channel) : String := (w.channels.lookup c).getD ""

def setContent (w : World) (c : Channel) (text : String) : World :=
  { w with channels := setEntry c text w.channels }

def freeDescriptor (r : ProcessRecord) (least : Nat) : Nat :=
  ((List.range (r.handles.length + 1)).map (· + least)).find?
    (fun n => (r.handles.lookup n).isNone) |>.getD least

def attach (w : World) (descriptor : Nat) (d : Description) (isPrivate : Bool) : World :=
  let (n, w) := w.number
  let w := w.setDescription n d
  let r := w.mine
  w.setMine { r with handles := setEntry descriptor ⟨n, isPrivate⟩ r.handles }

def detach (w : World) (descriptor : Nat) : World :=
  let r := w.mine
  (w.setMine { r with handles := r.handles.filter (·.1 ≠ descriptor) }).sweep

def stopping : List Nat := [19, 20, 21, 22]

def survived : List Nat := [17, 18, 23, 28]

def absolute : List Nat := [9, 19]

/-- Notes that a process has ended. Its descriptors are free, and its children
are nobody's. A process that is nobody's child is forgotten. -/
def bury (w : World) (process : Nat) (ending : Ending) : World :=
  match w.record? process with
  | none => w
  | some r =>
    let cared := (w.record? r.parent).any fun p => p.ending.isNone
    let records := w.records.filterMap fun (n, r) =>
      if n = process then
        if cared then
          some (n, { r with
            ending := some ending, last := w.clock, handles := [], pending := []
            stopped := false })
        else none
      else if r.parent = process then
        if r.ending.isSome then none else some (n, { r with parent := 0 })
      else if n = r.parent then some (n, r)
      else some (n, r)
    let tell := fun (w : World) => match w.record? r.parent with
      | some p =>
        if p.caught.contains 17 && !p.pending.contains 17 then
          w.setRecord r.parent { p with pending := p.pending ++ [17] }
        else w
      | none => w
    tell { w with records }.sweep

def signal (w : World) (process signal : Nat) : World :=
  match w.record? process with
  | none => w
  | some r =>
    let r := if signal = 18 || signal = 9 then { r with stopped := false } else r
    let w := w.setRecord process r
    if r.ending.isSome || signal = 0 then w
    else if !absolute.contains signal && r.ignored.contains signal then w
    else if !absolute.contains signal && r.caught.contains signal then
      if r.pending.contains signal then w
      else w.setRecord process { r with pending := r.pending ++ [signal] }
    else if survived.contains signal then w
    else if stopping.contains signal then w.setRecord process { r with stopped := true }
    else w.bury process (.killed signal)

/-- A child of the process whose turn it is that had ended up to a moment, and
the world without it. -/
def reap (w : World) (which : Nat → Bool) (moment : Nat) : Option (Nat × Ending × World) :=
  (w.records.find? fun r =>
    r.2.parent = w.self && r.2.ending.isSome && r.2.last ≤ moment && which r.1).bind
    fun (n, r) => r.ending.map fun e =>
      (n, e, { w with records := w.records.filter (·.1 ≠ n) })

def hasChild (w : World) (which : Nat → Bool) : Bool :=
  w.records.any fun r => r.2.parent = w.self && which r.1

end World

end WindowsListing.Unix
