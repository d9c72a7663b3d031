import WindowsListing.Unix.Process

/-!
# Calls

What a process may ask of the system: to open, read and write files, to wait
for its children, to send signals, and to become another program.
-/

set_option autoImplicit false

namespace WindowsListing.Unix

structure Access where
  reads : Bool := false
  writes : Bool := false
  appends : Bool := false
  creates : Bool := false
  truncates : Bool := false
  exclusive : Bool := false
  deriving DecidableEq

namespace Access

def input : Access := { reads := true }

def output : Access := { writes := true, creates := true, truncates := true }

def append : Access := { writes := true, creates := true, appends := true }

def both : Access := { reads := true, writes := true, creates := true }

end Access

namespace World

def directory (w : World) : Nat := w.mine.directory

/-- The descriptor that a file stands for, if it stands for one of the process
that looks at it. -/
def ownDescriptor? (device : String) : Option Nat :=
  match device with
  | "stdin" => some 0
  | "stdout" => some 1
  | "stderr" => some 2
  | device => if device.startsWith "fd" then (device.drop 2).toString.toNat? else none

def isThere (w : World) (n : Nat) : Bool :=
  match w.files.kind n with
  | .device name =>
    match ownDescriptor? name with
    | some d => (w.mine.handles.lookup d).isSome
    | none => true
  | _ => true

def find (w : World) (path : String) (last : Bool) : Except Refusal Nat := do
  let n ← w.files.find w.directory path last
  if w.isThere n then return n else .error .missing

def objectOf (w : World) (n : Nat) (a : Access) : Except Refusal (World × Object) :=
  let emptied := fun (n : Nat) =>
    if a.truncates then { w with files := w.files.setText n "" w.clock } else w
  match w.files.kind n with
  | .directory _ _ => if a.writes || a.creates then .error .isDirectory else .ok (w, .node n)
  | .queue => .ok (w, .channel (.queue n))
  | .device "tty" => .error .noDevice
  | .device name =>
    match ownDescriptor? name with
    | none => .ok (w, .device name)
    | some d =>
      match w.description? d with
      | none => .error .missing
      | some (_, { object := .node n, .. }) => .ok (emptied n, .node n)
      | some (_, d) => .ok (w, d.object)
  | _ => .ok (emptied n, .node n)

def objectAt (w : World) (path : String) (a : Access) : Except Refusal (World × Object) :=
  match w.find path true with
  | .ok n => if a.exclusive && a.creates then .error .present else w.objectOf n a
  | .error .missing =>
    if !a.creates then .error .missing
    else if path.toList.getLast? = some '/' then .error .isDirectory
    else do
      let (d, name) ← w.files.placeBehind Files.linkLimit w.directory path
      let mode := 0o666 &&& (0o777 ^^^ w.mine.mask)
      let (files, n) ← w.files.create d name (.regular "") mode w.clock
      return ({ w with files }, .node n)
  | .error e => .error e

/-- The world in which a path is open under the least free descriptor. -/
def opened (w : World) (path : String) (a : Access) : Except Refusal (World × Nat) := do
  let (w, object) ← w.objectAt path a
  let n := freeDescriptor w.mine 0
  let d : Description :=
    { object, reads := a.reads, writes := a.writes, appends := a.appends }
  return (w.attach n d false, n)

def orInterrupted {α : Type} (w : World) : Outcome (Except Refusal α) :=
  if w.mine.pending = [] then .wait none else .known (.error .interrupted)

def slice (text : String) (offset length : Nat) : String :=
  ((text.drop offset).take length).toString

def textOf (f : Files) (n : Nat) : String :=
  match f.kind n with
  | .regular text => text
  | .program _ => "\x7fELF\x02\x01\x01" ++ String.singleton (Char.ofNat 0)
  | _ => ""

def noise (seed : Nat) : Nat → String → String
  | 0, text => text
  | n + 1, text =>
    let next := (seed * 6364136223846793005 + 1442695040888963407) % 0x10000000000000000
    noise next n (text.push (Char.ofNat (next / 0x10000000000 % 256)))

def capacity : Nat := 65536

def atom : Nat := 4096

def reading (w : World) (descriptor length : Nat) : Outcome (Except Refusal String) :=
  match w.description? descriptor with
  | none => .known (.error .badDescriptor)
  | some (n, d) =>
    if !d.reads then .known (.error .badDescriptor)
    else
      match d.object with
      | .node k =>
        if w.files.isDirectory k then .known (.error .isDirectory)
        else
          let text := slice (textOf w.files k) d.offset length
          if text = "" then .known (.ok "")
          else .done (w.setDescription n { d with offset := d.offset + text.length }) (.ok text)
      | .channel c =>
        let content := w.content c
        if content ≠ "" then
          let text := (content.take length).toString
          .done (w.setContent c (content.drop length).toString) (.ok text)
        else if w.reaches c (·.writes) then w.orInterrupted
        else .known (.ok "")
      | .device "zero" => .known (.ok ("".pushn (Char.ofNat 0) (min length atom)))
      | .device "full" => .known (.ok ("".pushn (Char.ofNat 0) (min length atom)))
      | .device "random" => .known (.ok (noise (w.clock + n) (min length atom) ""))
      | .device "urandom" => .known (.ok (noise (w.clock + n) (min length atom) ""))
      | _ => .known (.ok "")

/-- Writes a text or the front of it, and tells how much was written. -/
def writing (w : World) (descriptor : Nat) (text : String) : Outcome (Except Refusal Nat) :=
  match w.description? descriptor with
  | none => .known (.error .badDescriptor)
  | some (n, d) =>
    if !d.writes then .known (.error .badDescriptor)
    else
      match d.object with
      | .node k =>
        let old := textOf w.files k
        let offset := if d.appends then old.length else d.offset
        let files := w.files.setText k (Files.overwritten old offset text) w.clock
        .done ({ w with files }.setDescription n { d with offset := offset + text.length })
          (.ok text.length)
      | .channel c =>
        if !w.reaches c (·.reads) then .done (w.signal w.self 13) (.error .brokenPipe)
        else
          let content := w.content c
          let room := capacity - content.length
          if text.length ≤ room then .done (w.setContent c (content ++ text)) (.ok text.length)
          else if text.length > atom && room > 0 then
            .done (w.setContent c (content ++ (text.take room).toString)) (.ok room)
          else w.orInterrupted
      | .device "full" => .known (.error .full)
      | _ => .known (.ok text.length)

def seeking (w : World) (descriptor : Nat) (place : Nat → Nat → Nat) :
    Except Refusal (World × Nat) :=
  match w.description? descriptor with
  | none => .error .badDescriptor
  | some (n, d) =>
    match d.object with
    | .node k =>
      let offset := place d.offset (textOf w.files k).length
      .ok (w.setDescription n { d with offset }, offset)
    | .channel _ => .error .notSeekable
    | _ => .ok (w, 0)

def aliased (w : World) (source target : Nat) (isPrivate : Bool) :
    Except Refusal (World × Nat) :=
  let r := w.mine
  match r.handles.lookup source with
  | none => .error .badDescriptor
  | some h =>
    let handle : Handle := if source = target then h else { h with isPrivate }
    .ok ((w.setMine { r with handles := setEntry target handle r.handles }).sweep, target)

/-- The world with a new pipe: its end to read from and its end to write to. -/
def withPipe (w : World) : World × Nat × Nat :=
  let (number, w) := w.number
  let object := Object.channel (.pipe number)
  let source := freeDescriptor w.mine 0
  let w := w.attach source { object, reads := true } false
  let target := freeDescriptor w.mine 0
  (w.attach target { object, writes := true } false, source, target)

def renewed (w : World) : World :=
  let r := w.mine
  (w.setMine { r with handles := r.handles.filter (!·.2.isPrivate), caught := [], pending := [] })
    |>.sweep

end World

namespace Task

def files : Task Files := inspect World.files

def find (path : String) (last : Bool) : Task (Except Refusal Nat) :=
  inspect fun w => w.find path last

def edit (f : Files → Nat → Nat → Except Refusal Files) : Task (Except Refusal Unit) :=
  attempt fun w => (f w.files w.directory w.clock).map fun files => ({ w with files }, ())

def masked (mode : Nat) : Task Nat := inspect fun w => mode &&& (0o7777 ^^^ w.mine.mask)

def enter (n : Nat) : Task Unit := change fun w => w.setMine { w.mine with directory := n }

def close (descriptor : Nat) : Task Unit := change fun w => w.detach descriptor

/-- Opens a path. A queue with nobody at its other end has to wait for one. -/
def openAs (path : String) (a : Access) : Task (Except Refusal Nat) := do
  match ← attempt fun w => w.opened path a with
  | .error e => return .error e
  | .ok n =>
    let answer ← call fun w =>
      match w.description? n with
      | some (_, { object := .channel (.queue q), .. }) =>
        if a.reads && a.writes then .known (.ok n)
        else if w.reaches (.queue q) fun d => if a.reads then d.writes else d.reads then
          .known (.ok n)
        else w.orInterrupted
      | _ => .known (.ok n)
    if answer.toOption.isNone then close n
    return answer

def duplicate (source target : Nat) : Task (Except Refusal Nat) :=
  attempt fun w => w.aliased source target false

def keep (descriptor : Nat) : Task (Except Refusal Nat) :=
  attempt fun w => w.aliased descriptor (World.freeDescriptor w.mine 10) true

def pipe : Task (Nat × Nat) :=
  call fun w =>
    let (w, ends) := w.withPipe
    .done w ends

def read (descriptor length : Nat) : Task (Except Refusal String) :=
  call fun w => w.reading descriptor length

def block : Nat := 65536

def writeUpTo (descriptor : Nat) : Nat → String → Task (Except Refusal Unit)
  | 0, _ => return .ok ()
  | n + 1, text => do
    if text = "" then return .ok ()
    else
      match ← call fun w => w.writing descriptor text with
      | .ok length =>
        if length ≥ text.length then return .ok ()
        else writeUpTo descriptor n (text.drop length).toString
      | .error e => return .error e

def write (descriptor : Nat) (text : String) : Task (Except Refusal Unit) :=
  writeUpTo descriptor (text.length + 1) text

def complain (text : String) : Task Unit := do
  let _ ← write 2 text

def readUpTo (descriptor : Nat) : Nat → List String → Task (Except Refusal String)
  | 0, texts => return .ok (String.join texts.reverse)
  | n + 1, texts => do
    match ← read descriptor block with
    | .ok "" => return .ok (String.join texts.reverse)
    | .ok text => readUpTo descriptor n (text :: texts)
    | .error e => return .error e

def readAll (descriptor : Nat) : Task (Except Refusal String) :=
  readUpTo descriptor enough []

def seek (descriptor : Nat) (place : Nat → Nat → Nat) : Task (Except Refusal Nat) :=
  attempt fun w => w.seeking descriptor place

def document (text : String) : Task Nat := do
  let (source, target) ← pipe
  if text.length ≤ World.atom then
    let _ ← write target text
    close target
  else
    let _ ← fork do
      close source
      change fun w => w.setMine { w.mine with ignored := [1, 2, 3, 13, 20] }
      let _ ← write target text
      return 0
    close target
  return source

def self : Task Nat := inspect World.self

inductive Awaited where
  | gone (process : Nat) (e : Ending)
  | nobody
  | interrupted
  | late
  deriving DecidableEq

/-- How long it takes until the end of a child is seen by who does not wait for it. -/
def notice : Nat := 200

def await (which : Nat → Bool) (interruptible : Bool) (moment? : Option Nat) : Task Awaited :=
  call fun w =>
    let isLate := moment?.any (· ≤ w.clock)
    match w.reap which (if isLate then w.clock - notice else w.clock) with
    | some (process, e, w) => .done w (.gone process e)
    | none =>
      if !w.hasChild which then .known .nobody
      else if interruptible && w.mine.pending ≠ [] then .known .interrupted
      else if isLate then .known .late
      else .wait moment?

/-- Sends a signal to a process, or to a group if the number is negative. -/
def kill (process : Int) (signal : Nat) : Task (Except Refusal Unit) :=
  attempt fun w =>
    let members := if process > 0 then [process.toNat]
      else
        let group := if process = 0 then w.mine.group else process.natAbs
        (w.records.filter fun r => r.2.group = group && r.2.ending.isNone).map (·.1)
    if members.any fun n => (w.record? n).isSome then
      .ok (members.foldl (fun w n => w.signal n signal) w, ())
    else .error .noProcess

def taken : Task (List Nat) :=
  call fun w =>
    let r := w.mine
    if r.pending = [] then .known []
    else .done (w.setMine { r with pending := [] }) r.pending

def dispose (signal : Nat) (ignored caught : Bool) : Task Unit :=
  change fun w =>
    let r := w.mine
    let with_ := fun (on : Bool) (signals : List Nat) =>
      if on then signal :: signals.filter (· ≠ signal) else signals.filter (· ≠ signal)
    w.setMine { r with
      ignored := with_ ignored r.ignored
      caught := with_ caught r.caught
      pending := if caught then r.pending else r.pending.filter (· ≠ signal) }

def renewal : Nat := 400

def renew : Task Unit := do
  sleep renewal
  change World.renewed

end Task

end WindowsListing.Unix
