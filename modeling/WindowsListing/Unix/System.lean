import WindowsListing.Launch
import WindowsListing.Unix.Bytes
import WindowsListing.Unix.Program

/-!
# Unix systems

A system has files, directories in which a program is looked for by its bare
name, and a behaviour for each program. A program is run together with all
that it starts. As a host it takes a line for the name of one program.
-/

set_option autoImplicit false

namespace WindowsListing.Unix

structure Execution where
  output : String := ""
  ending : Ending

structure System where
  files : Files
  directory : Nat
  search : List String
  environment : List (String × String)
  programs : Programs

namespace System

def process : Nat := 99

def parent : Nat := 1

def beginning : Nat := 1700000000000000

/-- The world in which a program begins. It reads nothing, what it writes is
kept in a file without a name, and its complaints are not kept. -/
def world (h : System) : World × Nat :=
  let (files, output) := h.files.add ⟨.regular "", 0o600, 0⟩
  let own : ProcessRecord :=
    { parent, group := process, directory := h.directory
      handles := [(0, ⟨2, false⟩), (1, ⟨3, false⟩), (2, ⟨4, false⟩)] }
  ({ files
     descriptions :=
       [(2, { object := .device "null", reads := true }),
        (3, { object := .node output, writes := true }),
        (4, { object := .elsewhere, writes := true })]
     records := [(parent, { parent := 0, group := parent }), (process, own)]
     self := process
     fresh := process + 1
     clock := beginning }, output)

def turns : Nat := 10000000

def patience : Nat := 500

def run (h : System) (t : Task Nat) : Execution :=
  let (w, output) := h.world
  let first : Thread := { process, due? := some beginning, rest := Process.ofTask t }
  let (w, ts) := Thread.run (fun w _ => w.lives process) turns w [first]
  let ending := ((w.record? process).bind (·.ending)).getD (.killed 9)
  let (w, _) := Thread.run (fun _ due => due ≤ w.clock + patience) turns w ts
  { output := Bytes.toText (World.textOf w.files output), ending }

def start (h : System) (program : String) (arguments : List String) : Except Refusal Execution := do
  let n ← h.files.locate h.directory h.search program
  match h.files.kind n with
  | .program name =>
    let s : Start :=
      { name := Bytes.ofText program, arguments := arguments.map Bytes.ofText
        environment := h.environment }
    return h.run (h.programs.task name s)
  | _ => .error .notProgram

def file : ProcessCommand → String
  | .line text => text
  | .words program _ => program

def arguments : ProcessCommand → List String
  | .line _ => []
  | .words _ arguments => arguments

/-- What is told of the end of a process: its status, or minus the signal that killed it. -/
def status : Ending → Int
  | .exited status => status
  | .killed signal => -signal

def host (h : System) : Host where
  start command :=
    if (file command :: arguments command).any (·.contains '\x00') then
      .rejected "embedded null byte"
    else
      match h.start (file command) (arguments command) with
      | .ok execution => .ran execution.output (status execution.ending)
      | .error refusal => .refused (.onFile refusal.number refusal.text (file command))

end System

end WindowsListing.Unix
