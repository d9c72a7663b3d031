import WindowsListing.Unix.Program
import WindowsListing.Unix.Script.Fields
import WindowsListing.Unix.Script.Machine

/-!
# Interpreters

What runs commands and texts and expands words, one level below the command
at hand. The actions of traps are texts of this kind.
-/

set_option autoImplicit false

namespace WindowsListing.Unix.Script

structure Position where
  tested : Bool := false
  last : Bool := false
  deriving DecidableEq

namespace Position

def inner (p : Position) : Position := { p with last := false }

def condition : Position := { tested := true }

end Position

structure Purpose where
  fields : Bool
  tilde : Bool := true
  colons : Bool := false
  deriving DecidableEq

structure Interpreter where
  run : Position → Command → Activity Unit
  source : Position → String → Activity Unit
  expand : Purpose → Word → Activity (List Fragment)
  programs : Programs

namespace Interpreter
open Activity

/-- Runs the action of a trap. The status is what it was, unless the action leaves. -/
def act (i : Interpreter) (action : String) : Activity Unit := do
  let m ← get
  let status := m.kept.getD m.status
  modify fun m => { m with kept := some status }
  let result ← attempt (i.source {} action)
  modify fun now => { now with kept := m.kept }
  match result with
  | .ok _ => setStatus status
  | .error (.answer false) =>
    setStatus status
    raise (.answer false)
  | .error (.leave n) =>
    setStatus status
    raise (.leave n)
  | .error (.next n) =>
    setStatus status
    raise (.next n)
  | .error flow => raise flow

/-- Runs the traps of the signals that are still to be answered. Where control
leaves an action, the others wait. -/
def actAll (i : Interpreter) : Nat → Activity Unit
  | 0 => pure ()
  | n + 1 => do
    match (← get).signals with
    | [] => pure ()
    | signal :: signals => do
      modify fun m => { m with signals }
      match (← get).traps.find? fun t => t.signal = signal with
      | some t => act i t.action
      | none => pure ()
      actAll i n

def attend (i : Interpreter) : Activity Unit := do
  let taken ← Task.taken
  modify fun m => { m with signals := (m.signals ++ taken).mergeSort (· ≤ ·) }
  actAll i (← get).signals.length

def leaving : Except Flow Unit → Activity Unit
  | .error .exhausted => do
    let _ ← Task.kill (← Task.self) 11
    raise .ended
  | _ => pure ()

def conclude (i : Interpreter) : Activity Unit := do
  let m ← get
  match m.traps.find? fun t => t.signal = 0 with
  | some trap =>
    modify fun m => { m with
      traps := m.traps.filter fun t => t.signal ≠ 0, kept := some m.status, loops := 0 }
    match ← attempt (i.source {} trap.action) with
    | .error .exit => pure ()
    | .error .error => pure ()
    | .error .ended => pure ()
    | result =>
      leaving result
      setStatus m.status
  | none => pure ()

def through (i : Interpreter) (body : Activity Unit) : Activity Nat := do
  leaving (← attempt body)
  conclude i
  return (← get).status

def childOf (m : Machine) : Machine :=
  { m with
    traps := m.traps.filter fun t => t.action = "" && t.signal ≠ 0
    signals := []
    jobs := [] }

def branch (i : Interpreter) (body : Activity Unit) : Activity Nat :=
  fork childOf (through i body)

end Interpreter

end WindowsListing.Unix.Script
