import WindowsListing.Unix.Script.Interpreter
import WindowsListing.Unix.Signal

/-!
# Jobs

The children that a script has started, in the order in which they became
current, the latest first. A job is over when all of its members are.
-/

set_option autoImplicit false

namespace WindowsListing.Unix

def Ending.status : Ending → Nat
  | .exited status => status
  | .killed signal => 128 + signal

namespace Script
open Activity

def quietSignals : List Nat := [2, 13]

namespace Job

def runs (j : Job) : Bool := j.members.any (·.2.isNone)

def ending? (j : Job) : Option Ending := j.members.getLast?.bind (·.2)

def status (j : Job) : Nat := (j.ending?.map Ending.status).getD 0

def process (j : Job) : Nat := (j.members.getLast?.map (·.1)).getD 0

def noting (process : Nat) (e : Ending) (j : Job) : Job :=
  { j with members := j.members.map fun m => if m.1 = process then (m.1, some e) else m }

/-- A number that no job has, and the jobs without one that need not be kept. -/
def place : Nat → Nat → List Job → Nat × List Job
  | 0, number, jobs => (number, jobs)
  | n + 1, number, jobs =>
    match jobs.find? (·.number = number) with
    | none => (number, jobs)
    | some j =>
      if !j.runs && j.waited then (number, jobs.filter (·.number ≠ number))
      else place n (number + 1) jobs

def line (j : Job) (sign : Char) (withProcess : Bool) : String :=
  let front := "[" ++ toString j.number ++ "] " ++ String.singleton sign ++ " "
  let process := (j.members.head?.map (·.1)).getD 0
  let front := if withProcess then front ++ toString process ++ " " else front
  let state :=
    if j.runs then "Running"
    else
      match j.ending? with
      | some (.exited 0) => "Done"
      | some (.exited n) => "Done(" ++ toString n ++ ")"
      | some (.killed signal) => Signal.text signal
      | none => "Running"
  let text := front ++ state
  let gap := String.ofList (List.replicate (max 1 (33 - text.length)) ' ')
  if withProcess then
    text ++ gap ++ String.join (j.members.tail.map fun m =>
      "\n" ++ String.ofList (List.replicate (front.length - 3) ' ') ++ "| " ++ toString m.1 ++ " ")
      ++ "\n"
  else text ++ gap ++ String.join (j.members.tail.map fun _ => " | ") ++ "\n"

end Job

namespace Jobs

def register (processes : List Nat) : Activity Nat := do
  let m ← get
  let (number, jobs) := Job.place (m.jobs.length + 1) 1 m.jobs
  set { m with jobs := { number, members := processes.map fun p => (p, none) } :: jobs }
  return number

def find? (number : Nat) : Activity (Option Job) :=
  return (← get).jobs.find? (·.number = number)

def forget (number : Nat) : Activity Unit :=
  modify fun m => { m with jobs := m.jobs.filter (·.number ≠ number) }

def note (process : Nat) (e : Ending) : Activity Unit :=
  modify fun m => { m with jobs := m.jobs.map (Job.noting process e) }

/-- Says a word about the death of a member of the job that is waited for. -/
def report (process : Nat) (e : Ending) (number : Nat) : Activity Unit := do
  match e, ← find? number with
  | .killed signal, some j =>
    if !quietSignals.contains signal && j.members.any (·.1 = process) then
      write 2 (Signal.text signal ++ "\n")
  | _, _ => pure ()

def gatherUpTo : Nat → Activity Unit
  | 0 => pure ()
  | n + 1 => do
    match ← Task.await (fun _ => true) false (some 0) with
    | .gone process e => do
      note process e
      gatherUpTo n
    | _ => pure ()

def gather : Activity Unit := gatherUpTo Task.enough

def awaitUpTo (number : Nat) (interruptible : Bool) : Nat → Activity Bool
  | 0 => return true
  | n + 1 => do
    match ← find? number with
    | none => return true
    | some j =>
      if !j.runs then return true
      else
        match ← Task.await (fun _ => true) interruptible none with
        | .gone process e => do
          note process e
          report process e number
          awaitUpTo number interruptible n
        | .interrupted => return false
        | _ => return true

def await (number : Nat) (interruptible : Bool) : Activity Bool :=
  awaitUpTo number interruptible Task.enough

/-- Waits for processes as a job of their own, and tells the status of the last one. -/
def finish (processes : List Nat) : Activity Nat := do
  let number ← register processes
  let _ ← await number false
  gather
  let status := ((← find? number).map Job.status).getD 0
  forget number
  return status

def named? (word : String) : Activity (Option Job) := do
  let jobs := (← get).jobs
  match word.toList with
  | ['%'] => return jobs.head?
  | ['%', '%'] => return jobs.head?
  | ['%', '+'] => return jobs.head?
  | ['%', '-'] => return jobs.tail.head?
  | '%' :: cs =>
    match Number.value? 10 cs with
    | some n => find? n
    | none => return none
  | _ =>
    match Number.natural? word with
    | some process => return jobs.find? (·.process = process)
    | none => return none

end Jobs

end Script

end WindowsListing.Unix
