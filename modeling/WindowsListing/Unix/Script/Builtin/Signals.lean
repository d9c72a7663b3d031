import WindowsListing.Unix.Script.Builtin

/-!
# Signals and jobs

The commands that send signals, set traps for them, and wait for the children
of a script.
-/

set_option autoImplicit false

namespace WindowsListing.Unix.Script.Builtin
open Activity

def jobNamed (word : String) : Activity Job := do
  match ← Jobs.named? word with
  | some job => return job
  | none => fail ("No such job: " ++ word)

/-- The sign of a job: the current one has a plus, the one before it a minus. -/
def signOf (jobs : List Job) (j : Job) : Char :=
  if (jobs.head?.map (·.number)) = some j.number then '+'
  else if (jobs.tail.head?.map (·.number)) = some j.number then '-'
  else ' '

def showJob (letter : Char) (j : Job) : Activity Unit := do
  let jobs := (← get).jobs
  if letter = 'p' then write 1 (toString ((j.members.head?.map (·.1)).getD 0) ++ "\n")
  else
    write 1 (j.line (signOf jobs j) (letter = 'l'))
    if !j.runs then Jobs.forget j.number

def jobs : Builtin := fun _ arguments => do
  let (given, words) ← options "lp" arguments
  let letter := (given.getLast?.map (·.1)).getD ' '
  if words = [] then
    Jobs.gather
    for j in (← get).jobs do
      showJob letter j
  else
    for word in words do
      showJob letter (← jobNamed word)
  return 0

/-- Jobs of a script cannot be brought to the front or the back. -/
def resume : Builtin := fun _ arguments => do
  match arguments with
  | [] => fail "No current job"
  | word :: _ =>
    let j ← jobNamed word
    fail ("job " ++ toString j.number ++ " not created under job control")

def afterSignal : Activity Nat := do
  return 128 + ((← Task.inspect fun w => w.mine.pending.head?).getD 0)

def waitAll : Nat → Activity Nat
  | 0 => return 0
  | n + 1 => do
    let jobs := (← get).jobs
    modify fun m => { m with jobs := m.jobs.map fun j => { j with waited := j.waited || !j.runs } }
    if !jobs.any Job.runs then return 0
    else
      match ← Task.await (fun _ => true) true none with
      | .gone process e => do
        Jobs.note process e
        waitAll n
      | .interrupted => afterSignal
      | _ => return 0

def waitEach (status : Nat) : List String → Activity Nat
  | [] => return status
  | word :: words => do
    let j? ←
      if word.startsWith "%" then do pure (some (← jobNamed word))
      else do
        let process ← count word
        pure ((← get).jobs.find? (·.process = process))
    match j? with
    | none => waitEach 127 words
    | some j =>
      if ← Jobs.await j.number true then
        modify fun m => { m with jobs := m.jobs.map fun k =>
          if k.number = j.number then { k with waited := true } else k }
        waitEach (((← Jobs.find? j.number).map Job.status).getD 0) words
      else afterSignal

def wait : Builtin := fun _ arguments => do
  let (_, words) ← options "" arguments
  if words = [] then waitAll Task.enough else waitEach 127 words

def killUsage {α : Type} : Activity α :=
  fail ("Usage: kill [-s sigspec | -signum | -sigspec] [pid | job]... or\n" ++
    "kill -l [exitstatus]")

def signalName? (signal : Nat) : Option String :=
  if signal = 16 then some "16" else if signal = 0 then none else Signal.name? signal

def signalList (words : List String) : Activity Nat := do
  match words with
  | [] => show_ (unlines ("0" :: (List.range 64).filterMap fun n => signalName? (n + 1)))
  | word :: _ =>
    let n ← count word
    match signalName? (if n > 128 then n - 128 else n) with
    | some name => show_ (name ++ "\n")
    | none => fail ("invalid signal number or exit status: " ++ word)

def receiver (word : String) : Activity Int := do
  match word.toList with
  | '%' :: _ => return -(((← jobNamed word).members.head?.map (·.1)).getD 0 : Int)
  | '-' :: cs => return -(← count (String.ofList cs) : Int)
  | _ => return (← count word : Int)

def killAll (signal : Nat) (status : Nat) : List String → Activity Nat
  | [] => return status
  | word :: words => do
    match ← Task.kill (← receiver word) signal with
    | .ok _ => killAll signal status words
    | .error e => do
      complain (e.text ++ "\n")
      killAll signal 1 words

def signal? (word : String) : Option Nat :=
  if word.map Char.toUpper = "STKFLT" then none else Signal.ofText? word

def sendable? (word : String) : Option Nat :=
  if word.map Char.toUpper = "EXIT" then none else signal? word

def kill : Builtin := fun _ arguments => do
  let (signal?, list, words) ← match arguments with
    | [] => killUsage
    | word :: words =>
      match word.toList with
      | '-' :: cs =>
        match sendable? (String.ofList cs) with
        | some signal => pure (some signal, false, words)
        | none => do
          let (given, words) ← options "ls:" arguments
          let signal? ← match (given.filter (·.1 = 's')).getLast? with
            | some (_, name) =>
              match sendable? name with
              | some signal => pure (some signal)
              | none => fail ("invalid signal number or name: " ++ name)
            | none => pure none
          pure (signal?, (given.lookup 'l').isSome, words)
      | _ => pure (none, false, arguments)
  if list then
    if signal?.isSome then killUsage else signalList words
  else if words = [] then killUsage
  else killAll (signal?.getD 15) 0 words

/-- Sets what a signal does, unless it was ignored before the shell began. -/
def setTrap (signal : Nat) (action? : Option String) : Activity Unit := do
  modify fun m =>
    let others := m.traps.filter fun t => t.signal ≠ signal
    { m with traps := match action? with
      | some action => others ++ [{ signal, action }]
      | none => others }
  if signal ≠ 0 && !(← get).deaf.contains signal then
    match action? with
    | none => Task.dispose signal false false
    | some "" => Task.dispose signal true false
    | some _ => Task.dispose signal false true

def setTraps (action? : Option String) : List String → Activity Nat
  | [] => return 0
  | word :: words => do
    match signal? word with
    | some signal => do
      setTrap signal action?
      setTraps action? words
    | none => do
      write 2 ("trap: " ++ word ++ ": bad trap\n")
      return 1

def trap : Builtin := fun _ arguments => do
  let (_, words) ← options "" arguments
  match words with
  | [] =>
    let traps := (← get).traps.mergeSort fun a b => a.signal ≤ b.signal
    show_ (String.join (traps.map fun t =>
      "trap -- " ++ inQuotes t.action ++ " " ++
        (if t.signal = 0 then "EXIT" else (signalName? t.signal).getD "") ++ "\n"))
  | [word] => setTraps none [word]
  | "-" :: words => setTraps none words
  | action :: words =>
    if (Number.natural? action).any (· ≤ 64) then setTraps none (action :: words)
    else setTraps (some action) words

def times : Builtin := fun _ _ =>
  show_ "0m0.000000s 0m0.000000s\n0m0.000000s 0m0.000000s\n"

end WindowsListing.Unix.Script.Builtin
