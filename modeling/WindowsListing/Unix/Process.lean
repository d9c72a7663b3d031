import WindowsListing.Unix.World

/-!
# Processes

A process is what it asks of the system and how it goes on with the answer. A
task is a part of a process that comes to an answer. A run takes the turns of
the processes in the order of time: every call takes some, and a process whose
call has to wait gets another turn when the world has changed.
-/

set_option autoImplicit false

namespace WindowsListing.Unix

inductive Outcome (α : Type) where
  | done (w : World) (answer : α)
  | known (answer : α)
  | wait (until? : Option Nat)

inductive Process : Type 1 where
  | ended (e : Ending)
  | call {α : Type} (act : World → Outcome α) (next : α → Process)
  | fork (child : Unit → Process) (next : Nat → Process)

def Task (α : Type) : Type 1 := (α → Process) → Process

namespace Task

instance : Monad Task where
  pure a := fun next => next a
  bind t f := fun next => t fun a => f a next

instance {α : Type} : Inhabited (Task α) := ⟨fun _ => .ended (.exited 0)⟩

def call {α : Type} (act : World → Outcome α) : Task α := fun next => .call act next

def finish {α : Type} (e : Ending) : Task α := fun _ => .ended e

def fork (child : Task Nat) : Task Nat :=
  fun next => .fork (fun _ => child fun status => .ended (.exited (status % 256))) next

def enough : Nat := 1000000000000000

def inspect {α : Type} (look : World → α) : Task α := call fun w => .known (look w)

def change (f : World → World) : Task Unit := call fun w => .done (f w) ()

def attempt {α : Type} (f : World → Except Refusal (World × α)) : Task (Except Refusal α) :=
  call fun w =>
    match f w with
    | .ok (w, a) => .done w (.ok a)
    | .error e => .known (.error e)

def sleepUntil (moment : Nat) : Task Unit :=
  call fun w => if w.clock < moment then .wait (some moment) else .known ()

def sleep (time : Nat) : Task Unit := do sleepUntil ((← inspect World.clock) + time)

end Task

/-- The process that consists of a task, whose answer is the status at its end. -/
def Process.ofTask (t : Task Nat) : Process := t fun status => .ended (.exited (status % 256))

structure Thread where
  process : Nat
  due? : Option Nat
  waits : Bool := false
  rest : Process

namespace Thread

def glance : Nat := 1

def effort : Nat := 3

def birth : Nat := 100

def childhood : Nat := 160

def woken (clock : Nat) (t : Thread) : Thread :=
  if t.waits then { t with due? := some (clock + 1), waits := false } else t

def heir (process : Nat) (r : ProcessRecord) : ProcessRecord :=
  { r with parent := process, caught := [], pending := [], stopped := false, ending := none }

/-- The turn of a thread: the world after it, the threads that come of it, and
whether anything has changed. -/
def turn (w : World) (t : Thread) : World × List Thread × Bool :=
  match t.rest with
  | .ended e => (w.bury t.process e, [], true)
  | .call act next =>
    match act w with
    | .done w a =>
      if w.lives t.process then
        (w, [{ process := t.process, due? := some (w.clock + effort), rest := next a }], true)
      else (w, [], true)
    | .known a =>
      (w, [{ process := t.process, due? := some (w.clock + glance), rest := next a }], false)
    | .wait until? => (w, [{ t with due? := until?, waits := true }], false)
  | .fork child next =>
    let (n, w) := w.number
    let w := w.setRecord n (heir t.process w.mine)
    (w, [{ process := t.process, due? := some (w.clock + birth), rest := next n },
      { process := n, due? := some (w.clock + childhood), rest := child () }], true)

def before (s t : Thread) : Bool :=
  match s.due?, t.due? with
  | some a, some b => a ≤ b
  | some _, none => true
  | none, some _ => false
  | none, none => true

def first? : List Thread → Option (Thread × List Thread)
  | [] => none
  | t :: ts =>
    match first? ts with
    | none => some (t, [])
    | some (s, others) => if t.before s then some (t, ts) else some (s, t :: others)

/-- Gives turns as long as a condition on the world and the time of the next
turn allows it, or until nobody can go on. -/
def run (goesOn : World → Nat → Bool) : Nat → World → List Thread → World × List Thread
  | 0, w, ts => (w, ts)
  | n + 1, w, ts =>
    let running := ts.filter fun t => w.lives t.process
    let isStopped := fun (t : Thread) => (w.record? t.process).any (·.stopped)
    match first? (running.filter fun t => !isStopped t) with
    | none => (w, running)
    | some (t, others) =>
      match t.due? with
      | none => (w, running)
      | some due =>
        if goesOn w due then
          let (w, made, changed) :=
            t.turn { w with self := t.process, clock := max w.clock due }
          let others := running.filter isStopped ++ others
          let others := if changed then others.map (woken w.clock) else others
          run goesOn n w (others ++ made)
        else (w, running)

end Thread

end WindowsListing.Unix
