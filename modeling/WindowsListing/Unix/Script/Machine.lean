import WindowsListing.Unix.Calls
import WindowsListing.Unix.Number
import WindowsListing.Unix.Script.Reader

/-!
# The state of a script

What a shell knows while it runs a script, and activities on that state. An
activity is a part of a process that comes to an answer, or that control
leaves before its end.
-/

set_option autoImplicit false

namespace WindowsListing.Unix.Script

structure Variable where
  value : Option String
  exported : Bool := false
  readOnly : Bool := false
  deriving DecidableEq

inductive Saved where
  | variable (name : String) (old : Option Variable)
  | options (letters : List Char)
  deriving DecidableEq

/-- The action of a trap is a script, and an empty one ignores the signal. -/
structure Trap where
  signal : Nat
  action : String
  deriving DecidableEq

/-- The processes of a job with their endings. A job that was waited for may be forgotten. -/
structure Job where
  number : Nat
  members : List (Nat × Option Ending)
  waited : Bool := false
  shown : Bool := false
  deriving DecidableEq

inductive Dialect where
  | plain
  | rich
  deriving DecidableEq

structure Machine where
  owner : Nat
  dialect : Dialect := .plain
  name : String := "sh"
  line : Nat := 1
  command : String := ""
  arguments : List String := []
  bindings : List (String × Variable) := []
  scopes : List (List Saved) := []
  functions : List (String × Command) := []
  aliases : List (String × String) := []
  traps : List Trap := []
  deaf : List Nat := []
  options : List Char := []
  directory : String := "/"
  optionIndex : Nat := 1
  optionOffset : Option Nat := none
  status : Nat := 0
  substituted : Nat := 0
  kept : Option Nat := none
  loops : Nat := 0
  depth : Nat := 0
  signals : List Nat := []
  jobs : List Job := []
  lastJob : Option Nat := none
  limits : List (Char × String) := []
  found : List (String × String) := []

def Machine.noting (m : Machine) (name : String) (value? : Option String) : Machine :=
  match name with
  | "OPTIND" =>
    let index := (Number.count? (value?.getD "")).getD 1
    { m with optionIndex := max index 1, optionOffset := none }
  | "PATH" => { m with found := [] }
  | _ => m

inductive Flow where
  | exit
  | ended
  | error
  | leave (levels : Nat)
  | next (levels : Nat)
  /-- A function or a text returns, with a status of its own or with that of the last command. -/
  | answer (explicit : Bool)
  | exhausted
  deriving DecidableEq

/-- A part of a process, given how it goes on from an answer and from a flow. -/
def Activity (α : Type) : Type 1 :=
  Machine → (α → Machine → Process) → (Flow → Machine → Process) → Process

namespace Activity

instance : Monad Activity where
  pure a := fun m next _ => next a m
  bind x f := fun m next leave => x m (fun a m => f a m next leave) leave

instance : MonadStateOf Machine Activity where
  get := fun m next _ => next m m
  set m := fun _ next _ => next ⟨⟩ m
  modifyGet f := fun m next _ => next (f m).1 (f m).2

instance : MonadLift Task Activity where
  monadLift t := fun m next _ => t fun a => next a m

instance {α : Type} : Inhabited (Activity α) := ⟨fun m _ leave => leave .exhausted m⟩

def raise {α : Type} (flow : Flow) : Activity α := fun m _ leave => leave flow m

def attempt {α : Type} (x : Activity α) : Activity (Except Flow α) := fun m next _ =>
  x m (fun a m => next (.ok a) m) fun flow m => next (.error flow) m

def settled {α : Type} : Except Flow α → Activity α
  | .ok a => return a
  | .error flow => raise flow

def eventually {α : Type} (x : Activity α) (behind : Activity Unit) : Activity α := do
  let result ← attempt x
  behind
  settled result

/-- Starts a process that goes on with the state of this one, and tells its number. -/
def fork (change : Machine → Machine) (child : Activity Nat) : Activity Nat := fun m next _ =>
  let ends := fun (status : Nat) => Process.ended (.exited (status % 256))
  .fork (fun _ => child (change m) (fun status _ => ends status) fun _ m => ends m.status)
    fun n => next n m

def write (descriptor : Nat) (text : String) : Activity Unit := do
  let _ ← Task.write descriptor text

def complain (message : String) : Activity Unit := do
  let m ← get
  let command := if m.command = "" then "" else m.command ++ ": "
  write 2 (m.name ++ ": " ++ toString m.line ++ ": " ++ command ++ message ++ "\n")

def setStatus (status : Nat) : Activity Unit := modify fun m => { m with status }

def fail {α : Type} (message : String) : Activity α := do
  complain message
  setStatus 2
  raise .error

def refuse (message : String) (status : Nat) : Activity Nat := do
  complain message
  return status

def bound? (name : String) : Activity (Option Variable) :=
  return (← get).bindings.lookup name

def valueOf? (name : String) : Activity (Option String) := do
  return (← bound? name).bind (·.value)

def setVariable (name : String) (v : Variable) : Activity Unit :=
  modify fun m => { m with bindings := setEntry name v m.bindings }

def requireNumber (name value : String) : Activity Unit :=
  if name = "OPTIND" && (Number.count? value).isNone then fail ("Illegal number: " ++ value)
  else return ()

def give (name : String) (value? : Option String) (exported : Bool) : Activity Unit := do
  let m ← get
  let old := (m.bindings.lookup name).getD { value := none }
  if old.readOnly then fail (name ++ ": is read only")
  else
    requireNumber name (value?.getD "")
    setVariable name { old with
      value := value?, exported := old.exported || exported || m.options.contains 'a' }
    modify fun m => m.noting name value?

def assign (name value : String) : Activity Unit := give name (some value) false

def discard (name : String) : Activity Unit := do
  if (← bound? name).any (·.readOnly) then fail (name ++ ": is read only")
  else
    requireNumber name ""
    modify fun m => { m with bindings := m.bindings.filter (·.1 ≠ name) }

def save (s : Saved) : Activity Unit :=
  modify fun m => { m with scopes := match m.scopes with
    | scope :: scopes => (s :: scope) :: scopes
    | [] => [] }

def restored (m : Machine) : List Saved → Machine
  | [] => m
  | .options letters :: rest => restored { m with options := letters } rest
  | .variable name none :: rest =>
    restored { m with bindings := m.bindings.filter (·.1 ≠ name) } rest
  | .variable name (some v) :: rest =>
    restored ({ m with bindings := setEntry name v m.bindings }.noting name v.value) rest

def withScope {α : Type} (x : Activity α) : Activity α := do
  modify fun m => { m with scopes := [] :: m.scopes }
  eventually x <| modify fun m =>
    match m.scopes with
    | scope :: scopes => restored { m with scopes } scope
    | [] => m

def environmentOf (m : Machine) : List (String × String) :=
  m.bindings.filterMap fun (name, v) =>
    match v with
    | { value := some value, exported := true, .. } => some (name, value)
    | _ => none

def searched : Activity (List String) := do
  return ((← valueOf? "PATH").getD "").splitOn ":"

end Activity

end WindowsListing.Unix.Script
