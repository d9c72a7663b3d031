import WindowsListing.Unix.Script.Expansion

/-!
# Redirections

The descriptors of a command while it runs. What a descriptor led to before
is kept under a private descriptor, and comes back behind the command.
-/

set_option autoImplicit false

namespace WindowsListing.Unix.Script
open Activity

abbrev Displaced := List (Nat × Option Nat)

inductive Target where
  | file (path : String) (a : Access) (verb : String)
  | descriptor (n : Nat)
  | nowhere
  | document (text : String)

namespace Redirection

def reason (missing : String) : Refusal → String
  | .missing => missing
  | .notDirectory => missing
  | e => e.text

def target (i : Interpreter) : Redirection → Activity (Nat × Target)
  | .leads n opening word => do
    let text ← Expansion.text i
      (if opening = .here then Expansion.literal else Expansion.single) word
    match opening with
    | .input => return (n, .file text .input "open")
    | .output => return (n, .file text .output "create")
    | .force => return (n, .file text { Access.output with exclusive := true } "create")
    | .append => return (n, .file text .append "create")
    | .both => return (n, .file text .both "create")
    | .here => return (n, .document text)
    | .duplicate =>
      match text.toList with
      | ['-'] => return (n, .nowhere)
      | [c] => if c.isDigit then return (n, .descriptor (c.toNat - '0'.toNat)) else bad
      | _ => bad
where
  bad {α : Type} : Activity α := fail "Syntax error: Bad fd number"

/-- Opens a file to be written from its start on. A file that is there is only
overwritten if that is allowed. -/
def openGuarded (path : String) : Activity (Except Refusal Nat) := do
  match ← Task.find path true with
  | .error _ => Task.openAs path { Access.output with truncates := false, exclusive := true }
  | .ok n =>
    if (← Task.files).isProgramOrText n then return .error .present
    else Task.openAs path { Access.output with truncates := false, creates := false }

/-- Opens what a redirection leads to. The answer is none where there is nothing
to open, and a message where that cannot be. -/
def opened : Target → Activity (Except String (Option Nat))
  | .descriptor _ => return .ok none
  | .nowhere => return .ok none
  | .document text => return .ok (some (← Task.document text))
  | .file path a verb => do
    let guarded := a = Access.output && (← get).options.contains 'C'
    let answer ← if guarded then openGuarded path
      else (Task.openAs path { a with exclusive := false } : Activity (Except Refusal Nat))
    match answer with
    | .ok n => return .ok (some n)
    | .error e =>
      return .error ("cannot " ++ verb ++ " " ++ path ++ ": " ++
        reason (if verb = "open" then "No such file" else "Directory nonexistent") e)

def displace (n : Nat) : Activity (Option Nat) := do
  match ← Task.keep n with
  | .ok kept => do
    Task.close n
    return some kept
  | .error _ => return none

def isIdle (n : Nat) : Target → Bool
  | .descriptor k => k = n
  | _ => false

def connect (n : Nat) (t : Target) (source? : Option Nat) : Activity (Option String) := do
  match t, source? with
  | .descriptor k, _ =>
    match ← Task.duplicate k n with
    | .ok _ => return none
    | .error e => return some (toString k ++ ": " ++ e.text)
  | .nowhere, _ => do
    Task.close n
    return none
  | _, some k => do
    if k ≠ n then
      let _ ← Task.duplicate k n
      Task.close k
    return none
  | _, none => return none

def restore : Displaced → Activity Unit
  | [] => pure ()
  | (n, none) :: rest => do
    Task.close n
    restore rest
  | (n, some kept) :: rest => do
    let _ ← Task.duplicate kept n
    Task.close kept
    restore rest

def release : Displaced → Activity Unit
  | [] => pure ()
  | (_, none) :: rest => release rest
  | (_, some kept) :: rest => do
    Task.close kept
    release rest

def putAll (keeps : Bool) (displaced : Displaced) :
    List (Nat × Target) → Activity Displaced
  | [] => return displaced
  | (n, t) :: rest => do
    if isIdle n t then putAll keeps displaced rest
    else
      match ← opened t with
      | .error message => undo displaced message
      | .ok source? => do
        let displaced ←
          if !keeps || (displaced.lookup n).isSome then pure displaced
          else if source? = some n then pure ((n, none) :: displaced)
          else pure ((n, ← displace n) :: displaced)
        match ← connect n t source? with
        | some message => undo displaced message
        | none => putAll keeps displaced rest
where
  undo {α : Type} (displaced : Displaced) (message : String) : Activity α := do
    complain message
    restore displaced
    setStatus 2
    raise .error

def put? (i : Interpreter) (rs : List Redirection) : Activity (Option Displaced) := do
  if rs.isEmpty then return some []
  else
    let targets ← rs.mapM (target i)
    match ← attempt (putAll true [] targets) with
    | .ok displaced => return some displaced
    | .error .error => return none
    | .error flow => raise flow

def forGood (i : Interpreter) (rs : List Redirection) : Activity Unit := do
  let targets ← rs.mapM (target i)
  let _ ← putAll false [] targets

end Redirection

end WindowsListing.Unix.Script
