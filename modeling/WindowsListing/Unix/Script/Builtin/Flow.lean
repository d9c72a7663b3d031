import WindowsListing.Unix.Script.Builtin
import WindowsListing.Unix.Utility.Condition
import WindowsListing.Unix.Utility.Format

/-!
# Control

The commands by which control leaves a loop, a function or a script, those
that run a text in the process at hand, and those that programs of the same
name do as well.
-/

set_option autoImplicit false

namespace WindowsListing.Unix.Script.Builtin
open Activity

def leaving (flow : Nat → Flow) : Builtin := fun _ arguments => do
  let levels ← match arguments with
    | [] => pure 1
    | word :: _ => do
      let n ← count word
      if n = 0 then fail ("Illegal number: " ++ word) else pure n
  match min levels (← get).loops with
  | 0 => return 0
  | n => do
    setStatus 0
    raise (flow n)

def exit : Builtin := fun _ arguments => do
  let m ← get
  setStatus (← countOr (m.kept.getD m.status) arguments)
  raise .exit

def return_ : Builtin := fun _ arguments => do
  setStatus (← countOr (← get).status arguments)
  raise (.answer (arguments ≠ []))

def eval (tested : Bool) : Builtin := fun i arguments => do
  if arguments = [] then return 0
  else
    i.source { tested } (" ".intercalate arguments)
    return (← get).status

/-- The path and the text of a script that is looked for in the directories of programs. -/
def sourceText (name : String) : List String → Activity (Option (String × String))
  | [] => return none
  | path :: paths => do
    match ← Task.find path true with
    | .error _ => sourceText name paths
    | .ok n =>
      let files ← Task.files
      if '/' ∈ name.toList || files.isProgramOrText n then readFrom path
      else sourceText name paths
where
  readFrom (path : String) : Activity (Option (String × String)) := do
    match ← Task.openAs path .input with
    | .error e => fail ("cannot open " ++ path ++ ": " ++ Redirection.reason "No such file" e)
    | .ok n => do
      let text ← Task.readAll n
      Task.close n
      return some (path, text.toOption.getD "")

def dot : Builtin := fun i arguments => do
  let (_, words) ← options "" arguments
  match words with
  | [] => return 0
  | name :: _ =>
    let paths ←
      if '/' ∈ name.toList then pure [name]
      else do pure ((← searched).map fun d => Files.inDirectory d name)
    match ← sourceText name paths with
    | none =>
      if '/' ∈ name.toList then fail ("cannot open " ++ name ++ ": No such file")
      else fail (name ++ ": not found")
    | some (path, text) =>
      let m ← get
      set { m with command := path }
      let result ← attempt (i.source {} text)
      modify fun now => { now with line := m.line }
      match result with
      | .error (.answer _) => return (← get).status
      | result =>
        settled result
        return (← get).status

def ofUtility (u : Utility) : Builtin := fun _ arguments => do
  let e ← Task.inspect (u arguments)
  if e.errors ≠ "" then complainIn e.errors
  let status ← show_ e.output
  return max status e.status
where
  complainIn (errors : String) : Activity Unit := do
    let m ← get
    let own := m.command ++ ": "
    for message in Utility.lines errors do
      complain (if message.startsWith own then (message.drop own.length).toString else message)

def echo : Builtin := fun i arguments => do
  match (← get).dialect with
  | .plain => ofUtility Utility.plainEcho i arguments
  | .rich => ofUtility Utility.echo i arguments

end WindowsListing.Unix.Script.Builtin
