import WindowsListing.Unix.Script.Evaluation

/-!
# The shell

The program that runs scripts: the text of an argument, of a file, or what
comes in.
-/

set_option autoImplicit false

namespace WindowsListing.Unix.Script
open Activity

/-- How many levels of commands a script may have inside each other. -/
def levels : Nat := 20000

namespace Shell

def ownVariables : List (String × String) :=
  [("IFS", " \t\n"), ("PATH", Builtin.standardPath), ("PS1", "# "), ("PS2", "> "), ("PS4", "+ "),
   ("OPTIND", "1")]

/-- The state of a shell that begins in a world. The directory of the
environment counts if it is the one at hand. -/
def beginning (dialect : Dialect) (s : Start) (w : World) : Machine :=
  let own := ownVariables.map fun (name, value) => (name, { value := some value : Variable })
  let given := (s.environment.filter fun v => isName v.1).foldl (fun bindings (name, value) =>
    setEntry name { value := some value, exported := true : Variable } bindings) own
  let parent : Variable := { value := some (toString w.mine.parent) }
  let said := (s.environment.lookup "PWD").filter fun path =>
    path.startsWith "/" && (w.files.find 0 path true).toOption = some w.directory
  let directory := said.getD (w.files.pathOf w.directory)
  { owner := w.self
    dialect
    name := s.name
    bindings := setEntry "PWD" { value := some directory, exported := true }
      (setEntry "IFS" { value := some " \t\n" } (setEntry "PPID" parent given))
    directory
    deaf := w.mine.ignored }

def alone (x : Activity Nat) (m : Machine) : Task Nat := fun next =>
  x m (fun status _ => next status) fun _ m => next m.status

def wantsMore : Misreading → Bool
  | .quotation => true
  | .brace => true
  | .backquote => true
  | .sum => true
  | .ended _ => true
  | _ => false

def maybeOpen (cs : List Char) : Bool :=
  cs.getLast? ≠ some '\n' || (String.ofList cs).contains "<<"

def runInput (i : Interpreter) : Nat → Nat → Bool → List Char → Activity Unit
  | 0, _, _, _ => raise .exhausted
  | n + 1, lines, finished, cs => do
    let more : Activity Unit := do
      match ← Task.read 0 8191 with
      | .ok text => runInput i n lines (text = "") (cs ++ text.toList)
      | .error _ => runInput i n lines true cs
    if cs.isEmpty && finished then pure ()
    else if !finished && !cs.contains '\n' then more
    else
      let page : Page := { lines := lines + newlines cs, aliases := (← get).aliases }
      let behind := fun (rest : List Char) => lines + newlines cs - newlines rest
      match completeLine page cs with
      | .error f =>
        if !finished && wantsMore f.reason then more
        else Evaluation.fault page.lines f
      | .ok (.nothing, rest) => runInput i n (behind rest) finished rest
      | .ok (c, rest) =>
        if !finished && rest.isEmpty && maybeOpen cs then more
        else
          i.run {} c
          runInput i n (behind rest) finished rest

def refuseAt (name message : String) : Activity Nat := do
  write 2 (name ++ ": 0: " ++ message ++ "\n")
  return 2

def answered (x : Activity Unit) : Activity Unit := do
  match ← attempt x with
  | .error (.answer _) => pure ()
  | result => settled result

def runFile (i : Interpreter) (path : String) : Activity Nat := do
  match ← Task.openAs path .input with
  | .error e =>
    refuseAt (← get).name ("cannot open " ++ path ++ ": " ++ Redirection.reason "No such file" e)
  | .ok n =>
    let text := (← Task.readAll n).toOption.getD ""
    Task.close n
    modify fun m => { m with name := path }
    i.through (answered (i.source {} text))

def start (i : Interpreter) (words : List String) : Activity Nat := do
  let name := (← get).name
  match Settings.read Settings.startable true [] words with
  | .error message => refuseAt name message
  | .ok s =>
    match s.listing with
    | some asCommands => write 1 (Settings.table s.letters asCommands)
    | none => pure ()
    let isCommand := s.letters.contains 'c'
    let reads := s.letters.contains 's' || (s.rest.isEmpty && !isCommand)
    modify fun m => { m with
      options := (s.letters.filter fun c => c ≠ 'c' && c ≠ 'l') ++
        (if reads && !s.letters.contains 's' then ['s'] else []) }
    match isCommand, s.rest with
    | true, [] => refuseAt name "-c requires an argument"
    | true, text :: rest =>
      modify fun m => { m with name := rest.headD name, arguments := rest.tail }
      i.through (answered do
        i.source { last := !reads } text
        if reads then runInput i Task.enough 0 false [])
    | false, path :: rest =>
      if reads then
        modify fun m => { m with arguments := path :: rest }
        i.through (answered (runInput i Task.enough 0 false []))
      else
        modify fun m => { m with arguments := rest }
        runFile i path
    | false, [] => i.through (answered (runInput i Task.enough 0 false []))

end Shell

def shell (dialect : Dialect) : Program := fun p s => do
  let m ← Task.inspect (Shell.beginning dialect s)
  Shell.alone (Shell.start (interpreter p levels) s.arguments) m

end WindowsListing.Unix.Script
