import WindowsListing.Unix.Script.Builtin

/-!
# Names of commands

What the name of a command stands for, and the commands that show it. Among
the things of one name the order is: keyword, alias, special command,
function, command of the shell, program.
-/

set_option autoImplicit false

namespace WindowsListing.Unix.Script.Builtin
open Activity

def regularCommands : List String :=
  ["alias", "bg", "cd", "chdir", "command", "echo", "false", "fg", "getopts", "hash", "jobs",
   "kill", "printf", "pwd", "read", "test", "[", "true", "type", "ulimit", "umask", "unalias",
   "wait"]

inductive Meaning where
  | keyword
  | alias_ (value : String)
  | special
  | function
  | builtin
  | program (path : String) (tracked : Bool)
  | unknown (e : Refusal)
  deriving DecidableEq

def firstProgram (w : World) : Refusal → List String → Except Refusal String
  | refusal, [] => .error refusal
  | refusal, path :: paths =>
    match w.files.executable w.directory path with
    | .ok _ => .ok path
    | .error e => firstProgram w (if Files.leadsNowhere e then refusal else e) paths

/-- The path of a program. One that was found is kept, unless another search
than the usual one is asked for. -/
def programPath (name : String) (search? : Option (List String)) :
    Activity (Except Refusal (String × Bool)) := do
  if name.toList.contains '/' then
    let answer ← Task.inspect fun w => firstProgram w .missing [name]
    return answer.map fun path => (path, false)
  else
    let m ← get
    match if search?.isSome then none else m.found.lookup name with
    | some path => return .ok (path, true)
    | none =>
      let search ← match search? with
        | some search => pure search
        | none => searched
      let paths := search.map fun d => Files.inDirectory d name
      match ← Task.inspect fun w => firstProgram w .missing paths with
      | .ok path => do
        if search?.isNone then modify fun m => { m with found := m.found ++ [(name, path)] }
        return .ok (path, false)
      | .error e => return .error e

def commandMeaning (functions : Bool) (search? : Option (List String)) (name : String) :
    Activity Meaning := do
  if specialCommands.contains name then return .special
  else if functions && ((← get).functions.lookup name).isSome then return .function
  else if regularCommands.contains name then return .builtin
  else
    match ← programPath name search? with
    | .ok (path, tracked) => return .program path tracked
    | .error e => return .unknown e

def meaning (search? : Option (List String)) (name : String) : Activity Meaning := do
  match (← get).aliases.lookup name with
  | some value => if reserved.contains name then return .keyword else return .alias_ value
  | none =>
    if reserved.contains name then return .keyword else commandMeaning true search? name

def Meaning.shown (long : Bool) (name : String) : Meaning → Option String
  | .keyword => some (if long then name ++ " is a shell keyword" else name)
  | .alias_ value =>
    some (if long then name ++ " is an alias for " ++ value
      else "alias " ++ name ++ "=" ++ inQuotes value)
  | .special => some (if long then name ++ " is a special shell builtin" else name)
  | .function => some (if long then name ++ " is a shell function" else name)
  | .builtin => some (if long then name ++ " is a shell builtin" else name)
  | .program path tracked =>
    some (if long then name ++ " is " ++ (if tracked then "a tracked alias for " else "") ++ path
      else path)
  | .unknown _ => none

def describe (long : Bool) (search? : Option (List String)) (status : Nat) :
    List String → Activity Nat
  | [] => return status
  | name :: names => do
    match (← meaning search? name).shown long name with
    | some text => do
      write 1 (text ++ "\n")
      describe long search? status names
    | none => do
      if long then write 1 (name ++ ": not found\n")
      describe long search? 127 names

def type_ : Builtin := fun _ arguments => do
  let (_, names) ← options "" arguments
  describe true none 0 names

def standardPath : String := "/usr/local/sbin:/usr/local/bin:/usr/sbin:/usr/bin:/sbin:/bin"

def notFound (e : Refusal) : String := if Files.leadsNowhere e then "not found" else e.text

def hash : Builtin := fun _ arguments => do
  let (given, names) ← options "r" arguments
  if given ≠ [] then
    modify fun m => { m with found := [] }
    return 0
  else if names = [] then
    show_ (unlines ((tabulated 31 (← get).found).map (·.2)))
  else
    let mut status := 0
    for name in names do
      modify fun m => { m with found := m.found.filter (·.1 ≠ name) }
      match ← commandMeaning true none name with
      | .unknown e => do
        complain (name ++ ": " ++ notFound e)
        status := 1
      | _ => pure ()
    return status

/-- Shows what a name stands for. As a command in front of others it is no command at all. -/
def command : Builtin := fun _ arguments => do
  let (given, names) ← options "pvV" arguments
  let search? := if (given.lookup 'p').isSome then some (standardPath.splitOn ":") else none
  match (given.filter (·.1 ≠ 'p')).getLast?, names with
  | some (letter, _), name :: _ => describe (letter = 'V') search? 0 [name]
  | _, _ => return 0

def alias_ : Builtin := fun _ arguments => do
  if arguments = [] then
    show_ (String.join ((tabulated 39 (← get).aliases).map fun (name, value) =>
      name ++ "=" ++ inQuotes value ++ "\n"))
  else
    let mut status := 0
    for word in arguments do
      let (rest, value?) := assigned (word.drop 1).toString
      let name := (word.take 1).toString ++ rest
      match value?, (← get).aliases.lookup name with
      | some value, _ => modify fun m => { m with aliases := setEntry name value m.aliases }
      | none, some value => write 1 (name ++ "=" ++ inQuotes value ++ "\n")
      | none, none =>
        write 2 ("alias: " ++ name ++ " not found\n")
        status := 1
    return status

def unalias : Builtin := fun _ arguments => do
  let (given, names) ← options "a" arguments
  if given ≠ [] then
    modify fun m => { m with aliases := [] }
    return 0
  else
    let mut status := 0
    for name in names do
      if ((← get).aliases.lookup name).isNone then
        write 2 ("unalias: " ++ name ++ " not found\n")
        status := 1
      modify fun m => { m with aliases := m.aliases.filter (·.1 ≠ name) }
    return status

end WindowsListing.Unix.Script.Builtin
