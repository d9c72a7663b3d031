import WindowsListing.Unix.Calls

/-!
# Programs

A program is what a process does after it was started with a name, arguments
and an environment. A process becomes a program by the path of its file.
-/

set_option autoImplicit false

namespace WindowsListing.Unix

structure Start where
  name : String
  arguments : List String
  environment : List (String × String) := []

structure Programs where
  task : String → Start → Task Nat

abbrev Program := Programs → Start → Task Nat

namespace Program

def interpreter? (text : String) : Option (String × Option String) :=
  match text.toList with
  | '#' :: '!' :: cs =>
    let isBlank := fun (c : Char) => c = ' ' || c = '\t'
    let line := (cs.takeWhile (· ≠ '\n')).dropWhile isBlank
    let line := (line.reverse.dropWhile isBlank).reverse
    let path := line.takeWhile fun c => !isBlank c
    let argument := (line.drop path.length).dropWhile isBlank
    some (String.ofList path,
      if argument = [] then none else some (String.ofList argument))
  | _ => none

def interpreterLimit : Nat := 5

def becomeWithin (p : Programs) : Nat → String → Start → Task Refusal
  | 0, _, _ => return .tooManyLinks
  | n + 1, path, s => do
    match ← Task.inspect fun w => (w.files.executable w.directory path).map w.files.kind with
    | .error e => return e
    | .ok (.program name) =>
      Task.renew
      Task.finish (.exited ((← p.task name s) % 256))
    | .ok (.regular text) =>
      match interpreter? text with
      | some (interpreter, argument?) =>
        becomeWithin p n interpreter
          { s with name := interpreter, arguments := argument?.toList ++ path :: s.arguments }
      | none => return .notProgram
    | .ok _ => return .denied

def become (p : Programs) (path : String) (s : Start) : Task Refusal :=
  becomeWithin p interpreterLimit path s

def candidates (search : List String) (name : String) : List String :=
  if '/' ∈ name.toList then [name] else search.map fun d => Files.inDirectory d name

/-- Tries one path after the other. The first refusal of what is there
outweighs the paths that lead nowhere. A text that is no script of another
program is one of the shell. -/
def becomeFirst (p : Programs) (s : Start) : Refusal → List String → Task Refusal
  | refusal, [] => return refusal
  | refusal, path :: paths => do
    match ← become p path s with
    | .notProgram =>
      become p "/bin/sh" { s with name := "/bin/sh", arguments := path :: s.arguments }
    | e => becomeFirst p s (if Files.leadsNowhere refusal then e else refusal) paths

def searchOf (environment : List (String × String)) : List String :=
  ((environment.lookup "PATH").getD "/bin:/usr/bin").splitOn ":"

def becomeNamed (p : Programs) (environment : List (String × String)) (argv : List String) :
    Task Refusal :=
  match argv with
  | [] => return .missing
  | name :: arguments =>
    if name = "" then return .missing
    else
      becomeFirst p { name, arguments, environment } .missing
        (candidates (searchOf environment) name)

end Program

end WindowsListing.Unix
