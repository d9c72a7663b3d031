import WindowsListing.Unix.Script.Builtin.Flow
import WindowsListing.Unix.Script.Builtin.Names
import WindowsListing.Unix.Script.Builtin.Places
import WindowsListing.Unix.Script.Builtin.Signals
import WindowsListing.Unix.Script.Builtin.Variables

/-!
# Running commands

What each form of command does, given an interpreter for the commands inside
it.
-/

set_option autoImplicit false

namespace WindowsListing.Unix.Script
open Activity

namespace Builtin

def special (tested : Bool) : List (String × Builtin) :=
  [(":", fun _ _ => return 0), (".", dot), ("break", leaving .leave),
   ("continue", leaving .next), ("eval", eval tested), ("exit", exit), ("export", export_),
   ("local", local_), ("readonly", readonly), ("return", return_), ("set", set_),
   ("shift", shift), ("times", times), ("trap", trap), ("unset", unset)]

def regular : List (String × Builtin) :=
  [("alias", alias_), ("bg", resume), ("cd", cd), ("chdir", cd), ("command", command),
   ("echo", echo), ("false", fun _ _ => return 1), ("fg", resume), ("getopts", getopts),
   ("hash", hash), ("jobs", jobs), ("kill", kill),
   ("printf", ofUtility (Utility.printf .plainShell)), ("pwd", pwd), ("read", read),
   ("test", ofUtility (Utility.test .shell "test")),
   ("[", ofUtility (Utility.test .shell "[")), ("true", fun _ _ => return 0), ("type", type_),
   ("ulimit", ulimit), ("umask", umask), ("unalias", unalias), ("wait", wait)]

def declaring : List String := ["export", "readonly", "local"]

end Builtin

namespace Evaluation

/-- Looks at what has happened meanwhile: at signals, and at the status of a
command, whose failure may end the script. -/
def settle (i : Interpreter) (p : Position) (status : Nat) : Activity Unit := do
  setStatus status
  i.attend
  let m ← get
  if m.options.contains 'e' && !p.tested && m.status ≠ 0 then raise .ended

def hasTraps : Activity Bool := return (← get).traps.any fun t => t.action ≠ ""

def become (i : Interpreter) (paths : List String) (argv : List String) : Activity Unit := do
  let m ← get
  let s : Start :=
    { name := argv.headD "", arguments := argv.tail, environment := environmentOf m }
  let e ← Program.becomeFirst i.programs s .missing paths
  complain (argv.headD "" ++ ": " ++ Builtin.notFound e)
  let lost := Files.leadsNowhere e || e = .tooManyLinks || e = .nameTooLong
  setStatus (if lost then 127 else 126)
  raise .ended

def program (i : Interpreter) (p : Position) (paths : List String) (argv : List String) :
    Activity Nat := do
  if p.last && !(← hasTraps) then
    become i paths argv
    return (← get).status
  else
    let child ← Activity.fork Interpreter.childOf do
      let _ ← attempt (become i paths argv)
      return (← get).status
    Jobs.finish [child]

def exec (i : Interpreter) (argv : List String) : Activity Nat := do
  match argv with
  | [] => return 0
  | name :: _ =>
    let search ← searched
    become i (Program.candidates search name) argv
    return (← get).status

def expandSome (i : Interpreter) : List Word → Activity (List String × List Word)
  | [] => return ([], [])
  | word :: words => do
    match ← Expansion.arguments i word with
    | [] => expandSome i words
    | made => return (made, words)

structure Summons where
  argv : List String := []
  rest : List Word := []
  bare : Bool := false
  standard : Bool := false
  passed : List String := []
  first : Builtin.Meaning := .unknown .missing

/-- Goes past the options of the word that passes functions over, if a command
is behind them. -/
def behind? (i : Interpreter) : Nat → Summons → Activity (Option Summons)
  | 0, _ => return none
  | n + 1, s => do
    let (argv, rest) ← if s.argv.isEmpty then expandSome i s.rest else pure (s.argv, s.rest)
    match argv with
    | [] => return none
    | word :: words =>
      let past := { s with argv := words, rest, passed := s.passed ++ [word] }
      match word.toList with
      | ['-', '-'] => do
        let (words, rest) ← if words.isEmpty then expandSome i rest else pure (words, rest)
        return if words.isEmpty then none else some { past with argv := words, rest }
      | '-' :: c :: cs =>
        if (c :: cs).all (· = 'p') then behind? i n { past with standard := true }
        else return none
      | _ => return some { s with argv, rest }

def standsFor (bare : Bool) (name : String) : Activity Builtin.Meaning := do
  if specialCommands.contains name then return .special
  else if !bare && ((← get).functions.lookup name).isSome then return .function
  else if Builtin.regularCommands.contains name then return .builtin
  else return .unknown .missing

def summons (i : Interpreter) : Nat → Summons → Activity Summons
  | 0, s => return s
  | n + 1, s => do
    let name := s.argv.headD ""
    let meaning ← standsFor s.bare name
    let s := if s.first = .unknown .missing then { s with first := meaning } else s
    if name = "command" && meaning = .builtin then
      let past := { s with argv := s.argv.tail, passed := s.passed ++ [name], bare := true }
      match ← behind? i (s.rest.length + s.argv.length + 1) past with
      | some s => summons i n s
      | none => return s
    else return s

def expandRest (i : Interpreter) (declares : Bool) (words : List Word) :
    Activity (List String) := do
  let made ← words.mapM fun word => do
    if declares && (assignment? word).isSome then
      return [← Expansion.text i Expansion.assigned word]
    else Expansion.arguments i word
  return made.flatten

def tracePrompt (i : Interpreter) : Activity String := do
  let text := (← valueOf? "PS4").getD ""
  let length := text.length
  match parts (commands { lines := 0 } (length + 1)) (length + 1) .document text.toList with
  | .ok (word, _) => do
    let m ← get
    modify fun m => { m with options := m.options.filter (· ≠ 'x') }
    let shown ← Expansion.text i Expansion.literal word
    modify fun now => { now with options := m.options }
    return shown
  | .error _ => return text

def trace (i : Interpreter) (descriptor : Nat) (values : List (String × String))
    (argv : List String) : Activity Unit := do
  if (← get).options.contains 'x' then
    let words := values.map (fun v => v.1 ++ "=" ++ v.2) ++ argv
    write descriptor ((← tracePrompt i) ++ " ".intercalate words ++ "\n")

def call (i : Interpreter) (p : Position) (body : Command) (arguments : List String) :
    Activity Nat := do
  let m ← get
  if m.depth ≥ 1000 then fail "Maximum function recursion depth (1000) reached"
  else
    set { m with
      arguments, loops := 0, depth := m.depth + 1, optionIndex := 1, optionOffset := none }
    let result ← attempt (i.run { tested := p.tested } body)
    modify fun now => { now with
      arguments := m.arguments, loops := m.loops, depth := m.depth
      optionIndex := m.optionIndex, optionOffset := m.optionOffset }
    match result with
    | .error (.answer _) => return (← get).status
    | result =>
      settled result
      return (← get).status

def perform (i : Interpreter) (b : Builtin) (argv : List String) : Activity Nat := do
  let m ← get
  set { m with command := argv.headD "" }
  eventually (b i argv.tail) (modify fun now => { now with command := m.command })

def obey (i : Interpreter) (p : Position) (s : Summons) (argv : List String) :
    Activity Nat := do
  let name := argv.headD ""
  let m ← get
  let function? := if s.bare then none else m.functions.lookup name
  match (Builtin.special p.tested).lookup name, function?, Builtin.regular.lookup name with
  | some b, _, _ => perform i b argv
  | none, some body, _ => call i p body argv.tail
  | none, none, some b => perform i b argv
  | none, none, none =>
    if name = "exec" then perform i (fun i arguments => exec i arguments) argv
    else if '/' ∈ name.toList then program i p [name] argv
    else
      let search? := if s.standard then some (Builtin.standardPath.splitOn ":") else none
      match ← Builtin.programPath name search? with
      | .ok (path, _) => program i p [path] argv
      | .error e => refuse (name ++ ": " ++ Builtin.notFound e) 127

def gather : Activity Unit := do
  if !(← get).jobs.isEmpty then Jobs.gather

def assignAll (i : Interpreter) (own exported : Bool) :
    List (String × Word) → Activity (List (String × String))
  | [] => return []
  | (name, word) :: rest => do
    let value ← Expansion.text i Expansion.assigned word
    if own then Builtin.makeOwn true (name ++ "=" ++ value)
    else give name (some value) exported
    return (name, value) :: (← assignAll i own exported rest)

/-- Runs a simple command: words first, then redirections, then assignments.
What goes wrong in a special command is not survived. -/
def simple (i : Interpreter) (p : Position) (line : Nat) (assignments : List (String × Word))
    (words : List Word) (redirections : List Redirection) : Activity Unit := do
  modify fun m => { m with line, substituted := 0 }
  let (front, rest) ← expandSome i words
  let s ← if front.isEmpty then pure {}
    else summons i (words.length + 1) { argv := front, rest }
  let argv := s.argv ++ (← expandRest i (Builtin.declaring.contains (s.argv.headD "")) s.rest)
  let name := argv.headD ""
  let isExec := name = "exec"
  let special := s.first = .special
  match ← Redirection.put? i redirections with
  | none => do
    setStatus 2
    if special then raise .error else settle i p 2
  | some displaced => do
    let complaints := ((displaced.lookup 2).bind id).getD 2
    let own := !argv.isEmpty && !special
    let body : Activity Nat := do
      let values ← assignAll i own (isExec && argv.length > 1) assignments
      trace i complaints values (s.passed ++ argv)
      if argv.isEmpty then return (← get).substituted
      else
        match ← attempt (obey i p s argv) with
        | .error .error => do
          if s.first = .builtin then return (← get).status else raise .error
        | result => settled result
    let hasScope := own && (!assignments.isEmpty || s.first = .function)
    let result ← attempt (if hasScope then withScope body else body)
    if isExec then Redirection.release displaced else Redirection.restore displaced
    settled (result.map fun _ => ())
    match result with
    | .ok status => do
      gather
      settle i p status
    | .error _ => pure ()

def detach (isFirst : Bool) : Activity Unit := do
  Task.dispose 2 true false
  Task.dispose 3 true false
  if isFirst then
    Task.close 0
    let _ ← Task.openAs "/dev/null" .input

def stages (i : Interpreter) (p : Position) (background : Bool) :
    Option Nat → List Nat → List Command → Activity (List Nat)
  | _, processes, [] => return processes
  | source?, processes, c :: cs => do
    prehash c
    let ends? ← if cs.isEmpty then pure none else do pure (some (← Task.pipe))
    let child ← i.branch do
      if background then detach processes.isEmpty
      match ends? with
      | some (next, _) => Task.close next
      | none => pure ()
      match source? with
      | some source => lead source 0
      | none => pure ()
      match ends? with
      | some (_, target) => lead target 1
      | none => pure ()
      i.run { p with last := true } c
    match source? with
    | some source => Task.close source
    | none => pure ()
    match ends? with
    | some (_, target) => Task.close target
    | none => pure ()
    stages i p background (ends?.map (·.1)) (processes ++ [child]) cs
where
  lead (source n : Nat) : Activity Unit := do
    if source > n then
      let _ ← Task.duplicate source n
      Task.close source
  prehash : Command → Activity Unit
    | .simple _ _ (word :: _) _ =>
      match bareText? word with
      | some name => do
        if isName name && (← standsFor false name) = .unknown .missing then
          let _ ← Builtin.programPath name none
      | none => pure ()
    | _ => pure ()

def background (i : Interpreter) (p : Position) (c : Command) : Activity Unit := do
  let processes ← match c with
    | .pipeline cs => stages i p true none [] cs
    | c => do
      let child ← i.branch do
        detach true
        i.run { last := true } c
      pure [child]
  let _ ← Jobs.register processes
  modify fun m => { m with lastJob := processes.getLast? }
  gather
  setStatus 0

/-- Runs a body as a process of its own. Where nothing is left to do, the
process at hand is that. -/
def subshell (i : Interpreter) (p : Position) (c : Command) (redirections : List Redirection) :
    Activity Unit := do
  let body : Activity Unit := do
    Redirection.forGood i redirections
    i.run { p with last := true } c
  if p.last && !(← hasTraps) then
    modify Interpreter.childOf
    body
    raise .ended
  else
    let child ← i.branch body
    settle i p (← Jobs.finish [child])

def goesOn (body : Activity Unit) : Activity Bool := do
  match ← attempt body with
  | .ok _ => return true
  | .error (.leave n) => if n ≤ 1 then return false else raise (.leave (n - 1))
  | .error (.next n) => if n ≤ 1 then return true else raise (.next (n - 1))
  | .error flow => raise flow

def inLoop (body : Activity Unit) : Activity Unit := do
  let loops := (← get).loops
  modify fun m => { m with loops := loops + 1 }
  eventually body (modify fun m => { m with loops })

/-- Repeats a body as long as its test asks for it. The status is that of the
body at its last time. -/
def repeating (i : Interpreter) (p : Position) (until_ : Bool) (test body : Command) :
    Nat → Nat → Activity Unit
  | 0, _ => raise .exhausted
  | n + 1, status => do
    match ← attempt (i.run .condition test) with
    | .error (.leave k) =>
      setStatus status
      if k > 1 then raise (.leave (k - 1))
    | .error (.next k) =>
      if k > 1 then raise (.next (k - 1)) else repeating i p until_ test body n status
    | .error flow => raise flow
    | .ok _ =>
      if ((← get).status = 0) != until_ then
        if ← goesOn (i.run p.inner body) then
          repeating i p until_ test body n (← get).status
      else setStatus status

def forEach (i : Interpreter) (p : Position) (name : String) (body : Command) :
    List String → Activity Unit
  | [] => pure ()
  | value :: values => do
    assign name value
    if ← goesOn (i.run p.inner body) then forEach i p name body values

def choose (i : Interpreter) (p : Position) (word : List Char) :
    List (List Word × Command) → Activity Unit
  | [] => setStatus 0
  | (patterns, body) :: branches => do
    if ← covers patterns then
      match body with
      | .nothing => setStatus 0
      | body => i.run p body
    else choose i p word branches
where
  covers : List Word → Activity Bool
    | [] => return false
    | pattern :: patterns => do
      if Wildcard.covers (← Expansion.pattern i pattern) word then return true
      else covers patterns

def succeeds (i : Interpreter) (test : Command) : Activity Bool := do
  i.run .condition test
  return (← get).status = 0

def form (i : Interpreter) (p : Position) : Command → Activity Unit
  | .nothing => pure ()
  | .simple line assignments words redirections =>
    simple i p line assignments words redirections
  | .pipeline cs => do
    let processes ← stages i p false none [] cs
    settle i p (← Jobs.finish processes)
  | .negated c => do setStatus (if ← succeeds i c then 1 else 0)
  | .both c d => do
    i.run .condition c
    if (← get).status = 0 then i.run p d
  | .either c d => do
    i.run .condition c
    if (← get).status ≠ 0 then i.run p d
  | .sequence c d => do
    i.run p.inner c
    i.run p d
  | .background c => background i p c
  | .subshell c redirections => subshell i p c redirections
  | .conditional test body otherwise => do
    if ← succeeds i test then i.run p body
    else
      match otherwise with
      | .nothing => setStatus 0
      | otherwise => i.run p otherwise
  | .loop until_ test body => inLoop (repeating i p until_ test body Task.enough 0)
  | .each name words? body => do
    let values ← match words? with
      | some words => expandRest i false words
      | none => do pure (← get).arguments
    if values = [] then setStatus 0 else inLoop (forEach i p name body values)
  | .choice word branches => do
    choose i p (← Expansion.text i Expansion.single word).toList branches
  | .define name body => do
    modify fun m => { m with
      functions := setEntry name body m.functions
      found := m.found.filter (·.1 ≠ name) }
    setStatus 0
  | .redirected c redirections => do
    match ← Redirection.put? i redirections with
    | none => settle i p 2
    | some displaced => eventually (i.run p.inner c) (Redirection.restore displaced)

def run (i : Interpreter) (p : Position) (c : Command) : Activity Unit := do
  if (← get).options.contains 'n' then pure () else form i p c

def fault {α : Type} (lines : Nat) (f : Fault) : Activity α := do
  modify fun m => { m with line := lines + 1 - f.left }
  fail ("Syntax error: " ++ f.reason.text)

def runLines (i : Interpreter) (p : Position) (lines : Nat) :
    Nat → Bool → List Char → Activity Unit
  | 0, _, _ => raise .exhausted
  | _, ran, [] => if ran then pure () else setStatus 0
  | n + 1, ran, cs => do
    match completeLine { lines, aliases := (← get).aliases } cs with
    | .error f => fault lines f
    | .ok (.nothing, rest) => runLines i p lines n ran rest
    | .ok (c, rest) =>
      i.run { p with last := p.last && rest.isEmpty && cs.getLast? ≠ some '\n' } c
      runLines i p lines n true rest

def source (i : Interpreter) (p : Position) (text : String) : Activity Unit :=
  let cs := text.toList
  runLines i p (newlines cs) (cs.length + 1) false cs

end Evaluation

def Interpreter.above (i : Interpreter) : Interpreter where
  run := Evaluation.run i
  source := Evaluation.source i
  expand := Expansion.expand i
  programs := i.programs

def interpreter (programs : Programs) : Nat → Interpreter
  | 0 => {
    run := fun _ _ => raise .exhausted
    source := fun _ _ => raise .exhausted
    expand := fun _ _ => raise .exhausted
    programs }
  | n + 1 => {
    run := fun p c => (interpreter programs n).above.run p c
    source := fun p text => (interpreter programs n).above.source p text
    expand := fun p word => (interpreter programs n).above.expand p word
    programs }

end WindowsListing.Unix.Script
