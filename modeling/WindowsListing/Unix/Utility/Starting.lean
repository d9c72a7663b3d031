import WindowsListing.Unix.Fraction
import WindowsListing.Unix.Number
import WindowsListing.Unix.Signal
import WindowsListing.Unix.Utility.Sieve

/-!
# Programs that start others

The programs that change what another one is started with, that watch over it,
or that start it for what they read.
-/

set_option autoImplicit false

namespace WindowsListing.Unix.Utility
open Program

/-- Becomes the program of a command. A name that leads nowhere is told from
one that leads to what may not be executed. -/
def becoming (p : Programs) (environment : List (String × String)) (message : String → String)
    (argv : List String) : Task Nat := do
  let e ← becomeNamed p environment argv
  Task.complain (message (argv.headD "") ++ ": " ++ e.text ++ "\n")
  return if e = .missing then 127 else 126

def withEntry (environment : List (String × String)) (word : String) : List (String × String) :=
  let name := (word.takeWhile (· ≠ '=')).toString
  setEntry name (word.drop (name.length + 1)).toString environment

/-- The words of a text, in which quotation marks and backslashes keep blanks. -/
def wordsIn : Option Char → Option (List Char) → List Char → List (List Char)
  | _, begun, [] => begun.toList
  | some mark, begun, c :: cs =>
    if c = mark then wordsIn none begun cs
    else wordsIn (some mark) (some (begun.getD [] ++ [c])) cs
  | none, begun, '\\' :: c :: cs => wordsIn none (some (begun.getD [] ++ [c])) cs
  | none, begun, c :: cs =>
    if c = '\'' || c = '"' then wordsIn (some c) (some (begun.getD [])) cs
    else if Number.isBlank c then begun.toList ++ wordsIn none none cs
    else wordsIn none (some (begun.getD [] ++ [c])) cs

/-- An option that holds a whole command is taken apart in front of the others. -/
def withSplit (words : List String) : List String :=
  let split := fun (text : String) => (wordsIn none none text.toList).map String.ofList
  match words with
  | "-S" :: text :: rest => split text ++ rest
  | word :: rest =>
    if word.startsWith "-S" then split (word.drop 2).toString ++ rest
    else if word.startsWith "--split-string=" then split (word.drop 15).toString ++ rest
    else words
  | [] => []

def env : Program := fun p s =>
  let o := Options.read
    { plain := "i0v", valued := "uC", front := true
      long := [("ignore-environment", 'i'), ("null", '0'), ("unset", 'u'), ("chdir", 'C'),
        ("debug", 'v')] } (withSplit s.arguments)
  o.orElse "env" 125 do
    let (alone, operands) := match o.operands with
      | "-" :: operands => (true, operands)
      | operands => (o.has 'i', operands)
    let kept := if alone then []
      else s.environment.filter fun v => !(o.values 'u').contains v.1
    let given := operands.takeWhile (·.contains '=')
    let environment := given.foldl withEntry kept
    match operands.drop given.length with
    | [] =>
      let close := if o.has '0' then String.singleton (Char.ofNat 0) else "\n"
      put "env" (String.join (environment.map fun v => v.1 ++ "=" ++ v.2 ++ close))
      return 0
    | argv =>
      match o.value? 'C' with
      | none => becoming p environment (fun name => "env: " ++ inMarks name) argv
      | some path =>
        match ← Task.find path true with
        | .error e => say "env" (complaint "env" ("cannot change directory to " ++ inMarks path ++
            ": " ++ e.text) 125)
        | .ok n => do
          Task.enter n
          becoming p environment (fun name => "env: " ++ inMarks name) argv

def printenv : Program := fun _ s =>
  let o := Options.read { plain := "0", long := [("null", '0')] } s.arguments
  o.orElse "printenv" 2 do
    let close := if o.has '0' then String.singleton (Char.ofNat 0) else "\n"
    let found := o.operands.map fun name => s.environment.lookup name
    let texts := if o.operands = [] then s.environment.map fun v => v.1 ++ "=" ++ v.2
      else found.filterMap id
    put "printenv" (String.join (texts.map (· ++ close)))
    return if found.all Option.isSome then 0 else 1

def added? (words : List String) : Option (Int × List String) :=
  let number := fun (text : String) => Number.decimal? text
  match words with
  | "-n" :: text :: rest => (number text).map fun n => (n, rest)
  | word :: rest =>
    if word.startsWith "--adjustment=" then
      (number (word.drop 13).toString).map fun n => (n, rest)
    else if word.startsWith "-n" then (number (word.drop 2).toString).map fun n => (n, rest)
    else
      match word.toList with
      | '-' :: c :: cs =>
        if word = "--" then some (10, rest)
        else (number (String.ofList (c :: cs))).map fun n => (n, rest)
      | _ => some (10, words)
  | [] => some (10, [])

def nice : Program := fun p s => do
  match added? s.arguments with
  | none => say "nice" (misuse "nice" "invalid adjustment" 125)
  | some (_, []) => do
    put "nice" (toString (← Task.inspect fun w => w.mine.priority) ++ "\n")
    return 0
  | some (n, argv) => do
    Task.change fun w =>
      let priority := max 0 (min 19 ((w.mine.priority : Int) + n))
      w.setMine { w.mine with priority := priority.toNat }
    becoming p s.environment (fun name => "nice: " ++ inMarks name) argv

def nohup : Program := fun p s => do
  match if s.arguments.head? = some "--" then s.arguments.tail else s.arguments with
  | [] => say "nohup" (misuse "nohup" "missing operand" 125)
  | argv => do
    Task.dispose 1 true false
    becoming p s.environment (fun name => "nohup: failed to run command " ++ inMarks name) argv

def leadGroup : Task Unit := Task.change fun w => w.setMine { w.mine with group := w.self }

def setsid : Program := fun p s =>
  let o := Options.read { plain := "cfw", front := true, long := [("wait", 'w'), ("fork", 'f')] }
    s.arguments
  o.orElse "setsid" 1 do
    match o.operands with
    | [] => say "setsid" (misuse "setsid" "no command specified" 1)
    | argv =>
      let go : Task Nat := do
        leadGroup
        becoming p s.environment (fun name => "setsid: failed to execute " ++ name) argv
      if o.has 'f' then
        let _ ← Task.fork go
        return 0
      else go

def stdbuf : Program := fun p s =>
  let o := Options.read
    { valued := "ioe", front := true, long := [("input", 'i'), ("output", 'o'), ("error", 'e')] }
    s.arguments
  o.orElse "stdbuf" 125 do
    match o.operands with
    | [] => say "stdbuf" (misuse "stdbuf" "missing operand" 125)
    | argv =>
      if o.given = [] then
        say "stdbuf" (misuse "stdbuf" "you must specify a buffering mode option" 125)
      else
        becoming p s.environment (fun name => "stdbuf: failed to run command " ++ inMarks name)
          argv

def duration? (text : String) : Option Nat :=
  let cs := text.toList
  let (number, unit) := match cs.getLast? with
    | some 's' => (cs.dropLast, 1)
    | some 'm' => (cs.dropLast, 60)
    | some 'h' => (cs.dropLast, 3600)
    | some 'd' => (cs.dropLast, 86400)
    | _ => (cs, 1)
  if number = "inf".toList || number = "infinity".toList then some 1000000000000000000
  else
    match Fraction.ahead? number with
    | some (false, f, []) =>
      some ((f.numerator * 1000000 * unit + f.denominator - 1) / f.denominator)
    | _ => none

def sleep : Program := fun _ s =>
  let o := Options.read {} s.arguments
  o.orElse "sleep" 1 do
    match o.operands.mapM duration? with
    | none =>
      let bad := (o.operands.find? fun w => (duration? w).isNone).getD ""
      say "sleep" (misuse "sleep" ("invalid time interval " ++ inMarks bad) 1)
    | some [] => say "sleep" (misuse "sleep" "missing operand" 1)
    | some times => do
      Task.sleep (times.foldl (· + ·) 0)
      return 0

def signalOf? (text : String) : Option Nat :=
  let upper := text.map Char.toUpper
  Signal.ofText? (if upper.startsWith "SIG" then (upper.drop 3).toString else text)

structure Watch where
  child : Nat
  signal : Nat
  patience? : Option Nat
  alone : Bool
  late : Bool := false

def Watch.send (t : Watch) (signal : Nat) : Task Unit := do
  let _ ← Task.kill t.child signal
  if !t.alone then
    if signal ≠ 9 then Task.dispose signal true false
    let _ ← Task.kill 0 signal
    if signal ≠ 9 && signal ≠ 18 then
      let _ ← Task.kill t.child 18
      Task.dispose 18 true false
      let _ ← Task.kill 0 18

def watching : Nat → Watch → Option Nat → Task (Ending × Bool)
  | 0, t, _ => return (.exited 125, t.late)
  | n + 1, t, moment? => do
    match ← Task.await (· = t.child) true moment? with
    | .gone _ e => return (e, t.late)
    | .nobody => return (.exited 125, t.late)
    | .interrupted => do
      for signal in ← Task.taken do
        t.send signal
      watching n t moment?
    | .late => do
      t.send t.signal
      let now ← Task.inspect World.clock
      watching n { t with late := true, signal := 9, patience? := none }
        (t.patience?.map (now + ·))

def timeout : Program := fun p s =>
  let o := Options.read
    { plain := "pvf", valued := "sk", front := true
      long := [("preserve-status", 'p'), ("foreground", 'f'), ("verbose", 'v'), ("signal", 's'),
        ("kill-after", 'k')] } s.arguments
  o.orElse "timeout" 125 do
    match o.operands, o.value? 's' with
    | time :: operand :: operands, given? =>
      match duration? time, (given?.map signalOf?).getD (some 15), o.value? 'k' with
      | none, _, _ =>
        say "timeout" (misuse "timeout" ("invalid time interval " ++ inMarks time) 125)
      | _, none, _ =>
        say "timeout" (misuse "timeout" (inMarks (given?.getD "") ++ ": invalid signal") 125)
      | some limit, some signal, patience? => do
        if !o.has 'f' then leadGroup
        for n in [1, 2, 3, 15, signal].eraseDups do
          if n ≠ 9 then Task.dispose n false true
        let child ← Task.fork do
          becoming p s.environment (fun name =>
            "timeout: failed to run command " ++ inMarks name) (operand :: operands)
        let now ← Task.inspect World.clock
        let moment? := if limit = 0 then none else some (now + limit)
        let patience? := (patience?.bind duration?).filter (· > 0)
        let (ending, late) ← watching Task.enough
          { child, signal, patience?, alone := o.has 'f' } moment?
        match ending with
        | .exited status => return if late && !o.has 'p' then 124 else status
        | .killed signal => do
          if late then
            return if o.has 'p' || signal = 9 then 128 + signal else 124
          else
            Task.dispose signal false false
            let _ ← Task.kill (← Task.self) signal
            return 128 + signal
    | _, _ => say "timeout" (misuse "timeout" "missing operand" 125)

def yes : Program := fun _ s =>
  let words := if s.arguments.head? = some "--" then s.arguments.tail else s.arguments
  let line := (if words = [] then "y" else " ".intercalate words) ++ "\n"
  let text := String.join (List.replicate (max 1 (8192 / line.length)) line)
  writing text Task.enough
where
  writing (text : String) : Nat → Task Nat
    | 0 => return 1
    | n + 1 => do
      match ← Task.write 1 text with
      | .ok _ => writing text n
      | .error e => do
        Task.complain ("yes: standard output: " ++ e.text ++ "\n")
        return 1

def continued : List String → List String
  | l :: m :: ls =>
    if l.toList.getLast?.any Number.isBlank then
      match continued (m :: ls) with
      | next :: rest => (l ++ next) :: rest
      | [] => [l]
    else l :: continued (m :: ls)
  | ls => ls

def wordLines (o : Options) (text : String) : List (List String) :=
  match o.last? "0d" with
  | some c =>
    let mark := if c = '0' then String.singleton (Char.ofNat 0)
      else if o.value? 'd' = some "\\n" then "\n"
      else if o.value? 'd' = some "\\t" then "\t"
      else if o.value? 'd' = some "\\0" then String.singleton (Char.ofNat 0)
      else ((o.value? 'd').getD "\n").take 1 |>.toString
    let parts := text.splitOn mark
    (if parts.getLast? = some "" then parts.dropLast else parts).map fun part => [part]
  | none =>
    if o.has 'I' then
      ((lines text).map fun l => (l.dropWhile Number.isBlank).toString).filter (· ≠ "") |>.map
        fun l => [String.ofList ((wordsIn none none (l.toList.flatMap fun c =>
          if Number.isBlank c then ['\\', c] else [c])).flatten)]
    else
      let whole := wordsIn none none text.toList
      if o.has 'L' then
        (continued (lines text)).map fun l => (wordsIn none none l.toList).map String.ofList
      else [whole.map String.ofList]

def callsFor (o : Options) (command : List String) (text : String) : List (List String) :=
  let rows := wordLines o text
  match o.value? 'I', (o.value? 'L').bind Number.natural? with
  | some mark, _ =>
    rows.map fun row => command.map fun w => (row.headD "").intercalate (w.splitOn mark)
  | none, lines? =>
    let words := rows.flatten
    let size := max 1 (((o.value? 'n').bind Number.natural?).getD words.length)
    if words = [] then if o.has 'r' then [] else [command]
    else if let some n := lines? then
      (chunks (max 1 n) rows.length (rows.filter (· ≠ []))).map fun rows =>
        command ++ rows.flatten
    else (chunks size words.length words).map (command ++ ·)

/-- The status after a call, given the one before. The flag tells that no more calls are made. -/
def afterCall (status : Nat) : Ending → Nat × Bool
  | .exited 0 => (status, false)
  | .exited 126 => (126, true)
  | .exited 127 => (127, true)
  | .exited 255 => (124, true)
  | .exited _ => (123, false)
  | .killed _ => (125, true)

def callEach (p : Programs) (environment : List (String × String)) (traced : Bool) :
    List (List String) → Nat → Task Nat
  | [], status => return status
  | argv :: calls, status => do
    if traced then Task.complain (" ".intercalate argv ++ "\n")
    let child ← Task.fork do
      Task.close 0
      let _ ← Task.openAs "/dev/null" .input
      becoming p environment (fun name => "xargs: " ++ name) argv
    match ← Task.await (· = child) false none with
    | .gone _ e =>
      let (status, finished) := afterCall status e
      if finished then return status else callEach p environment traced calls status
    | _ => return status

def xargs : Program := fun p s =>
  let o := Options.read
    { plain := "0rtxp", valued := "nIdLPsEa", optional := "ie", front := true
      long := [("null", '0'), ("no-run-if-empty", 'r'), ("verbose", 't'), ("max-args", 'n'),
        ("replace", 'i'), ("delimiter", 'd'), ("max-lines", 'L'), ("max-procs", 'P'),
        ("max-chars", 's'), ("arg-file", 'a')] } s.arguments
  let o := if o.has 'i' then
      let mark := (o.value? 'i').getD ""
      { o with given := o.given ++ [('I', if mark = "" then "\x7b\x7d" else mark)] }
    else o
  o.orElse "xargs" 1 do
    let command := if o.operands = [] then ["echo"] else o.operands
    match ← textOf ((o.value? 'a').getD "-") with
    | .error e => say "xargs" (complaint "xargs" ("Cannot open input file '" ++
        (o.value? 'a').getD "" ++ "': " ++ e.text) 1)
    | .ok text => callEach p s.environment (o.has 't') (callsFor o command text) 0

def which : Program := fun _ s =>
  let o := Options.read { plain := "as" } s.arguments
  o.orElse "which" 2 do
    let search := searchOf s.environment
    let found ← Task.inspect fun w => o.operands.map fun name =>
      (candidates search name).filter fun path =>
        (w.files.executable w.directory path).toOption.isSome
    if !o.has 's' then
      put "which" (unlines (found.flatMap fun paths => if o.has 'a' then paths else paths.take 1))
    return if o.operands = [] || found.any List.isEmpty then 1 else 0

def kill : Program := fun _ s =>
  let (signal?, words) := match s.arguments with
    | "-s" :: name :: words => (signalOf? name, words)
    | word :: words =>
      if word.startsWith "-" && word ≠ "--" then (signalOf? (word.drop 1).toString, words)
      else (some 15, s.arguments)
    | [] => (some 15, [])
  match signal?, words.filter (· ≠ "--") with
  | none, _ => say "kill" (misuse "kill" "unknown signal" 1)
  | _, [] => say "kill" (misuse "kill" "not enough arguments" 1)
  | some signal, words => do
    let mut status := 0
    for word in words do
      match Number.decimal? word with
      | some n =>
        match ← Task.kill n signal with
        | .ok _ => pure ()
        | .error e => do
          Task.complain ("kill: (" ++ word ++ "): " ++ e.text ++ "\n")
          status := 1
      | none => do
        Task.complain ("kill: failed to parse argument: '" ++ word ++ "'\n")
        status := 1
    return status

end WindowsListing.Unix.Utility
