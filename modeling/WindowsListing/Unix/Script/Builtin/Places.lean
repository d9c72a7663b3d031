import WindowsListing.Unix.Script.Builtin

/-!
# Places and limits

The commands that change the working directory and what files are made with.
A script keeps the way on which it came to its directory, links included.
-/

set_option autoImplicit false

namespace WindowsListing.Unix.Script.Builtin
open Activity

/-- The options of commands about directories, of which the last one counts:
whether links are to be resolved. -/
def physical (words : List String) : Activity (Bool × List String) := do
  let (given, words) ← options "LP" words
  return (given.getLast?.map (·.1) = some 'P', words)

def composed (names : List String) (path : List String) : List String :=
  path.foldl (fun names name =>
    if name = "" || name = "." then names
    else if name = ".." then names.dropLast
    else names ++ [name]) names

/-- The path of a directory, as a script comes to it from the one at hand. Two
slashes in front are kept. -/
def wayTo (directory path : String) : String :=
  let doubled := fun (p : String) => p.startsWith "//" && !p.startsWith "///"
  let base := if path.startsWith "/" then path else directory
  let front := if doubled base then "//" else "/"
  let names := if path.startsWith "/" then [] else composed [] (directory.splitOn "/")
  front ++ "/".intercalate (composed names (path.splitOn "/"))

def goTo (isPhysical : Bool) (path : String) : Activity Bool := do
  let m ← get
  let target := if isPhysical then path else wayTo m.directory path
  match ← Task.find target true with
  | .error _ => return false
  | .ok n =>
    let files ← Task.files
    if !files.isDirectory n then return false
    else
      Task.enter n
      let directory := if isPhysical then files.pathOf n else target
      give "OLDPWD" (some m.directory) true
      give "PWD" (some directory) true
      modify fun m => { m with
        directory, found := m.found.filter fun f => f.2.startsWith "/" }
      return true

def isDotted (path : String) : Bool :=
  match (path.splitOn "/").head? with
  | some "." => true
  | some ".." => true
  | _ => false

def chosen? (name : String) : List String → Activity (Option (String × Bool))
  | [] => return none
  | d :: ds => do
    let path := Files.inDirectory d name
    match ← Task.find path true with
    | .ok n =>
      if (← Task.files).isDirectory n then return some (path, d ≠ "") else chosen? name ds
    | .error _ => chosen? name ds

def cd : Builtin := fun _ arguments => do
  let (isPhysical, words) ← physical arguments
  let back := words.head? = some "-"
  let target ← match words with
    | [] => do pure ((← valueOf? "HOME").getD "")
    | "-" :: _ => do pure ((← valueOf? "OLDPWD").getD "")
    | word :: _ => pure word
  let choice? ←
    if target.startsWith "/" || isDotted target then pure none
    else
      match ← valueOf? "CDPATH" with
      | some path => chosen? (if target = "" then "." else target) (path.splitOn ":")
      | none => pure none
  let (path, shown) := choice?.getD (if target = "" then "." else target, false)
  if ← goTo isPhysical path then
    if back || shown then show_ ((← get).directory ++ "\n") else return 0
  else fail ("can't cd to " ++ target)

def pwd : Builtin := fun _ arguments => do
  let (isPhysical, _) ← physical arguments
  if isPhysical then
    show_ ((← Task.inspect fun w => w.files.pathOf w.directory) ++ "\n")
  else show_ ((← get).directory ++ "\n")

def octal (n : Nat) : String := String.ofList (Nat.toDigits 8 n)

def padOctal (n : Nat) : String :=
  let digits := octal n
  String.ofList (List.replicate (4 - digits.length) '0') ++ digits

def symbolicMask (mask : Nat) : String :=
  let rights := fun (n : Nat) => String.join
    (((["r", "w", "x"].zip [4, 2, 1]).filter fun r => n / r.2 % 2 = 0).map (·.1))
  "u=" ++ rights (mask / 64) ++ ",g=" ++ rights (mask / 8 % 8) ++ ",o=" ++ rights (mask % 8)

def changedRights? (rights : Nat) (who : List Char) : List Char → Option Nat
  | [] => some rights
  | sign :: cs =>
    if sign ≠ '=' && sign ≠ '+' && sign ≠ '-' then none
    else
      let letters := cs.takeWhile fun c => !"=+-".contains c
      let value? := letters.foldl (fun v? c => v?.bind fun v =>
        match c with
        | 'r' => some (v ||| 4)
        | 'w' => some (v ||| 2)
        | 'x' => some (v ||| 1)
        | 'X' => some (if rights &&& 0o111 ≠ 0 then v ||| 1 else v)
        | 's' => some v
        | 't' => some v
        | 'u' => some (v ||| rights / 64 % 8)
        | 'g' => some (v ||| rights / 8 % 8)
        | 'o' => some (v ||| rights % 8)
        | _ => none) (some 0)
      match value? with
      | none => none
      | some v =>
        let all := who = [] || who.contains 'a'
        let place := fun (c : Char) (shift : Nat) (n : Nat) =>
          if all || who.contains c then n * shift else 0
        let given := place 'u' 64 v + place 'g' 8 v + place 'o' 1 v
        let scope := place 'u' 64 7 + place 'g' 8 7 + place 'o' 1 7
        let rights :=
          if sign = '+' then rights ||| given
          else if sign = '-' then rights &&& (0o777 ^^^ given)
          else (rights &&& (0o777 ^^^ scope)) ||| given
        changedRights? rights who (cs.drop letters.length)
termination_by cs => cs.length

def rightsOf? (rights : Nat) (text : String) : Option Nat :=
  (text.splitOn ",").foldl (fun rights? clause => rights?.bind fun rights =>
    let who := clause.toList.takeWhile fun c => "ugoa".contains c
    changedRights? rights who (clause.toList.drop who.length)) (some rights)

def umask : Builtin := fun _ arguments => do
  let (given, words) ← options "S" arguments
  let mask ← Task.inspect fun w => w.mine.mask
  match words with
  | [] => show_ ((if given = [] then padOctal mask else symbolicMask mask) ++ "\n")
  | word :: _ =>
    let mask ←
      if word.toList.head?.any Char.isDigit then
        match Number.value? 8 word.toList with
        | some mask => pure (mask % 512)
        | none => fail ("Illegal number: " ++ word)
      else
        match rightsOf? (0o777 ^^^ mask) word with
        | some rights => pure (0o777 ^^^ rights)
        | none => fail ("Illegal mode: " ++ word)
    Task.change fun w => w.setMine { w.mine with mask }
    return 0

def limits : List (Char × String × String) :=
  [('t', "time(seconds)", "unlimited"), ('f', "file(blocks)", "unlimited"),
   ('d', "data(kbytes)", "unlimited"), ('s', "stack(kbytes)", "8192"),
   ('c', "coredump(blocks)", "0"), ('m', "memory(kbytes)", "unlimited"),
   ('l', "locked memory(kbytes)", "8192"), ('p', "process", "unlimited"),
   ('n', "nofiles", "1024"), ('v', "vmemory(kbytes)", "unlimited"), ('w', "locks", "unlimited"),
   ('r', "rtprio", "0")]

def ulimit : Builtin := fun _ arguments => do
  let (given, words) ← options "HSatfdsmcplnvwr" arguments
  let own := (← get).limits
  let value := fun (c : Char) =>
    ((own.lookup c).or ((limits.lookup c).map (·.2))).getD "unlimited"
  let letter := ((given.filter fun g => g.1 ≠ 'H' && g.1 ≠ 'S').getLast?.map (·.1)).getD 'f'
  let all := letter = 'a'
  match words with
  | [] =>
    if all then
      show_ (String.join (limits.map fun (c, name, _) =>
        name ++ String.ofList (List.replicate (20 - name.length) ' ') ++ " " ++ value c ++ "\n"))
    else show_ (value letter ++ "\n")
  | word :: more =>
    if all || more ≠ [] then fail "too many arguments"
    else if word ≠ "unlimited" && !(word.toList.all Char.isDigit) then fail "bad number"
    else
      modify fun m => { m with limits := setEntry letter word m.limits }
      return 0

end WindowsListing.Unix.Script.Builtin
