import WindowsListing.Unix.Utility.Copy

/-!
# Names and listings

The programs that take names apart, that follow links, and that list what is
in directories.
-/

set_option autoImplicit false

namespace WindowsListing.Unix.Utility
open Program

def withoutSlashes (cs : List Char) : List Char := (cs.reverse.dropWhile (· = '/')).reverse

def lastName (path : String) : String :=
  let cs := path.toList
  if cs ≠ [] && cs.all (· = '/') then "/"
  else String.ofList ((withoutSlashes cs).reverse.takeWhile (· ≠ '/')).reverse

def withoutEnding (ending name : String) : String :=
  if ending ≠ "" && ending ≠ name && ending.toList.isSuffixOf name.toList then
    String.ofList (name.toList.take (name.length - ending.length))
  else name

def basename : Utility := fun words _ =>
  let o := Options.read
    { plain := "az", valued := "s", front := true
      long := [("multiple", 'a'), ("zero", 'z'), ("suffix", 's')] } words
  let close := if o.has 'z' then String.singleton (Char.ofNat 0) else "\n"
  o.checked "basename" 1 <|
  match o.operands with
  | [] => misuse "basename" "missing operand" 1
  | path :: more =>
    if o.has 'a' || o.has 's' then
      { output := String.join ((path :: more).map fun p =>
          withoutEnding ((o.value? 's').getD "") (lastName p) ++ close) }
    else
      match more with
      | [] => { output := lastName path ++ close }
      | [ending] => { output := withoutEnding ending (lastName path) ++ close }
      | _ :: extra :: _ => misuse "basename" ("extra operand " ++ inMarks extra) 1

def directoryName (path : String) : String :=
  let cs := withoutSlashes path.toList
  let front := withoutSlashes (cs.reverse.dropWhile (· ≠ '/')).reverse
  if front ≠ [] then String.ofList front
  else if path.toList.head? = some '/' then "/" else "."

def dirname : Utility := fun words _ =>
  let o := Options.read { plain := "z", long := [("zero", 'z')] } words
  let close := if o.has 'z' then String.singleton (Char.ofNat 0) else "\n"
  o.checked "dirname" 1 <|
  match o.operands with
  | [] => misuse "dirname" "missing operand" 1
  | paths => { output := String.join (paths.map (directoryName · ++ close)) }

inductive Presence where
  | all
  | allButLast
  | nothing
  deriving DecidableEq

def pathIn (f : Files) (directory : Nat) (name : String) : String :=
  let path := f.pathOf directory
  if path = "/" then "/" ++ name else path ++ "/" ++ name

/-- The path from the root that leads to a place without a detour. -/
def followed (f : Files) (presence : Presence) :
    Nat → Nat → String → Except Refusal String
  | 0, _, _ => .error .tooManyLinks
  | links + 1, directory, path =>
    match f.find directory path true with
    | .ok n =>
      if f.isDirectory n then .ok (f.pathOf n)
      else do
        let (d, name) ← f.place directory path
        match (f.entries d).lookup name with
        | some e =>
          match f.kind e with
          | .link target => followed f presence links d target
          | _ => .ok (pathIn f d name)
        | none => .error .missing
    | .error e =>
      if presence = .all then .error e
      else
        match f.place directory path with
        | .ok (d, name) =>
          match (f.entries d).lookup name with
          | none => .ok (pathIn f d name)
          | some e =>
            match f.kind e with
            | .link target => followed f presence links d target
            | _ => .error .notDirectory
        | .error e => .error e

/-- The names that a path comes to from a directory, dots carried out. -/
def plainWay (f : Files) (directory : Nat) (path : String) : String :=
  let start := if path.startsWith "/" then [] else f.way f.nodes.size directory
  "/" ++ "/".intercalate ((path.splitOn "/").foldl (fun names name =>
    if name = "" || name = "." then names
    else if name = ".." then names.dropLast
    else names ++ [name]) start)

def relativePath (base path : String) : String :=
  let split := fun (p : String) => (p.splitOn "/").filter (· ≠ "")
  let rec strip : List String → List String → List String × List String
    | a :: as, b :: bs => if a = b then strip as bs else (a :: as, b :: bs)
    | as, bs => (as, bs)
  let (up, down) := strip (split base) (split path)
  match up.map (fun _ => "..") ++ down with
  | [] => "."
  | names => "/".intercalate names

def told (w : World) (presence : Presence) (plain : Bool) (path : String) :
    Except Refusal String :=
  if path = "" then .error .missing
  else if plain then .ok (plainWay w.files w.directory path)
  else
    match followed w.files presence Files.linkLimit w.directory path with
    | .ok p => .ok p
    | .error e => if presence = .nothing then .ok (plainWay w.files w.directory path) else .error e

def tellingAll (name : String) (close : String) (quiet : Bool)
    (tell : String → Except Refusal String) (paths : List String) : Effect :=
  let answers := paths.map fun p => (p, tell p)
  let errors := String.join (answers.map fun a =>
    match a.2 with
    | .ok _ => ""
    | .error e => name ++ ": " ++ a.1 ++ ": " ++ e.text ++ "\n")
  { output := String.join (answers.filterMap fun a => a.2.toOption.map (· ++ close))
    errors := if quiet then "" else errors
    status := if errors = "" then 0 else 1 }

def realpath : Utility := fun words w =>
  let o := Options.read
    { plain := "eLPmqsz", valued := "RB"
      long := [("canonicalize-existing", 'e'), ("canonicalize-missing", 'm'), ("logical", 'L'),
        ("physical", 'P'), ("quiet", 'q'), ("strip", 's'), ("no-symlinks", 's'), ("zero", 'z'),
        ("relative-to", 'R'), ("relative-base", 'B')] } words
  let presence := if o.has 'e' then Presence.all else if o.has 'm' then .nothing else .allButLast
  let close := if o.has 'z' then String.singleton (Char.ofNat 0) else "\n"
  let base := (o.value? 'R').bind fun p => (told w .allButLast false p).toOption
  let tell := fun p => (told w presence (o.has 's') p).map fun path =>
    match base with
    | some base => relativePath base path
    | none => path
  o.checked "realpath" 1
    (if o.operands = [] then misuse "realpath" "missing operand" 1
    else tellingAll "realpath" close (o.has 'q') tell o.operands)

def linkTarget (w : World) (path : String) : Except Refusal String := do
  let n ← w.find path false
  match w.files.kind n with
  | .link target => return target
  | _ => .error .invalid

def readlink : Utility := fun words w =>
  let o := Options.read
    { plain := "efmnqsvz"
      long := [("canonicalize", 'f'), ("canonicalize-existing", 'e'), ("canonicalize-missing", 'm'),
        ("no-newline", 'n'), ("quiet", 'q'), ("silent", 's'), ("verbose", 'v'),
        ("zero", 'z')] } words
  let close := if o.has 'z' then String.singleton (Char.ofNat 0)
    else if o.has 'n' && o.operands.length = 1 then "" else "\n"
  let tell := match o.last? "efm" with
    | some 'e' => told w .all false
    | some 'f' => told w .allButLast false
    | some _ => told w .nothing false
    | none => linkTarget w
  o.checked "readlink" 1
    (if o.operands = [] then misuse "readlink" "missing operand" 1
    else tellingAll "readlink" close (!o.has 'v') tell o.operands)

def pwd : Program := fun _ s => do
  let o := Options.read { plain := "LP", long := [("logical", 'L'), ("physical", 'P')] } s.arguments
  o.orElse "pwd" 1 do
    let (physical, isGood) ← Task.inspect fun w =>
      (w.files.pathOf w.directory,
        fun path => decide ((w.files.find 0 path true).toOption = some w.directory))
    let said := (s.environment.lookup "PWD").filter fun path => path.startsWith "/" && isGood path
    put "pwd" ((if o.last? "LP" = some 'L' then said.getD physical else physical) ++ "\n")
    return 0

def rights (n : Nat) (special : Bool) (letter : Char) : List Char :=
  [if n / 4 % 2 = 1 then 'r' else '-', if n / 2 % 2 = 1 then 'w' else '-',
   if special then (if n % 2 = 1 then letter else letter.toUpper)
   else if n % 2 = 1 then 'x' else '-']

def modeText (sort : Char) (mode : Nat) : String :=
  String.ofList (sort :: rights (mode / 64) (mode / 2048 % 2 = 1) 's' ++
    rights (mode / 8) (mode / 1024 % 2 = 1) 's' ++ rights mode (mode / 512 % 2 = 1) 't')

structure Listed where
  name : String
  sight : Sight
  links : Nat
  target : Option String := none
  behind : Option Sight := none

/-- What is listed of a path, if something is there. -/
def listed? (w : World) (name path : String) (follow : Bool) : Except Refusal Listed := do
  let s ← match w.look path follow with
    | .ok s => pure s
    | .error _ => w.look path false
  let n := match s.object with
    | .node n => n
    | _ => 0
  return {
    name, sight := s, links := w.files.names n
    target := match w.files.kind n with
      | .link target => some target
      | _ => none
    behind := (w.look path true).toOption }

def trailingSign (o : Options) (isTarget : Bool) (s : Sight) : String :=
  if o.has 'F' || o.has 'p' then
    if s.sort = 'd' then "/"
    else if !o.has 'F' then ""
    else if s.sort = 'l' then if isTarget then "" else "@"
    else if s.sort = 'p' then "|"
    else if s.sort = '-' && s.mode &&& 0o111 ≠ 0 then "*"
    else ""
  else ""

def quotedName (o : Options) (name : String) : String :=
  if o.has 'Q' then
    "\"" ++ String.join (name.toList.map fun c =>
      if c = '"' || c = '\\' then String.ofList ['\\', c]
      else if c = '\n' then "\\n" else String.singleton c) ++ "\""
  else name

def blocks (s : Sight) : Nat :=
  if s.sort = '-' || s.sort = 'd' then (s.size + 4095) / 4096 * 4 else 0

/-- A listing with what is known of each file in columns. -/
def longListing (o : Options) (ls : List Listed) : List String :=
  let width := fun (texts : List String) => (texts.map String.length).foldl max 0
  let links := ls.map fun l => toString l.links
  let sizes := ls.map fun l => toString l.sight.size
  (ls.zip (links.zip sizes)).map fun (l, k, size) =>
    let owner := (if o.has 'g' then "" else "root ") ++
      (if o.has 'o' || o.has 'G' then "" else "root ")
    let owner := if o.has 'n' then owner.replace "root" "0" else owner
    modeText l.sight.sort l.sight.mode ++ " " ++ rightAligned (width links) k ++ " " ++ owner ++
      rightAligned (width sizes) size ++ " Jan  1 00:00 " ++ quotedName o l.name ++
      (match l.target with
      | some target => " -> " ++ quotedName o target ++
        ((l.behind.map (trailingSign o true)).getD "")
      | none => trailingSign o false l.sight)

def shownListing (o : Options) (ls : List Listed) : String :=
  if o.has 'l' || o.has 'n' || o.has 'g' || o.has 'o' then unlines (longListing o ls)
  else
    let names := ls.map fun l =>
      (if o.has 's' then toString (blocks l.sight) ++ " " else "") ++
        quotedName o l.name ++ trailingSign o false l.sight
    if o.has 'm' then if names = [] then "" else ", ".intercalate names ++ "\n"
    else if o.has 'x' || o.has 'C' then
      if names = [] then "" else "  ".intercalate names ++ "\n"
    else unlines names

def arranged (o : Options) (ls : List Listed) : List Listed :=
  if o.has 'U' || o.has 'f' then ls
  else
    let before := fun (a b : Listed) =>
      if o.has 'S' && a.sight.size ≠ b.sight.size then a.sight.size > b.sight.size
      else if o.has 't' && a.sight.changed ≠ b.sight.changed then
        a.sight.changed > b.sight.changed
      else a.name ≤ b.name
    let ls := ls.mergeSort fun a b => before a b
    if o.has 'r' then ls.reverse else ls

def inside (w : World) (o : Options) (path : String) (n : Nat) : List Listed :=
  let hidden := fun (name : String) => name.startsWith "."
  let all := o.has 'a' || o.has 'f'
  let names := (w.files.listing n).filter fun name => all || o.has 'A' || !hidden name
  let names := (if all then [".", ".."] else []) ++
    if o.has 'B' then names.filter fun name => !name.endsWith "~" else names
  arranged o (names.filterMap fun name =>
    (listed? w name (path ++ "/" ++ name) (o.has 'L')).toOption)

/-- The block of a directory, and those of the directories in it if asked. -/
def directoryBlocks (w : World) (o : Options) :
    Nat → Bool → List String → List String
  | 0, _, _ => []
  | _, _, [] => []
  | fuel + 1, banner, path :: paths =>
    match w.find path true with
    | .error _ => directoryBlocks w o fuel banner paths
    | .ok n =>
      let ls := inside w o path n
      let total := if o.has 'l' || o.has 's' || o.has 'n' || o.has 'g' || o.has 'o' then
          "total " ++ toString ((ls.map fun l => blocks l.sight).foldl (· + ·) 0) ++ "\n"
        else ""
      let block := (if banner then path ++ ":\n" else "") ++ total ++ shownListing o ls
      let deeper := if o.has 'R' then
          (ls.filter fun l => l.sight.sort = 'd' && l.name ≠ "." && l.name ≠ "..").map fun l =>
            (if path = "/" then "/" else path ++ "/") ++ l.name
        else []
      block :: directoryBlocks w o fuel banner (deeper ++ paths)

def lsOptions : Options.Known :=
  { plain := "1aAbBcCdfFgGhHiklLmnNopqQrRsStuUvxXZ", valued := "ITw", optional := "@"
    long := [("all", 'a'), ("almost-all", 'A'), ("directory", 'd'), ("recursive", 'R'),
      ("reverse", 'r'), ("classify", 'F'), ("quote-name", 'Q'), ("human-readable", 'h'),
      ("size", 's'), ("dereference", 'L'), ("color", '@'), ("ignore-backups", 'B'),
      ("group-directories-first", 'k'), ("no-group", 'G'), ("numeric-uid-gid", 'n')] }

def ls : Utility := fun words w =>
  let o := Options.read lsOptions words
  let follows := o.has 'L' || o.has 'H' ||
    !(o.has 'l' || o.has 'd' || o.has 'F' || o.has 'n' || o.has 'g' || o.has 'o')
  let found := (if o.operands = [] then ["."] else o.operands).map fun file =>
    (file, listed? w file file follows)
  let errors := String.join (found.map fun f =>
    match f.2 with
    | .ok _ => ""
    | .error e => "ls: cannot access '" ++ f.1 ++ "': " ++ e.text ++ "\n")
  let here := found.filterMap (·.2.toOption)
  let isDeep := fun (l : Listed) => l.sight.sort = 'd' && !o.has 'd'
  let plain := arranged o (here.filter fun l => !isDeep l)
  let deep := (arranged o (here.filter isDeep)).map (·.name)
  let banner := found.length > 1 || o.has 'R'
  let blocks := (if plain.isEmpty then [] else [shownListing o plain]) ++
    directoryBlocks w o (w.files.nodes.size + deep.length + 2) banner deep
  o.checked "ls" 2 {
    output := "\n".intercalate blocks
    errors
    status := if errors = "" then 0 else 2 }

def sortText (s : Sight) : String :=
  match s.sort with
  | 'd' => "directory"
  | 'l' => "symbolic link"
  | 'p' => "fifo"
  | 'c' => "character special file"
  | _ => if s.size = 0 then "regular empty file" else "regular file"

def statField (l : Listed) (c : Char) : String :=
  match c with
  | 'n' => l.name
  | 's' => toString l.sight.size
  | 'a' => String.ofList (Nat.toDigits 8 l.sight.mode)
  | 'A' => modeText l.sight.sort l.sight.mode
  | 'F' => sortText l.sight
  | 'U' => "root"
  | 'G' => "root"
  | 'u' => "0"
  | 'g' => "0"
  | 'h' => toString l.links
  | 'N' => "'" ++ l.name ++ "'" ++ ((l.target.map fun t => " -> '" ++ t ++ "'").getD "")
  | 'b' => toString (2 * blocks l.sight)
  | 'B' => "512"
  | 'o' => "4096"
  | 'X' => toString (l.sight.changed / 1000000)
  | 'Y' => toString (l.sight.changed / 1000000)
  | 'Z' => toString (l.sight.changed / 1000000)
  | '%' => "%"
  | _ => "?"

def statText (l : Listed) : List Char → String
  | '%' :: c :: cs => statField l c ++ statText l cs
  | c :: cs => String.singleton c ++ statText l cs
  | [] => ""

def stat : Utility := fun words w =>
  let o := Options.read
    { plain := "Lft", valued := "cP"
      long := [("format", 'c'), ("printf", 'P'), ("dereference", 'L'), ("terse", 't')] } words
  let (format, close) := match o.value? 'P', o.value? 'c' with
    | some format, _ => (format.replace "\\n" "\n", "")
    | none, some format => (format, "\n")
    | none, none => ("  File: %n\n  Size: %s\t%F\nAccess: (%a/%A)\n", "")
  let found := o.operands.map fun file => (file, listed? w file file (o.has 'L'))
  let errors := String.join (found.map fun f =>
    match f.2 with
    | .ok _ => ""
    | .error e => "stat: cannot statx '" ++ f.1 ++ "': " ++ e.text ++ "\n")
  o.checked "stat" 1 <|
  if o.operands = [] then misuse "stat" "missing operand" 1
  else
    { output := String.join ((found.filterMap (·.2.toOption)).map fun l =>
        statText l format.toList ++ close)
      errors
      status := if errors = "" then 0 else 1 }

end WindowsListing.Unix.Utility
