import WindowsListing.Unix.Number
import WindowsListing.Unix.Utility.Names

/-!
# Changing files

The programs that make, move and take away files and directories, and those
that change their modes and times. Each operand is dealt with on its own.
-/

set_option autoImplicit false

namespace WindowsListing.Unix.Utility
open Program

/-- Does something for each operand. The status is one if that fails anywhere. -/
def forEachOperand (act : String → Task Bool) : List String → Nat → Task Nat
  | [], status => return status
  | file :: files, status => do
    if ← act file then forEachOperand act files status
    else forEachOperand act files 1

/-- Does something for each of some names, and tells whether all of it succeeded. -/
def allOf (act : String → Task Bool) : List String → Bool → Task Bool
  | [], ok => return ok
  | name :: names, ok => do
    let done ← act name
    allOf act names (done && ok)

def blame (name message : String) : Task Bool := do
  Task.complain (name ++ ": " ++ message ++ "\n")
  return false

def answering (name verb file : String) (marks : Bool) (r : Except Refusal Unit) : Task Bool :=
  match r with
  | .ok _ => return true
  | .error e =>
    let shown := if marks then inMarks file else "'" ++ file ++ "'"
    blame name (verb ++ " " ++ shown ++ ": " ++ e.text)

def needing (name what : String) (o : Options) (act : Task Nat) : Task Nat :=
  o.orElse name 1
    (if o.operands = [] then say name (misuse name ("missing " ++ what) 1) else act)

def modeClause? (mask : Nat) (isDirectory : Bool) (who : List Char) :
    Nat → Nat → List Char → Option Nat
  | 0, mode, _ => some mode
  | _, mode, [] => some mode
  | n + 1, mode, sign :: cs =>
    if !"+-=".contains sign then none
    else
      let letters := cs.takeWhile fun c => !"+-=".contains c
      let all := who = [] || who.contains 'a'
      let has := fun (c : Char) => all || who.contains c
      let digits := letters.all Char.isDigit && letters ≠ []
      let place := fun (bits : Nat) =>
        (if has 'u' then bits * 64 else 0) + (if has 'g' then bits * 8 else 0) +
          (if has 'o' then bits else 0)
      let bits? := letters.foldl (fun b? c => b?.bind fun (b : Nat) =>
        match c with
        | 'r' => some (b ||| place 4)
        | 'w' => some (b ||| place 2)
        | 'x' => some (b ||| place 1)
        | 'X' => some (if isDirectory || mode &&& 0o111 ≠ 0 then b ||| place 1 else b)
        | 's' => some (b ||| (if has 'u' then 0o4000 else 0) ||| (if has 'g' then 0o2000 else 0))
        | 't' => some (if all || who.contains 'o' then b ||| 0o1000 else b)
        | 'u' => some (b ||| place (mode / 64 % 8))
        | 'g' => some (b ||| place (mode / 8 % 8))
        | 'o' => some (b ||| place (mode % 8))
        | _ => none) (some 0)
      let bits? := if digits then (Number.value? 8 letters).filter (· ≤ 0o7777) else bits?
      match bits? with
      | none => none
      | some bits =>
        let bits := if who = [] && !digits then bits &&& (0o7777 ^^^ mask) else bits
        let scope := if digits then 0o7777 else
          (if has 'u' then 0o4700 else 0) ||| (if has 'g' then 0o2070 else 0) |||
            (if has 'o' then 0o1007 else 0)
        let scope := if isDirectory && !digits then scope &&& 0o1777 else scope
        let scope := if who = [] && !digits then scope &&& (0o7777 ^^^ mask) else scope
        let mode :=
          if sign = '+' then mode ||| bits
          else if sign = '-' then mode &&& (0o7777 ^^^ bits)
          else (mode &&& (0o7777 ^^^ scope)) ||| bits
        modeClause? mask isDirectory who n mode (cs.drop letters.length)

/-- The mode that a text makes of another one: octal digits, or clauses. -/
def changedMode? (mask : Nat) (isDirectory : Bool) (mode : Nat) (text : String) : Option Nat :=
  if text ≠ "" && text.toList.all Char.isDigit then
    ((Number.value? 8 text.toList).filter (· ≤ 0o7777)).map fun new =>
      if isDirectory && text.length < 5 then new ||| (mode &&& 0o6000) else new
  else if text = "" then none
  else
    (text.splitOn ",").foldl (fun mode? clause => mode?.bind fun mode =>
      let who := clause.toList.takeWhile fun c => "ugoa".contains c
      let rest := clause.toList.drop who.length
      if rest = [] then none else modeClause? mask isDirectory who (rest.length + 1) mode rest)
      (some mode)

def setMode (n mode : Nat) : Task Unit :=
  Task.change fun w => { w with files := w.files.set n { w.files.node n with mode } }

/-- The mode in an argument of chmod begins with a dash if it takes rights away. -/
def isModeWord (word : String) : Bool :=
  match word.toList with
  | '-' :: c :: cs => (c :: cs).all fun c => "rwxXstugoa,+-=".contains c
  | _ => false

def withInner (f : Files) (directory : Nat) : Nat → List String → List String
  | 0, _ => []
  | _, [] => []
  | fuel + 1, path :: paths =>
    match f.find directory path false with
    | .ok n => path :: withInner f directory fuel
        ((if f.isDirectory n then (f.listing n).map (path ++ "/" ++ ·) else []) ++ paths)
    | .error _ => path :: withInner f directory fuel paths

def innerOf (paths : List String) : Task (List String) :=
  Task.inspect fun w =>
    withInner w.files w.directory (w.files.nodes.size + paths.length + 1) paths

def chmod : Program := fun _ s => do
  let given := s.arguments.find? isModeWord
  let o := Options.read
    { plain := "cfvR"
      long := [("changes", 'c'), ("silent", 'f'), ("quiet", 'f'), ("verbose", 'v'),
        ("recursive", 'R')] }
    (s.arguments.filter fun w => some w ≠ given && !w.startsWith "--reference=")
  let reference := (s.arguments.find? (·.startsWith "--reference=")).map fun w =>
    (w.drop 12).toString
  let operands := (if reference.isSome then [""] else []) ++ given.toList ++ o.operands
  o.orElse "chmod" 1 <|
  match operands with
  | [] => say "chmod" (misuse "chmod" "missing operand" 1)
  | [mode] => say "chmod" (misuse "chmod" ("missing operand after " ++ inMarks mode) 1)
  | text :: files => do
    let mask ← Task.inspect fun w => w.mine.mask
    let text ← match reference with
      | none => pure text
      | some path => do
        let mode ← Task.inspect fun w => ((w.look path true).toOption.map (·.mode)).getD 0
        pure ("0" ++ String.ofList (Nat.toDigits 8 mode))
    if (changedMode? mask false 0 text).isNone then
      say "chmod" (misuse "chmod" ("invalid mode: " ++ inMarks text) 1)
    else
      let files ← if o.has 'R' then innerOf files else pure files
      forEachOperand (fun file => do
        match ← Task.find file true with
        | .error e => answering "chmod" "cannot access" file false (.error e)
        | .ok n => do
          let f ← Task.files
          let isDirectory := f.isDirectory n
          let old := (f.node n).mode
          let new := (changedMode? mask isDirectory old text).getD old
          let meant := (changedMode? 0 isDirectory old text).getD old
          setMode n new
          if o.has 'v' || (o.has 'c' && old ≠ new) then
            let shown := fun (mode : Nat) =>
              let digits := String.ofList (Nat.toDigits 8 mode)
              String.ofList (List.replicate (4 - digits.length) '0') ++ digits ++ " (" ++
                (modeText '-' mode).drop 1 ++ ")"
            put "chmod" ("mode of '" ++ file ++ "' " ++ (if old = new then "retained as " ++
              shown new else "changed from " ++ shown old ++ " to " ++ shown new) ++ "\n")
          if given.isSome && new ≠ meant then
            blame "chmod" (file ++ ": new permissions are " ++ (modeText '-' new).drop 1 ++
              ", not " ++ (modeText '-' meant).drop 1)
          else return true) files 0

def chown (name : String) : Program := fun _ s => do
  let o := Options.read { plain := "cfvRhHLP", long := [("recursive", 'R')] } s.arguments
  o.orElse name 1 <|
  match o.operands with
  | [] => say name (misuse name "missing operand" 1)
  | [owner] => say name (misuse name ("missing operand after " ++ inMarks owner) 1)
  | _ :: files =>
    forEachOperand (fun file => do
      answering name "cannot access" file false ((← Task.find file true).map fun _ => ())) files 0

def waysTo (path : String) : List String :=
  let names := (path.splitOn "/").filter (· ≠ "")
  let front := if path.startsWith "/" then "/" else ""
  (List.range names.length).map fun n => front ++ "/".intercalate (names.take (n + 1))

def makeDirectory (path : String) (mode : Nat) : Task (Except Refusal Unit) :=
  Task.edit fun f directory time =>
    (f.create directory path (.directory 0 []) mode time).map (·.1)

def mkdir : Program := fun _ s => do
  let o := Options.read
    { plain := "pvZ", valued := "m"
      long := [("parents", 'p'), ("verbose", 'v'), ("mode", 'm')] } s.arguments
  needing "mkdir" "operand" o do
    let mask ← Task.inspect fun w => w.mine.mask
    let plain ← Task.masked 0o777
    match (o.value? 'm').map fun text => (text, changedMode? mask true 0o777 text) with
    | some (text, none) =>
      say "mkdir" (complaint "mkdir" ("invalid mode " ++ inMarks text) 1)
    | given =>
      let mode := ((given.bind (·.2)).getD plain)
      let make := fun (path : String) (mode : Nat) => do
        match ← makeDirectory path mode with
        | .ok _ => do
          if o.has 'v' then put "mkdir" ("mkdir: created directory '" ++ path ++ "'\n")
          return true
        | .error e => answering "mkdir" "cannot create directory" path true (.error e)
      let rec parents : List String → Task Bool
        | [] => return true
        | way :: ways => do
          match ← Task.find way true with
          | .ok n => do
            if (← Task.files).isDirectory n then parents ways
            else
              let e : Refusal := if ways.isEmpty then .present else .notDirectory
              answering "mkdir" "cannot create directory" way true (.error e)
          | .error _ => do
            if ← make way (if ways.isEmpty then mode else plain) then parents ways
            else return false
      forEachOperand (fun path =>
        if o.has 'p' then parents (waysTo path) else make path mode) o.operands 0

def rmdir : Program := fun _ s =>
  let o := Options.read
    { plain := "pvI", long := [("parents", 'p'), ("verbose", 'v'),
        ("ignore-fail-on-non-empty", 'I')] } s.arguments
  needing "rmdir" "operand" o <|
    let rec removeEach : List String → Task Bool
      | [] => return true
      | path :: paths => do
        if o.has 'v' then put "rmdir" ("rmdir: removing directory, '" ++ path ++ "'\n")
        match ← Task.edit fun f directory time => f.removeDirectory directory path time with
        | .ok _ => removeEach paths
        | .error .notEmpty => do
          if o.has 'I' then return true
          else answering "rmdir" "failed to remove" path false (.error .notEmpty)
        | .error e => answering "rmdir" "failed to remove" path false (.error e)
    forEachOperand (fun path =>
      removeEach (if o.has 'p' then (waysTo path).reverse else [path])) o.operands 0

def removeTree (o : Options) : Nat → String → Task Bool
  | 0, _ => return false
  | fuel + 1, path => do
    let said := fun (r : Except Refusal Unit) (what : String) => do
      if r.toOption.isSome && o.has 'v' then
        put "rm" ("removed " ++ what ++ "'" ++ path ++ "'\n")
      answering "rm" "cannot remove" path false r
    match ← Task.find path false with
    | .error e => if o.has 'f' then return true else said (.error e) ""
    | .ok n => do
      let f ← Task.files
      if !f.isDirectory n then
        if path.endsWith "/" then said (.error .notDirectory) ""
        else said (← Task.edit fun f directory time => f.unlink directory path time) ""
      else if o.has 'r' || o.has 'R' then
        if (lastName path = "." || lastName path = "..") then
          blame "rm" ("refusing to remove '.' or '..' directory: skipping '" ++ path ++ "'")
        else if n = 0 then blame "rm" ("it is dangerous to operate recursively on '/'")
        else
          let front := path ++ (if path.endsWith "/" then "" else "/")
          if ← allOf (fun name => removeTree o fuel (front ++ name)) (f.listing n) true then
            said (← Task.edit fun f directory time => f.removeDirectory directory path time)
              "directory "
          else return false
      else if o.has 'd' then
        said (← Task.edit fun f directory time => f.removeDirectory directory path time)
          "directory "
      else said (.error .isDirectory) ""

def rm : Program := fun _ s =>
  let o := Options.read
    { plain := "rRfdivI"
      long := [("recursive", 'r'), ("force", 'f'), ("dir", 'd'), ("verbose", 'v'),
        ("interactive", 'i')] } s.arguments
  if o.has 'f' && o.operands = [] && o.fault?.isNone then return 0
  else needing "rm" "operand" o do
    if o.last? "fi" = some 'i' then
      -- Nobody is there to agree.
      forEachOperand (fun path => do
        match ← Task.find path false with
        | .ok _ => return true
        | .error e => answering "rm" "cannot remove" path false (.error e)) o.operands 0
    else forEachOperand (removeTree o 4096) o.operands 0

def unlink : Program := fun _ s => do
  let o := Options.read {} s.arguments
  needing "unlink" "operand" o do
    forEachOperand (fun path => do
      answering "unlink" "cannot unlink" path false
        (← Task.edit fun f directory time => f.unlink directory path time)) (o.operands.take 1) 0

def dayNumber (year month day : Nat) : Int :=
  let y : Int := if month ≤ 2 then (year : Int) - 1 else year
  let era := Int.fdiv y 400
  let yearOfEra := y - era * 400
  let shifted : Int := ((month : Int) + 9) % 12
  let dayOfYear := (153 * shifted + 2) / 5 + day - 1
  era * 146097 + yearOfEra * 365 + yearOfEra / 4 - yearOfEra / 100 + dayOfYear - 719468

def moment? (text : String) : Option Nat :=
  let number := Number.natural?
  if text.startsWith "@" then (number (text.drop 1).toString).map (· * 1000000)
  else
    let parts := (text.splitToList fun c => c = ' ' || c = 'T').filter fun p =>
      p ≠ "" && p ≠ "UTC" && p ≠ "Z"
    let day := (parts.head?.map (·.splitOn "-")).getD []
    let hour := ((parts.getD 1 "0:0").splitOn ":").map number
    match day.map number, hour with
    | [some y, some m, some d], some h :: some minute :: rest =>
      let second := ((rest.head?.bind id).getD 0 : Nat)
      some ((dayNumber y m d * 86400 + (h * 3600 + minute * 60 + second : Nat)).toNat * 1000000)
    | _, _ => none

/-- The moment that digits name: month, day, hour and minute, and the year in front. -/
def stampMoment? (text : String) : Option Nat :=
  let (digits, seconds) := match text.splitOn "." with
    | [digits, seconds] => (digits, seconds)
    | _ => (text, "00")
  let digits := if digits.length = 8 then "2023" ++ digits
    else if digits.length = 10 then "20" ++ digits else digits
  let part := fun (start length : Nat) =>
    Number.natural? ((digits.drop start).take length).toString
  match part 0 4, part 4 2, part 6 2, part 8 2, part 10 2, Number.natural? seconds with
  | some y, some m, some d, some h, some minute, some s =>
    some ((dayNumber y m d * 86400 + (h * 3600 + minute * 60 + s : Nat)).toNat * 1000000)
  | _, _, _, _, _, _ => none

def touch : Program := fun _ s => do
  let o := Options.read
    { plain := "acfmh", valued := "tdr"
      long := [("no-create", 'c'), ("date", 'd'), ("reference", 'r')] } s.arguments
  needing "touch" "file operand" o do
    let reference ← match o.value? 'r' with
      | some path => Task.inspect fun w => (w.look path true).toOption.map (·.changed)
      | none => pure none
    let named? := ((o.value? 'd').bind moment?).or ((o.value? 't').bind stampMoment?)
    let moment? := reference.or named?
    if (o.has 'd' || o.has 't' || o.has 'r') && moment?.isNone then
      say "touch" (complaint "touch" ("invalid date format " ++
        inMarks ((o.last? "dtr").bind o.value? |>.getD "")) 1)
    else
      forEachOperand (fun path => do
        match ← Task.find path true with
        | .ok n => do
          Task.change fun w => { w with
            files := w.files.set n { w.files.node n with changed := moment?.getD w.clock } }
          return true
        | .error .missing => do
          if o.has 'c' then return true
          else if path.endsWith "/" then
            blame "touch" ("setting times of '" ++ path ++ "': No such file or directory")
          else
            match ← Task.openAs path { writes := true, creates := true } with
            | .ok n => do
              Task.close n
              match moment?, ← Task.find path true with
              | some m, .ok n => Task.change fun w => { w with
                  files := w.files.set n { w.files.node n with changed := m } }
              | _, _ => pure ()
              return true
            | .error e => answering "touch" "cannot touch" path false (.error e)
        | .error e => answering "touch" "cannot touch" path false (.error e)) o.operands 0

def mkfifo : Program := fun _ s => do
  let o := Options.read { plain := "Z", valued := "m", long := [("mode", 'm')] } s.arguments
  needing "mkfifo" "operand" o do
    let mask ← Task.inspect fun w => w.mine.mask
    let plain ← Task.masked 0o666
    let mode := ((o.value? 'm').bind (changedMode? mask false 0o666)).getD plain
    forEachOperand (fun path => do
      match ← Task.edit fun f directory time =>
          (f.create directory path .queue mode time).map (·.1) with
      | .ok _ => return true
      | .error e => answering "mkfifo" "cannot create fifo" path false (.error e)) o.operands 0

def filledName (seed : Nat) (pattern : String) : String :=
  let letters := "abcdefghijklmnopqrstuvwxyzABCDEFGHIJKLMNOPQRSTUVWXYZ0123456789".toList
  let signs := pattern.toList.reverse.takeWhile (· = 'X')
  let front := pattern.toList.take (pattern.length - signs.length)
  let noise := (World.noise seed signs.length "").toList
  String.ofList (front ++ noise.map fun c => letters.getD (c.toNat % letters.length) 'X')

def mktemp : Program := fun _ s => do
  let o := Options.read
    { plain := "dqut", valued := "", optional := "p"
      long := [("directory", 'd'), ("quiet", 'q'), ("dry-run", 'u'), ("tmpdir", 'p')] } s.arguments
  o.orElse "mktemp" 1 do
    let pattern := o.operands.headD "tmp.XXXXXXXXXX"
    let folder := match o.value? 'p' with
      | some "" => some "/tmp"
      | some path => some path
      | none => if o.operands = [] || o.has 't' then some "/tmp" else none
    let seed ← Task.inspect fun w => w.clock + 31 * w.fresh
    let path := match folder with
      | some folder => folder ++ "/" ++ filledName seed pattern
      | none => filledName seed pattern
    if !pattern.endsWith "XXX" then
      say "mktemp" (complaint "mktemp" ("too few X's in template " ++ inMarks pattern) 1)
    else
      let kind := if o.has 'd' then Kind.directory 0 [] else .regular ""
      let made ← if o.has 'u' then pure (.ok ())
        else Task.edit fun f directory time =>
          (f.create directory path kind (if o.has 'd' then 0o700 else 0o600) time).map (·.1)
      match made with
      | .ok _ => do
        put "mktemp" (path ++ "\n")
        return 0
      | .error e => say "mktemp" (complaint "mktemp" ("failed to create " ++
          (if o.has 'd' then "directory" else "file") ++ " via template " ++ inMarks pattern ++
          ": " ++ e.text) 1)

def newSize? (old : Nat) (text : String) : Option Nat :=
  match text.toList with
  | '+' :: cs => (amount? cs).map (old + ·)
  | '-' :: cs => (amount? cs).map (old - ·)
  | '<' :: cs => (amount? cs).map (min old)
  | '>' :: cs => (amount? cs).map (max old)
  | cs => amount? cs

def truncate : Program := fun _ s => do
  let o := Options.read
    { plain := "co", valued := "sr", long := [("size", 's'), ("no-create", 'c')] } s.arguments
  needing "truncate" "file operand" o do
    match o.value? 's' with
    | none =>
      say "truncate"
        (misuse "truncate" "you must specify either '--size' or '--reference'" 1)
    | some text =>
      if (newSize? 0 text).isNone then
        say "truncate" (complaint "truncate" ("Invalid number: " ++ inMarks text) 1)
      else
        forEachOperand (fun path => do
          let a : Access := { writes := true, creates := !o.has 'c' }
          match ← Task.openAs path a with
          | .error .missing => return o.has 'c'
          | .error e =>
            blame "truncate" ("cannot open '" ++ path ++ "' for writing: " ++ e.text)
          | .ok d => do
            Task.close d
            match ← Task.find path true with
            | .ok n => Task.change fun w =>
                let old := World.textOf w.files n
                let size := (newSize? old.length text).getD old.length
                let text := (old.take size).toString.pushn (Char.ofNat 0) (size - old.length)
                { w with files := w.files.setText n text w.clock }
            | .error _ => pure ()
            return true) o.operands 0

inductive Destination where
  | into (directory : String)
  | place (path : String)

def destination (name verb : String) (o : Options) :
    Task (Except Effect (List String × Destination)) := do
  let isDirectory := fun (path : String) => Task.inspect fun w =>
    ((w.find path true).toOption.map w.files.isDirectory).getD false
  match o.value? 't', o.operands.reverse with
  | some folder, sources =>
    if ← isDirectory folder then return .ok (sources.reverse, .into folder)
    else return .error ((complaint name ("target directory " ++ inMarks folder ++
      ": No such file or directory") 1))
  | none, [] => return .error ((misuse name "missing file operand" 1))
  | none, [file] =>
    if verb = "link" then return .ok ([file], .into ".")
    else return .error ((misuse name ("missing destination file operand after " ++
      inMarks file) 1))
  | none, last :: [source] =>
    if (← isDirectory last) && !o.has 'T' then return .ok ([source], .into last)
    else return .ok ([source], .place last)
  | none, last :: sources =>
    if o.has 'T' then return .error ((misuse name ("extra operand " ++ inMarks last) 1))
    else if ← isDirectory last then return .ok (sources.reverse, .into last)
    else
      let e ← Task.find last true
      return .error ((complaint name ("target " ++ inMarks last ++ ": " ++
        (match e with
        | .ok _ => Refusal.notDirectory.text
        | .error e => e.text)) 1))

def Destination.of (source : String) : Destination → String
  | .into folder =>
    if folder = "." then "./" ++ lastName source
    else folder ++ (if folder.endsWith "/" then "" else "/") ++ lastName source
  | .place path => path

def isSame (a b : String) : Task Bool :=
  Task.inspect fun w =>
    match w.find a true, w.find b true with
    | .ok m, .ok n => m = n
    | _, _ => false

def copyText (o : Options) (source target : String) (n : Nat) : Task Bool := do
  let f ← Task.files
  if o.has 'l' then
    answering "cp" "cannot create hard link" target false
      (← Task.edit fun f directory time => f.linkTo directory source target true time)
  else if o.has 's' then
    answering "cp" "cannot create symbolic link" target false
      (← Task.edit fun f directory time =>
        (f.create directory target (.link source) 0o777 time).map (·.1))
  else
    let text ← match f.kind n with
      | .regular text => pure text
      | .program _ => pure (World.textOf f n)
      | _ => do
        match ← Task.openAs source .input with
        | .ok d => do
          let text := (← Task.readAll d).toOption.getD ""
          Task.close d
          pure text
        | .error _ => pure ""
    let existed := (← Task.find target true).toOption.isSome
    match ← Task.openAs target .output with
    | .error e =>
      let e := if target.endsWith "/" && e = .isDirectory then Refusal.notDirectory else e
      answering "cp" "cannot create regular file" target false (.error e)
    | .ok d => do
      let _ ← Task.write d text
      Task.close d
      match ← Task.find target true with
      | .error _ => pure ()
      | .ok k =>
        let keeps := o.has 'p' || o.has 'a'
        let mode ← if keeps then pure (f.node n).mode else Task.masked (f.node n).mode
        match f.kind n with
        | .program name =>
          if (← Task.files).isProgramOrText k then
            Task.change fun w => { w with files := w.files.setKind k (.program name) }
        | _ => pure ()
        if keeps || !existed then setMode k mode
        if keeps then
          Task.change fun w => { w with
            files := w.files.set k { w.files.node k with changed := (f.node n).changed } }
      return true

def copyTree (o : Options) : Nat → Bool → String → String → Task Bool
  | 0, _, _, _ => return false
  | fuel + 1, outermost, source, target => do
    let deep := o.has 'r' || o.has 'R' || o.has 'a'
    let follows := o.has 'L' || (outermost && o.has 'H') ||
      !(o.has 'P' || o.has 'd' || o.has 'a' || deep)
    match ← Task.find source follows with
    | .error e => answering "cp" "cannot stat" source false (.error e)
    | .ok n => do
      let f ← Task.files
      let old? := (← Task.find target true).toOption
      let tell := if o.has 'v' then
          put "cp" ("'" ++ source ++ "' -> '" ++ target ++ "'\n") else pure ()
      match f.kind n with
      | .directory _ _ =>
        if !deep then
          blame "cp" ("-r not specified; omitting directory '" ++ source ++ "'")
        else
          let inner ← Task.inspect fun w =>
            match w.files.place w.directory target with
            | .ok (d, _) => w.files.isAbove n w.files.nodes.size d
            | .error _ => false
          match old?.map f.isDirectory with
          | some false => blame "cp" ("cannot overwrite non-directory '" ++ target ++
              "' with directory '" ++ source ++ "'")
          | known =>
            if old? = some n && !(lastName source = ".") then
              blame "cp" ("'" ++ source ++ "' and '" ++ target ++ "' are the same file")
            else if inner && known.isNone then
              blame "cp" ("cannot copy a directory, '" ++ source ++ "', into itself, '" ++
                target ++ "'")
            else
              let made ← if known.isSome then pure (.ok ())
                else makeDirectory target (← Task.masked (f.node n).mode)
              if known.isNone then tell
              if made.toOption.isNone then
                answering "cp" "cannot create directory" target false made
              else
                allOf (fun name => copyTree o fuel false (source ++ "/" ++ name)
                  (target ++ "/" ++ name)) (f.listing n) true
      | kind => do
        let newer ← Task.inspect fun w =>
          match w.look target true with
          | .ok s => decide (s.changed ≥ (f.node n).changed)
          | .error _ => false
        if (o.last? "nif" = some 'n' || o.last? "nif" = some 'i') && old?.isSome then
          return o.last? "nif" = some 'n'
        else if o.has 'u' && newer then return true
        else if old?.any f.isDirectory then
          blame "cp" ("cannot overwrite directory '" ++ target ++ "' with non-directory")
        else if old? = some n then
          if o.has 'l' || o.has 's' then return true
          else blame "cp" ("'" ++ source ++ "' and '" ++ target ++ "' are the same file")
        else
          match kind with
          | .link _ => do
            let _ ← Task.edit fun f directory time => f.unlink directory target time
            tell
            answering "cp" "cannot create symbolic link" target false
              (← Task.edit fun f directory time =>
                (f.create directory target kind 0o777 time).map (·.1))
          | .queue =>
            if deep then
              tell
              answering "cp" "cannot create fifo" target false
                (← Task.edit fun f directory time =>
                  (f.create directory target kind 0o644 time).map (·.1))
            else copyText o source target n
          | _ => do
            tell
            copyText o source target n

def cp : Program := fun _ s => do
  let o := Options.read
    { plain := "abdfHilLnpPrRsuvxTQ", valued := "tS"
      long := [("archive", 'a'), ("force", 'f'), ("interactive", 'i'), ("link", 'l'),
        ("dereference", 'L'), ("no-clobber", 'n'), ("no-dereference", 'P'), ("recursive", 'r'),
        ("symbolic-link", 's'), ("update", 'u'), ("verbose", 'v'), ("target-directory", 't'),
        ("no-target-directory", 'T'), ("parents", 'Q')] } s.arguments
  o.orElse "cp" 1 do
    match ← destination "cp" "copy" o with
    | .error e => say s.name e
    | .ok (sources, d) =>
      forEachOperand (fun source => do
        match d, o.has 'Q' with
        | .into folder, true => do
          let rec parents : List String → Task Unit
            | [] => pure ()
            | way :: ways => do
              let _ ← makeDirectory way (← Task.masked 0o777)
              parents ways
          parents ((waysTo (folder ++ "/" ++ directoryName source)))
          copyTree o 4096 true source (folder ++ "/" ++ source)
        | d, _ => copyTree o 4096 true source (d.of source)) sources 0

def moveOne (o : Options) (source target : String) : Task Bool := do
  match ← Task.find source false with
  | .error e => answering "mv" "cannot stat" source false (.error e)
  | .ok n => do
    let f ← Task.files
    let old? := (← Task.find target false).toOption
    let there := (← Task.find target true).toOption
    let newer ← Task.inspect fun w =>
      match w.look target true with
      | .ok s => decide (s.changed ≥ (f.node n).changed)
      | .error _ => false
    if old?.isSome && (o.last? "nif" = some 'n' || o.last? "nif" = some 'i') then
      return o.last? "nif" = some 'n'
    else if o.has 'u' && newer then return true
    else if old? = some n && !f.isDirectory n then
      blame "mv" ("'" ++ source ++ "' and '" ++ target ++ "' are the same file")
    else if f.isDirectory n && there.any fun k => !f.isDirectory k then
      blame "mv" ("cannot overwrite non-directory '" ++ target ++ "' with directory '" ++
        source ++ "'")
    else if !f.isDirectory n && old?.any f.isDirectory then
      blame "mv" ("cannot overwrite directory '" ++ target ++ "' with non-directory '" ++
        source ++ "'")
    else if !f.isDirectory n && target.endsWith "/" then
      blame "mv" ("cannot move '" ++ source ++ "' to '" ++ target ++ "': Not a directory")
    else
      match ← Task.edit fun f directory time => f.rename directory source target time with
      | .ok _ => do
        if o.has 'v' then put "mv" ("renamed '" ++ source ++ "' -> '" ++ target ++ "'\n")
        return true
      | .error .invalid =>
        blame "mv" ("cannot move '" ++ source ++ "' to a subdirectory of itself, '" ++ target ++
          "'")
      | .error e =>
        blame "mv" ("cannot move '" ++ source ++ "' to '" ++ target ++ "': " ++ e.text)

def mv : Program := fun _ s => do
  let o := Options.read
    { plain := "bfinuvTZ", valued := "tS"
      long := [("force", 'f'), ("interactive", 'i'), ("no-clobber", 'n'), ("update", 'u'),
        ("verbose", 'v'), ("target-directory", 't'), ("no-target-directory", 'T')] } s.arguments
  o.orElse "mv" 1 do
    match ← destination "mv" "move" o with
    | .error e => say s.name e
    | .ok (sources, d) =>
      forEachOperand (fun source => moveOne o source (d.of source)) sources 0

def linkOne (o : Options) (source target : String) : Task Bool := do
  let symbolic := o.has 's'
  let kind := if symbolic then "symbolic" else "hard"
  let arrow := if symbolic then " -> " else " => "
  let told ← Task.inspect fun w =>
    if o.has 'r' then
      let base := ((followed w.files .nothing Files.linkLimit w.directory
        (directoryName target)).toOption).getD "/"
      let path := ((followed w.files .allButLast Files.linkLimit w.directory source).toOption).getD
        source
      relativePath base path
    else source
  let n? ← Task.find source (o.has 'L')
  let isFolder ← Task.inspect fun w => n?.toOption.any w.files.isDirectory
  match symbolic, n? with
  | false, .error e => answering "ln" "failed to access" source false (.error e)
  | _, _ =>
    if !symbolic && isFolder then blame "ln" (source ++ ": hard link not allowed for directory")
    else
      if (← isSame source target) && !symbolic && o.has 'f' && source = target then
        blame "ln" ("'" ++ source ++ "' and '" ++ target ++ "' are the same file")
      else
        if o.has 'f' then
          let _ ← Task.edit fun f directory time => f.unlink directory target time
        let made ← Task.edit fun f directory time =>
          if symbolic then (f.create directory target (.link told) 0o777 time).map (·.1)
          else f.linkTo directory source target (o.has 'L') time
        match made with
        | .ok _ => do
          if o.has 'v' then put "ln" ("'" ++ target ++ "'" ++ arrow ++ "'" ++ told ++ "'\n")
          return true
        | .error e =>
          blame "ln" ("failed to create " ++ kind ++ " link '" ++ target ++ "': " ++ e.text)

def ln : Program := fun _ s => do
  let o := Options.read
    { plain := "bfinsvrTLP", valued := "tS"
      long := [("force", 'f'), ("interactive", 'i'), ("no-dereference", 'n'), ("symbolic", 's'),
        ("verbose", 'v'), ("relative", 'r'), ("target-directory", 't'),
        ("no-target-directory", 'T'), ("logical", 'L'), ("physical", 'P')] } s.arguments
  o.orElse "ln" 1 do
    let isLink ← Task.inspect fun w =>
      match w.find (o.operands.getLastD "") false with
      | .ok n => (linkTarget w (o.operands.getLastD "")).toOption.isSome && n ≠ 0
      | .error _ => false
    if o.has 'n' && isLink && o.operands.length = 2 then
      let ok ← linkOne o (o.operands.headD "") (o.operands.getLastD "")
      return if ok then 0 else 1
    else
      match ← destination "ln" "link" o with
      | .error e => say s.name e
      | .ok (sources, d) =>
        forEachOperand (fun source => linkOne o source (d.of source)) sources 0

end WindowsListing.Unix.Utility
