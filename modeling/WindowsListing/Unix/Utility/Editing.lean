import WindowsListing.Unix.Utility.Edit

/-!
# Editing lines

The program that runs a script of edits on every line. An instruction may ask
for the next line, so the script stops in its middle and goes on when the line
has come in.
-/

set_option autoImplicit false

namespace WindowsListing.Unix.Utility
open Program

namespace Edit

/-- What letters of casing ask for: of all characters, and of the next one. -/
structure Casing where
  lasting : Char := 'E'
  once : Char := 'E'

def Casing.turn (k : Casing) (c : Char) : Char :=
  let wish := if k.once = 'E' then k.lasting else k.once
  if wish = 'U' || wish = 'u' then c.toUpper
  else if wish = 'L' || wish = 'l' then c.toLower
  else c

def filled (start stop : Regular.Place) : Casing → List Piece → List Char
  | _, [] => []
  | k, .text c :: ps => k.turn c :: filled start stop { k with once := 'E' } ps
  | k, .casing c :: ps =>
    filled start stop
      (if c = 'u' || c = 'l' then { k with once := c } else { lasting := c }) ps
  | k, .group n :: ps =>
    match if n = 0 then stop.since start else (stop.groups.lookup n).getD [] with
    | [] => filled start stop k ps
    | c :: cs =>
      (k.turn c :: cs.map (Casing.turn { k with once := 'E' })) ++
        filled start stop { k with once := 'E' } ps

/-- Substitutes matches from a place on, of which some have been seen, and says
whether there was any. The flag says that a match has just ended here, right
behind which an empty one does not count. -/
def substituted (s : Substitution) (r : Regular) (fold : Char → Char) :
    Nat → Nat → Bool → Regular.Place → List Char × Bool
  | 0, _, _, p => (p.ahead, false)
  | fuel + 1, seen, fresh, p =>
    match Regular.search fold r (p.ahead.length + 1) p with
    | none => (p.ahead, false)
    | some (start, stop) =>
      let skipped := p.ahead.take (start.behind.length - p.behind.length)
      let found := stop.since start
      if found = [] && fresh && skipped = [] then
        match start.ahead with
        | c :: cs =>
          let next := substituted s r fold fuel seen false { start.step c cs with groups := [] }
          (c :: next.1, next.2)
        | [] => ([], false)
      else
        let here := seen + 1 = s.nth || (s.all && seen + 1 > s.nth)
        let text := skipped ++ if here then filled start stop {} s.replacement else found
        if here && !s.all then (text ++ stop.ahead, true)
        else if found = [] then
          match stop.ahead with
          | c :: cs =>
            let next :=
              substituted s r fold fuel (seen + 1) false { stop.step c cs with groups := [] }
            (text ++ c :: next.1, here || next.2)
          | [] => (text, here)
        else
          let next := substituted s r fold fuel (seen + 1) true { stop with groups := [] }
          (text ++ next.1, here || next.2)

end Edit

inductive Resumption where
  | anew
  | replacing (counter : Nat)
  | joining (counter : Nat)
  deriving DecidableEq

structure Editing where
  line : String := ""
  hold : String := ""
  number : Nat := 0
  isLast : Bool := false
  ends : Bool := true
  holdEnds : Bool := true
  resumption : Resumption := .anew
  ranges : List (Nat × Option Nat) := []
  queue : List String := []
  replaced : Bool := false
  sought? : Option Regular := none
  quit? : Option Nat := none
  owes : Bool := false
  made : List String := []
  saved : List (String × String) := []
  waiting? : Option (String × Bool) := none

structure Editor where
  edits : Array Edit
  silent : Bool
  close : String := "\n"
  files : List (String × String) := []
  width : Nat := 70

namespace Editing

/-- Writes a line, which ends unless it is the last one and did not end itself. -/
def write (e : Editing) (text close : String) : Editing :=
  { e with made := close :: text :: (if e.owes then "\n" else "") :: e.made, owes := close = "" }

def writeText (e : Editing) (text : String) : Editing :=
  { e with made := text :: (if e.owes then "\n" else "") :: e.made, owes := false }

def writeLine (e : Editing) (g : Editor) (text : String) : Editing :=
  e.write text (if e.ends then g.close else "")

def release (e : Editing) : Editing :=
  { e.queue.foldl writeText e with queue := [] }

def save (e : Editing) (g : Editor) (file text : String) : Editing :=
  if file = "/dev/stdout" then e.writeLine g text
  else
    { e with saved := e.saved.map fun s => if s.1 = file then (s.1, s.2 ++ text ++ "\n") else s }

def matched (e : Editing) (s : Sought) (act : Regular → (Char → Char) → Editing) : Editing :=
  match s.expression.orElse fun _ => e.sought? with
  | some r => act r (if s.folded then Char.toLower else id)
  | none => e

def finds (e : Editing) (s : Sought) : Bool :=
  match s.expression.orElse fun _ => e.sought? with
  | some r =>
    (Regular.find (if s.folded then Char.toLower else id) r (matchable e.line)).isSome
  | none => false

def isFor (e : Editing) : Edit.Address → Bool
  | .line n => e.number = n
  | .every first step => e.number ≥ first && (e.number - first) % step = 0
  | .last => e.isLast
  | .like s => e.finds s

def remember (e : Editing) : Edit.Address → Editing
  | .like { expression := some r, .. } => { e with sought? := some r }
  | _ => e

def openRange (e : Editing) (k : Nat) : Edit.Limit → Editing
  | .more n => if n = 0 then e else { e with ranges := (k, some (e.number + n)) :: e.ranges }
  | .multiple n =>
    if n = 0 || e.number % n = 0 then e
    else { e with ranges := (k, some (e.number + n - e.number % n)) :: e.ranges }
  | .address (.line n) =>
    if n ≤ e.number then e else { e with ranges := (k, some n) :: e.ranges }
  | .address _ => { e with ranges := (k, none) :: e.ranges }

def closeRange (e : Editing) (k : Nat) : Editing :=
  { e with ranges := e.ranges.filter fun r => r.1 ≠ k }

def isIn (e : Editing) (k : Nat) (i : Edit) : Bool × Editing :=
  match i.first with
  | none => (true, e)
  | some a =>
    match i.second, e.ranges.lookup k with
    | none, _ => (e.isFor a, e.remember a)
    | some l, none => if e.isFor a then (true, (e.remember a).openRange k l) else (false, e)
    | some _, some (some n) =>
      (decide (e.number ≤ n), if e.number ≥ n then e.closeRange k else e)
    | some (.address b), some none =>
      (true, if e.isFor b then (e.remember b).closeRange k else e)
    | some _, some none => (true, e)

inductive Course where
  | go (counter : Nat)
  | endLine
  | dropLine
  | again
  | await (resumption : Resumption)
  | stop (silent : Bool) (status : Nat)

def behindBlock (edits : Array Edit) : Nat → Nat → Nat → Nat
  | 0, _, k => k
  | n + 1, depth, k =>
    match (edits[k]?).map Edit.deed with
    | none => k
    | some Edit.Deed.enter => behindBlock edits n (depth + 1) (k + 1)
    | some Edit.Deed.leave => if depth ≤ 1 then k + 1 else behindBlock edits n (depth - 1) (k + 1)
    | some _ => behindBlock edits n depth (k + 1)

def placeOf (edits : Array Edit) (name : String) : Nat :=
  (edits.findIdx? fun i => match i.deed with
    | .label other => name ≠ "" && other = name
    | _ => false).getD edits.size

def shown (c : Char) : List Char :=
  match [('\\', '\\'), (Char.ofNat 7, 'a'), (Char.ofNat 8, 'b'), (Char.ofNat 12, 'f'),
      ('\n', 'n'), ('\r', 'r'), ('\t', 't'), (Char.ofNat 11, 'v')].lookup c with
  | some letter => ['\\', letter]
  | none =>
    if ' ' ≤ c && c ≤ '~' then [c]
    else
      let digits := (Nat.toDigits 8 c.toNat)
      '\\' :: (List.replicate (3 - digits.length) '0' ++ digits)

def rows (width : Nat) : List (List Char) → Nat → List Char
  | [], _ => ['$']
  | cs :: rest, used =>
    if width > 1 && used + cs.length > width - 1 then
      '\\' :: '\n' :: (cs ++ rows width rest cs.length)
    else cs ++ rows width rest (used + cs.length)

def spelled (width : Nat) (line : String) : String :=
  String.ofList (rows width (line.toList.map shown) 0)

def substitute (e : Editing) (g : Editor) (s : Edit.Substitution) : Editing :=
  e.matched s.sought fun r fold =>
    let e := { e with sought? := some r }
    let text := matchable e.line
    let (turned, done) := Edit.substituted s r fold (2 * text.length + 4) 0 false
      { behind := [], ahead := text.toList }
    if !done then e
    else
      let turned := String.ofList turned
      let line := if (Bytes.text? e.line).isSome then Bytes.ofText turned else turned
      let e := { e with line, replaced := true }
      let e := (List.range s.prints).foldl (fun e _ => e.writeLine g line) e
      match s.file? with
      | some file => e.save g file line
      | none => e

def perform (e : Editing) (g : Editor) (k : Nat) (i : Edit) : Editing × Course :=
  let further := Course.go (k + 1)
  match i.deed with
  | .print => (e.writeLine g e.line, further)
  | .printFirst => (e.write ((e.line.splitOn "\n").headD "") g.close, further)
  | .delete => (e, .dropLine)
  | .deleteFirst =>
    match e.line.splitOn "\n" with
    | _ :: l :: ls => ({ e with line := "\n".intercalate (l :: ls) }, .again)
    | _ => (e, .dropLine)
  | .quit silent status => ({ e with ends := true }, .stop silent status)
  | .number => (e.write (toString e.number) "\n", further)
  | .spell => (e.write (spelled g.width e.line) "\n", further)
  | .next =>
    if e.isLast then (e, .stop g.silent 0)
    else ((if g.silent then e else e.writeLine g e.line).release, .await (.replacing (k + 1)))
  | .join => if e.isLast then (e, .stop g.silent 0) else (e.release, .await (.joining (k + 1)))
  | .keep append =>
    ({ e with hold := if append then e.hold ++ "\n" ++ e.line else e.line, holdEnds := e.ends },
      further)
  | .recall append =>
    ({ e with line := if append then e.line ++ "\n" ++ e.hold else e.hold, ends := e.holdEnds },
      further)
  | .swap =>
    ({ e with line := e.hold, hold := e.line, ends := e.holdEnds, holdEnds := e.ends }, further)
  | .clear => ({ e with line := "" }, further)
  | .turn table =>
    let turned := (matchable e.line).map fun c => (table.lookup c).getD c
    ({ e with line := if (Bytes.text? e.line).isSome then Bytes.ofText turned else turned },
      further)
  | .substitute s => (e.substitute g s, further)
  | .add text => ({ e with queue := e.queue ++ [text] }, further)
  | .insert text => (e.writeText text, further)
  | .change text =>
    if i.second.isSome && (e.ranges.lookup k).isSome && !i.negated then (e, .dropLine)
    else (e.writeText text, .dropLine)
  | .addFile name =>
    ({ e with queue := e.queue ++ ((g.files.lookup name).elim [] fun text => [text]) }, further)
  | .save name => (e.save g name e.line, further)
  | .label _ => (e, further)
  | .enter => (e, further)
  | .leave => (e, further)
  | .jump name condition =>
    if condition.all (· = e.replaced) then
      ({ e with replaced := if condition.isSome then false else e.replaced },
        .go (placeOf g.edits name))
    else ({ e with replaced := false }, further)

/-- Runs the script from an instruction on until the line is done or another
line is asked for. -/
def runFrom (g : Editor) : Nat → Nat → Editing → Editing
  | 0, _, e => { e with quit? := some 4 }
  | fuel + 1, k, e =>
    match g.edits[k]? with
    | none => { (if g.silent then e else e.writeLine g e.line).release with resumption := .anew }
    | some i =>
      let (held, e) := e.isIn k i
      if held = i.negated then
        let next := match i.deed with
          | .enter => behindBlock g.edits g.edits.size 0 k
          | _ => k + 1
        runFrom g fuel next e
      else
        match e.perform g k i with
        | (e, .go k) => runFrom g fuel k e
        | (e, .endLine) => runFrom g fuel g.edits.size e
        | (e, .dropLine) => { e.release with resumption := .anew }
        | (e, .again) => runFrom g fuel 0 e.release
        | (e, .await resumption) => { e with resumption }
        | (e, .stop silent status) =>
          let e := if silent || g.silent then e else e.writeLine g e.line
          { (if silent then { e with queue := [] } else e.release) with
            quit? := some status, resumption := .anew }

def patience : Nat := 1000000

def resume (g : Editor) (e : Editing) (line : String) (ends isLast : Bool) : Editing :=
  let e := { e with number := e.number + 1, ends, isLast, replaced := false }
  match e.resumption with
  | .anew => runFrom g patience 0 { e with line }
  | .replacing k => runFrom g patience k { e with line }
  | .joining k => runFrom g patience k { e with line := e.line ++ "\n" ++ line }

def taken (e : Editing) : Editing × String :=
  ({ e with made := [] }, String.join e.made.reverse)

def take (g : Editor) (e : Editing) (line : String) (ends : Bool) : Editing × String :=
  match e.waiting? with
  | none => ({ e with waiting? := some (line, ends) }, "")
  | some before =>
    (resume g { e with waiting? := some (line, ends) } before.1 before.2 false).taken

def conclude (g : Editor) (e : Editing) : Editing × String :=
  match e.waiting?, e.quit? with
  | some line, none => (resume g { e with waiting? := none } line.1 line.2 true).taken
  | _, _ => (e, "")

def excess (e : Editing) : Nat :=
  (e.waiting?.map fun line => line.1.length + if line.2 then 1 else 0).getD 0

end Editing

namespace Editor

def beginning (g : Editor) : Editing :=
  { ranges := (List.range g.edits.size).filterMap fun k =>
      if (g.edits[k]?).any Edit.fromZero then some (k, none) else none
    saved := (g.edits.toList.filterMap fun i => match i.deed with
      | .save name => some name
      | .substitute s => s.file?
      | _ => none).eraseDups.map fun name => (name, "") }

def sieve (g : Editor) : Sieve (Sieve.ByLine Editing) :=
  let base := Sieve.byLine g.beginning (Editing.take g) (fun e => (e.conclude g).2)
    fun e => e.quit?.isSome
  { base with excess := fun s => base.excess s + s.inner.excess }

/-- The end of what a sieve has let through: how the script ended, and its last words. -/
def concluded (g : Editor) (s : Sieve.ByLine Editing) : Editing × String :=
  if s.begun = "" || s.inner.quit?.isSome then s.inner.conclude g
  else
    let (e, front) := s.inner.take g s.begun false
    let (e, text) := e.conclude g
    (e, front ++ text)

def run (g : Editor) (text : String) : Editing × String :=
  let parts := text.splitOn g.close
  let ended := parts.getLast? = some ""
  let lines := if ended then parts.dropLast else parts
  let (e, made) := lines.zipIdx.foldl (fun (e, made) (line, k) =>
    if e.quit?.isSome then (e, made)
    else
      let (e, text) := e.take g line (ended || k + 1 < lines.length)
      (e, text :: made)) (g.beginning, [])
  let (e, text) := e.conclude g
  (e, String.join (text :: made).reverse)

end Editor

def editOptions : Options.Known :=
  { plain := "nErsuz", valued := "efl", optional := "i"
    long := [("quiet", 'n'), ("silent", 'n'), ("regexp-extended", 'E'), ("separate", 's'),
      ("unbuffered", 'u'), ("null-data", 'z'), ("expression", 'e'), ("file", 'f'),
      ("line-length", 'l'), ("in-place", 'i'), ("posix", 'p')] }

/-- The complaint about a script, which tells its part and the place in that. -/
def scriptFault (scripts : List String) (fault : Edit.Fault) : String :=
  let total := ("\n".intercalate scripts).length
  let rec place (index : Nat) (reached : Nat) : List String → Nat × Nat
    | [] => (index, reached)
    | [_] => (index, reached)
    | part :: parts =>
      if reached ≤ part.length then (index, reached)
      else place (index + 1) (reached - part.length - 1) parts
  let (index, reached) := place 1 (total - fault.left) scripts
  let reached := if fault.atStart then 0 else reached
  "-e expression #" ++ toString index ++ ", char " ++ toString reached ++ ": " ++ fault.text

def readFiles (edits : List Edit) : Task (List (String × String)) := do
  let names := (edits.filterMap fun i => match i.deed with
    | .addFile name => some name
    | _ => none).eraseDups
  let texts ← names.mapM fun name => do
    return (← textOf (if name = "/dev/stdin" then "-" else name)).toOption.map ((name, ·))
  return texts.filterMap id

def writeFile (name text : String) : Task Unit := do
  match ← Task.openAs name .output with
  | .ok n => do
    let _ ← Task.write n text
    Task.close n
  | .error e => Task.complain ("sed: couldn't open file " ++ name ++ ": " ++ e.text ++ "\n")

def editEach (g : Editor) (inPlace? : Option String) : List String → Nat → Task Nat
  | [], status => return status
  | file :: files, status => do
    match ← textOf file with
    | .error e => do
      Task.complain ("sed: " ++ editExcuse e file ++ "\n")
      editEach g inPlace? files (if e = .isDirectory then 4 else 2)
    | .ok text => do
      let (e, made) := g.run text
      match inPlace? with
      | none => put "sed" made
      | some ending => do
        if ending ≠ "" then
          writeFile (if '*' ∈ ending.toList then ending.replace "*" file else file ++ ending) text
        writeFile file made
      for (name, saved) in e.saved do writeFile name saved
      match e.quit? with
      | some status => return status
      | none => editEach g inPlace? files status
where
  editExcuse (e : Refusal) (file : String) : String :=
    if e = .isDirectory then "couldn't edit " ++ file ++ ": not a regular file"
    else "can't read " ++ file ++ ": " ++ e.text

def sedExcuse : Excuse where
  unopened file e := "can't read " ++ file ++ ": " ++ e.text
  unread file e := "read error on " ++ file ++ ": " ++ e.text
  status := 2

def sed : Program := fun _ s =>
  let o := Options.read editOptions s.arguments
  let extended := o.has 'E' || o.has 'r'
  o.orElse "sed" 1 do
    let fromFiles ← (o.values 'f').mapM fun file => do
      return (file, (← textOf file).map fun text =>
        if text.endsWith "\n" then (text.dropEnd 1).toString else text)
    let (scripts, files) := match o.values 'e' ++ (fromFiles.filterMap fun f => f.2.toOption),
        o.operands with
      | [], script :: files => if o.has 'f' then ([], script :: files) else ([script], files)
      | given, files => (given, files)
    if !o.has 'e' && !o.has 'f' && o.operands = [] then
      Task.complain
        "Usage: sed [OPTION]... \x7bscript-only-if-no-other-script\x7d [input-file]...\n\n"
      return 1
    else
      match fromFiles.find? fun f => f.2.toOption.isNone with
      | some (file, .error e) =>
        say "sed" (complaint "sed" ("couldn't open file " ++ file ++ ": " ++ e.text) 1)
      | _ =>
        let script := "\n".intercalate scripts
        match Edit.script extended (script.length + 1) 0 (matchable script).toList with
        | .error fault => say "sed" (complaint "sed" (scriptFault scripts fault) 1)
        | .ok edits =>
          match Edit.lostJump? edits with
          | some name =>
            say "sed" (complaint "sed" ("can't find label for jump to " ++ Edit.marked name) 1)
          | none => do
            let g : Editor :=
              { edits := edits.toArray, silent := o.has 'n' || script.startsWith "#n\n"
                close := if o.has 'z' then String.singleton (Char.ofNat 0) else "\n"
                files := ← readFiles edits
                width := ((o.value? 'l').bind Number.natural?).getD 70 }
            let files := if files = [] then ["-"] else files
            if o.has 'i' || o.has 's' || o.has 'z' then editEach g (o.value? 'i') files 0
            else
              let v := if o.has 'u' then { g.sieve with hasty := true } else g.sieve
              let (s, held, status) ← pourAll "sed" sedExcuse v files v.start "" 0
              let (e, text) := g.concluded s
              put "sed" (held ++ text)
              for (name, saved) in e.saved do writeFile name saved
              return e.quit?.getD status

end WindowsListing.Unix.Utility
