import WindowsListing.Unix.Number
import WindowsListing.Unix.Sight
import WindowsListing.Unix.Utility.Sieve

/-!
# Copying

The programs that copy text, or its beginning or its end, and those that
count.
-/

set_option autoImplicit false

namespace WindowsListing.Unix.Utility
open Program

def rightAligned (width : Nat) (text : String) : String :=
  String.ofList (List.replicate (width - text.length) ' ') ++ text

structure Display where
  numbers : Bool := false
  numbersNonblank : Bool := false
  squeezes : Bool := false
  ends : Bool := false
  tabs : Bool := false
  controls : Bool := false

structure Showing where
  number : Nat := 0
  fresh : Bool := true
  blanks : Nat := 0
  return_ : Bool := false

namespace Display

def low (c : Char) : String :=
  if c.toNat < 32 then "^" ++ String.singleton (Char.ofNat (c.toNat + 64))
  else if c.toNat = 127 then "^?"
  else String.singleton c

def character (d : Display) (c : Char) : String :=
  if c = '\t' then if d.tabs then "^I" else "\t"
  else if !d.controls then String.singleton c
  else if c.toNat < 128 then low c
  else "M-" ++ low (Char.ofNat (c.toNat - 128))

def numberOf (d : Display) (s : Showing) (blank : Bool) : Showing × String :=
  if s.fresh && (if d.numbersNonblank then !blank else d.numbers) then
    ({ s with number := s.number + 1 }, rightAligned 6 (toString (s.number + 1)) ++ "\t")
  else (s, "")

def plainStep (d : Display) (s : Showing) (c : Char) : Showing × String :=
  if c = '\n' then
    let blanks := if s.fresh then s.blanks + 1 else 0
    if d.squeezes && blanks ≥ 2 then ({ s with blanks }, "")
    else
      let (s, number) := d.numberOf s true
      ({ s with fresh := true, blanks }, number ++ (if d.ends then "$\n" else "\n"))
  else
    let (s, number) := d.numberOf s false
    ({ s with fresh := false, blanks := 0 }, number ++ d.character c)

/-- One character. Where ends are shown, a carriage return in front of one is, too. -/
def step (d : Display) (s : Showing) (c : Char) : Showing × String :=
  if d.ends && c = '\r' && !s.return_ then
    let (s, number) := d.numberOf s false
    ({ s with fresh := false, blanks := 0, return_ := true }, number)
  else if s.return_ then
    let front := if c = '\n' then "^M" else d.character '\r'
    let (s, text) := d.plainStep { s with return_ := false } c
    (s, front ++ text)
  else d.plainStep s c

def sieve (d : Display) : Sieve Showing where
  start := {}
  feed s text :=
    let (s, made) := text.toList.foldl (fun (s, made) c =>
      let (s, text) := d.step s c
      (s, text :: made)) (s, [])
    (s, String.join made.reverse)
  finish s := if s.return_ then d.character '\r' else ""
  hasty := true
  piece := Task.block

end Display

def copying : Sieve Unit where
  start := ()
  feed _ text := ((), text)
  hasty := true
  piece := Task.block

def cat : Program := fun _ s =>
  let o := Options.read
    { plain := "AbeEnstTuv"
      long := [("show-all", 'A'), ("number-nonblank", 'b'), ("show-ends", 'E'), ("number", 'n'),
        ("squeeze-blank", 's'), ("show-tabs", 'T'), ("show-nonprinting", 'v')] } s.arguments
  let d : Display :=
    { numbers := o.has 'n', numbersNonblank := o.has 'b', squeezes := o.has 's'
      ends := o.has 'A' || o.has 'e' || o.has 'E', tabs := o.has 'A' || o.has 't' || o.has 'T'
      controls := o.has 'A' || o.has 'e' || o.has 't' || o.has 'v' }
  let isPlain := o.given.all (·.1 = 'u')
  o.orElse "cat" 1
    (if isPlain then filter "cat" .plain copying o.operands
    else filter "cat" .plain d.sieve o.operands)

/-- The pieces of a text with the separator behind each of them, the last of which may lack it. -/
def endedLines (text : String) : List String :=
  let ls := lines text
  if text = "" || text.toList.getLast? = some '\n' then ls.map (· ++ "\n")
  else ls.dropLast.map (· ++ "\n") ++ ls.getLast?.toList

def tac : Program := fun _ s =>
  let o := Options.read { plain := "br", valued := "s", long := [("separator", 's')] } s.arguments
  let turn := fun text =>
    match o.value? 's' with
    | some mark =>
      if mark = "" then text
      else
        let parts := text.splitOn mark
        let ended := parts.dropLast.map (· ++ mark)
        let last := parts.getLastD ""
        String.join ((ended ++ (if last = "" then [] else [last])).reverse)
    | none => String.join (endedLines text).reverse
  o.orElse "tac" 1
    (filter "tac" (Excuse.opening "failed to") (Sieve.whole turn) o.operands)

def reversed (l : String) : String :=
  match Bytes.text? l with
  | some text => Bytes.ofText (String.ofList text.toList.reverse)
  | none => String.ofList l.toList.reverse

def rev : Program := fun _ s =>
  let o := Options.read {} s.arguments
  o.orElse "rev" 1 (filter "rev" { unopened := fun file e =>
    "cannot open " ++ file ++ ": " ++ e.text }
      (Sieve.mapLines reversed) o.operands)

/-- Writes a text to several descriptors, and tells which of them still take it. -/
def writeEach (text : String) : List (Nat × String) → Task (List (Nat × String) × Bool)
  | [] => return ([], false)
  | (n, file) :: rest => do
    match ← Task.write n text with
    | .ok _ => do
      let (kept, failed) ← writeEach text rest
      return ((n, file) :: kept, failed)
    | .error e => do
      Task.complain ("tee: " ++ file ++ ": " ++ e.text ++ "\n")
      return ((← writeEach text rest).1, true)

def teeUpTo : Nat → List (Nat × String) → Nat → Task Nat
  | 0, _, status => return status
  | n + 1, outputs, status => do
    match ← Task.read 0 Task.block with
    | .ok "" => return status
    | .ok text =>
      let (outputs, failed) ← writeEach text outputs
      if outputs = [] then return 1
      else teeUpTo n outputs (if failed then 1 else status)
    | .error _ => return 1

def openEach (a : Access) : List String → Task (List (Nat × String) × Nat)
  | [] => return ([], 0)
  | file :: files => do
    match ← Task.openAs file a with
    | .ok n => do
      let (rest, status) ← openEach a files
      return ((n, file) :: rest, status)
    | .error e => do
      Task.complain ("tee: " ++ file ++ ": " ++ e.text ++ "\n")
      return ((← openEach a files).1, 1)

def tee : Program := fun _ s => do
  let o := Options.read
    { plain := "aip", long := [("append", 'a'), ("ignore-interrupts", 'i')] } s.arguments
  o.orElse "tee" 1 do
    if o.has 'i' then Task.dispose 2 true false
    let (outputs, status) ← openEach (if o.has 'a' then .append else .output) o.operands
    teeUpTo Task.enough ((1, "standard output") :: outputs) status

def multiplier? : List Char → Option Nat
  | [] => some 1
  | ['b'] => some 512
  | ['k'] => some 1024
  | ['K'] => some 1024
  | ['m'] => some (1024 * 1024)
  | ['M'] => some (1024 * 1024)
  | ['G'] => some (1024 * 1024 * 1024)
  | ['k', 'B'] => some 1000
  | ['K', 'B'] => some 1000
  | ['M', 'B'] => some (1000 * 1000)
  | ['K', 'i', 'B'] => some 1024
  | ['M', 'i', 'B'] => some (1024 * 1024)
  | _ => none

def amount? (cs : List Char) : Option Nat :=
  let digits := cs.takeWhile Char.isDigit
  (Number.value? 10 digits).bind fun n =>
    (multiplier? (cs.drop digits.length)).map (n * ·)

/-- An amount, which a sign may turn into what is left out or a place to start from. -/
def countOf? (text : String) : Option (Char × Nat) :=
  match text.toList with
  | '-' :: cs => (amount? cs).map fun n => ('-', n)
  | '+' :: cs => (amount? cs).map fun n => ('+', n)
  | cs => (amount? cs).map fun n => (' ', n)

def withCount (words : List String) : List String :=
  match words with
  | word :: rest =>
    match word.toList with
    | '-' :: c :: cs =>
      if (c :: cs).all Char.isDigit then "-n" :: String.ofList (c :: cs) :: rest else words
    | _ => words
  | [] => []

def firstCharacters (n : Nat) : Sieve (Nat × Nat) where
  start := (n, 0)
  feed s text :=
    let taken := (text.take s.1).toString
    ((s.1 - taken.length, text.length - taken.length), taken)
  isDone s := s.1 = 0
  excess s := s.2
  piece := 8192

def firstLines (mark : Char) (n : Nat) : Sieve (Nat × Nat) where
  start := (n, 0)
  feed s text :=
    let (left, rest, taken) := go s.1 text.toList []
    ((left, rest.length), String.ofList taken.reverse)
  isDone s := s.1 = 0
  excess s := s.2
  piece := 8192
where
  go : Nat → List Char → List Char → Nat × List Char × List Char
    | 0, cs, taken => (0, cs, taken)
    | n, [], taken => (n, [], taken)
    | n + 1, c :: cs, taken =>
      if c = mark then go n cs (c :: taken) else go (n + 1) cs (c :: taken)

def endedBy (mark : Char) (text : String) : List String :=
  let parts := text.splitOn (String.singleton mark)
  parts.dropLast.map (fun p => p.push mark) ++
    (if parts.getLastD "" = "" then [] else [parts.getLastD ""])

def head? (o : Options) : Except String ((σ : Type) × Sieve σ) :=
  let mark := if o.has 'z' then Char.ofNat 0 else '\n'
  match o.last? "cn", (o.last? "cn").bind fun c => (o.value? c).bind countOf? with
  | none, _ => .ok ⟨_, firstLines mark 10⟩
  | some 'c', some ('-', n) => .ok ⟨_, Sieve.whole fun text =>
      (text.take (text.length - n)).toString⟩
  | some 'c', some (_, n) => .ok ⟨_, firstCharacters n⟩
  | some _, some ('-', n) => .ok ⟨_, Sieve.whole fun text =>
      let ls := endedBy mark text
      String.join (ls.take (ls.length - n))⟩
  | some _, some (_, n) => .ok ⟨_, firstLines mark n⟩
  | some c, none => .error ("invalid number of " ++ (if c = 'c' then "bytes" else "lines") ++
      ": " ++ inMarks ((o.value? c).getD ""))

def tail? (o : Options) : Except String ((σ : Type) × Sieve σ) :=
  let mark := if o.has 'z' then Char.ofNat 0 else '\n'
  match o.last? "cn", (o.last? "cn").bind fun c => (o.value? c).bind countOf? with
  | none, _ => .ok ⟨_, lastLines mark 10⟩
  | some 'c', some ('+', n) => .ok ⟨_, Sieve.whole fun text => (text.drop (n - 1)).toString⟩
  | some 'c', some (_, n) => .ok ⟨_, Sieve.whole fun text =>
      (text.drop (text.length - n)).toString⟩
  | some _, some ('+', n) => .ok ⟨_, Sieve.whole fun text =>
      String.join ((endedBy mark text).drop (n - 1))⟩
  | some _, some (_, n) => .ok ⟨_, lastLines mark n⟩
  | some c, none => .error ("invalid number of " ++ (if c = 'c' then "bytes" else "lines") ++
      ": " ++ inMarks ((o.value? c).getD ""))
where
  lastLines (mark : Char) (n : Nat) : Sieve (List String) := Sieve.whole fun text =>
    let ls := endedBy mark text
    String.join (ls.drop (ls.length - n))

/-- Lets each operand run through a sieve of its own, under its name if asked. -/
def eachUnder {σ : Type} (name : String) (banner : Bool) (v : Sieve σ) :
    Bool → Nat → List String → Task Nat
  | _, status, [] => return status
  | isFirst, status, file :: files => do
    match ← openOperand file with
    | .error e => do
      Task.complain (name ++ ": " ++ (Excuse.opening "cannot").unopened file e ++ "\n")
      eachUnder name banner v isFirst 1 files
    | .ok n => do
      if banner then
        put name ((if isFirst then "" else "\n") ++ "==> " ++
          (if file = "-" then "standard input" else file) ++ " <==\n")
      let (s, held, trouble?) ← pour name v n Task.enough v.start ""
      put name (held ++ (if trouble?.isNone then v.finish s else ""))
      if n ≠ 0 then Task.close n
      match trouble? with
      | some e => do
        Task.complain (name ++ ": " ++ (Excuse.opening "cannot").unread file e ++ "\n")
        eachUnder name banner v false 1 files
      | none => eachUnder name banner v false status files

def ends (name : String) (sieve? : Options → Except String ((σ : Type) × Sieve σ)) : Program :=
  fun _ s =>
    let o := Options.read
      { plain := "qvz", valued := "cn"
        long := [("bytes", 'c'), ("lines", 'n'), ("quiet", 'q'), ("silent", 'q'), ("verbose", 'v'),
          ("zero-terminated", 'z')] } (withCount s.arguments)
    let files := if o.operands = [] then ["-"] else o.operands
    o.orElse name 1
      (match sieve? o with
      | .error message => say name (complaint name message 1)
      | .ok ⟨_, v⟩ =>
        eachUnder name (files.length > 1 && !o.has 'q' || o.has 'v') v true 0 files)

def head : Program := ends "head" head?

def tail : Program := ends "tail" tail?

structure Counts where
  lines : Nat := 0
  words : Nat := 0
  characters : Nat := 0
  bytes : Nat := 0
  longest : Nat := 0
  column : Nat := 0
  inWord : Bool := false

namespace Counts

def step (s : Counts) (c : Char) : Counts :=
  let continues := c.toNat / 64 = 2
  let blank := Number.isBlank c
  let column := if c = '\n' || c = '\r' || c = '\x0c' then 0
    else if c = '\t' then s.column / 8 * 8 + 8
    else if c.toNat < 32 || continues then s.column
    else s.column + 1
  { lines := if c = '\n' then s.lines + 1 else s.lines
    words := if !blank && !s.inWord then s.words + 1 else s.words
    characters := if continues then s.characters else s.characters + 1
    bytes := s.bytes + 1
    longest := max s.longest column
    column
    inWord := !blank }

def sieve : Sieve Counts where
  start := {}
  feed s text := (text.toList.foldl step s, "")
  piece := 16384

def add (a b : Counts) : Counts :=
  { lines := a.lines + b.lines, words := a.words + b.words
    characters := a.characters + b.characters, bytes := a.bytes + b.bytes
    longest := max a.longest b.longest }

def chosen (o : Options) (s : Counts) : List Nat :=
  let all := !(o.given.any fun g => "lwcmL".contains g.1)
  (if all || o.has 'l' then [s.lines] else []) ++ (if all || o.has 'w' then [s.words] else []) ++
  (if o.has 'm' then [s.characters] else []) ++ (if all || o.has 'c' then [s.bytes] else []) ++
  (if o.has 'L' then [s.longest] else [])

end Counts

def countWidth (w : World) (o : Options) (files : List String) : Nat :=
  let sights := files.map fun file =>
    if file = "-" then w.lookAt? 0 else (w.look file true).toOption
  if files.length = 1 && (Counts.chosen o {}).length = 1 then 1
  else
    let sizes := sights.map fun s? => match s? with
      | some s => if s.sort = '-' then s.size else 0
      | none => 0
    let least := if sights.any fun s? => s?.any (·.sort ≠ '-') then 7 else 1
    max least (toString (sizes.foldl (· + ·) 0)).length

def countLine (width : Nat) (numbers : List Nat) (name : String) : String :=
  " ".intercalate (numbers.map fun n => rightAligned width (toString n)) ++
    (if name = "" then "" else " " ++ name) ++ "\n"

def countEach (o : Options) (width : Nat) (named : Bool) :
    List String → Counts → Nat → Task (Counts × Nat)
  | [], total, status => return (total, status)
  | file :: files, total, status => do
    match ← openOperand file with
    | .error e => do
      Task.complain ("wc: " ++ file ++ ": " ++ e.text ++ "\n")
      countEach o width named files total 1
    | .ok n => do
      let (counts, _, trouble?) ← pour "wc" Counts.sieve n Task.enough {} ""
      if n ≠ 0 then Task.close n
      match trouble? with
      | some e => Task.complain ("wc: " ++ file ++ ": " ++ e.text ++ "\n")
      | none => pure ()
      put "wc" (countLine width (counts.chosen o) (if named then file else ""))
      countEach o width named files (total.add counts) (if trouble?.isSome then 1 else status)

def wc : Program := fun _ s =>
  let o := Options.read
    { plain := "lwcmL"
      long := [("lines", 'l'), ("words", 'w'), ("bytes", 'c'), ("chars", 'm'),
        ("max-line-length", 'L')] } s.arguments
  let files := if o.operands = [] then ["-"] else o.operands
  o.orElse "wc" 1 do
    let width ← Task.inspect fun w => countWidth w o files
    let (total, status) ← countEach o width (o.operands ≠ []) files {} 0
    if files.length > 1 then put "wc" (countLine width (total.chosen o) "total")
    return status

end WindowsListing.Unix.Utility
