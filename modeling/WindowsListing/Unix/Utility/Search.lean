import WindowsListing.Unix.Regular
import WindowsListing.Unix.Utility.Order

/-!
# Searching lines

The programs that choose lines by regular expressions. A line is shown with
the lines around it that were asked for.
-/

set_option autoImplicit false

namespace WindowsListing.Unix.Utility
open Program

def matchable (line : String) : String := (Bytes.text? line).getD line

def asBytes (line part : String) : String :=
  if (Bytes.text? line).isSome then Bytes.ofText part else part

def onWordBounds (r : Regular.Place × Regular.Place) : Bool :=
  !(r.1.behind.head?.any Regular.isWordChar) && !(r.2.ahead.head?.any Regular.isWordChar)

def literally (text : String) : Regular :=
  text.toList.foldl (fun r c => .both r (.exactly c)) .nothing

structure Search where
  patterns : List Regular
  fold : Char → Char := id
  whole : Bool := false
  word : Bool := false

namespace Search

/-- Where a line matches at or ahead of a place: as far to the left as possible,
and as long. -/
def from? (q : Search) (fuel : Nat) (p : Regular.Place) :
    Option (Regular.Place × Regular.Place) :=
  let found := q.patterns.filterMap fun r =>
    let r := if q.whole then .both .lineStart (.both r .lineEnd) else r
    if q.word then wordMatch r fuel p else Regular.search q.fold r fuel p
  found.foldl (fun best m =>
    match best with
    | none => some m
    | some b =>
      let start := m.1.behind.length
      if start < b.1.behind.length ||
        (start = b.1.behind.length && m.2.behind.length > b.2.behind.length) then some m
      else some b) none
where
  wordMatch (r : Regular) : Nat → Regular.Place → Option (Regular.Place × Regular.Place)
    | 0, _ => none
    | n + 1, p =>
      match Regular.search q.fold r (p.ahead.length + 1) p with
      | none => none
      | some m =>
        if onWordBounds m then some m
        else
          match m.1.ahead with
          | c :: cs => wordMatch r n (m.1.step c cs)
          | [] => none

def holds (q : Search) (line : String) : Bool :=
  let line := matchable line
  (q.from? (line.length + 1) { behind := [], ahead := line.toList }).isSome

/-- The parts of a line that match, from left to right, the empty ones left out. -/
def parts (q : Search) : Nat → Regular.Place → List String
  | 0, _ => []
  | n + 1, p =>
    match q.from? (p.ahead.length + 1) p with
    | none => []
    | some (start, stop) =>
      let text := stop.since start
      if text = [] then
        match start.ahead with
        | c :: cs => parts q n (start.step c cs)
        | [] => []
      else String.ofList text :: parts q n { stop with groups := [] }

def partsOf (q : Search) (line : String) : List String :=
  let text := matchable line
  (q.parts (text.length + 1) { behind := [], ahead := text.toList }).map (asBytes line)

end Search

structure Grep where
  search : Search
  inverted : Bool
  counts : Bool
  quiet : Bool
  onlyParts : Bool
  most : Option Nat
  numbered : Bool
  offsets : Bool
  before : Nat
  after : Nat
  names : Bool

structure Grepping where
  line : Nat := 0
  offset : Nat := 0
  found : Nat := 0
  held : List (Nat × Nat × String) := []
  due : Nat := 0
  lastShown : Nat := 0
  isOver : Bool := false

namespace Grep

def front (g : Grep) (label : String) (line offset : Nat) (sign : String) : String :=
  (if label = "" then "" else label ++ sign) ++
    (if g.numbered then toString line ++ sign else "") ++
    (if g.offsets then toString offset ++ sign else "")

def isSilent (g : Grep) : Bool := g.counts || g.quiet || g.names

def step (g : Grep) (label : String) (s : Grepping) (l : String) : Grepping × String :=
  let line := s.line + 1
  let next := { s with line, offset := s.offset + l.length + 1 }
  if g.search.holds l != g.inverted then
    let found := s.found + 1
    let isOver := g.quiet || g.names || (g.most.any (found ≥ ·) && g.after = 0)
    let next := { next with found, isOver, held := [], due := g.after, lastShown := line }
    if g.isSilent then (next, "")
    else
      let firstShown := (s.held.head?.map (·.1)).getD line
      let mark := if (g.before > 0 || g.after > 0) && s.lastShown > 0 &&
          firstShown > s.lastShown + 1 then "--\n" else ""
      let context := String.join (s.held.map fun (n, offset, text) =>
        g.front label n offset "-" ++ text ++ "\n")
      let own := if g.onlyParts then
          if g.inverted then ""
          else unlines ((g.search.partsOf l).map (g.front label line s.offset ":" ++ ·))
        else g.front label line s.offset ":" ++ l ++ "\n"
      (next, mark ++ (if g.onlyParts then "" else context) ++ own)
  else if s.due > 0 then
    let next := { next with due := s.due - 1, lastShown := line
                            isOver := s.due = 1 && g.most.any (s.found ≥ ·) }
    (next, if g.isSilent || g.onlyParts then "" else g.front label line s.offset "-" ++ l ++ "\n")
  else
    let held := if g.before = 0 then [] else s.held ++ [(line, s.offset, l)]
    ({ next with held := held.drop (held.length - g.before) }, "")

def sieve (g : Grep) (label : String) : Sieve (Sieve.ByLine Grepping) :=
  { Sieve.byLine { isOver := g.most = some 0 } (fun s l _ => g.step label s l) (fun _ => "")
      (·.isOver) with piece := 32768 }

end Grep

def patternsOf (o : Options) (texts files : List String) (extended fixed : Bool) :
    Option (Search × List String) :=
  (((texts.flatMap fun t => (matchable t).splitOn "\n")).mapM fun t =>
    if fixed then some (literally t) else Regular.ofText? extended t).map fun patterns =>
      ({ patterns, fold := if o.has 'i' || o.has 'y' then Char.toLower else id
         whole := o.has 'x', word := o.has 'w' }, files)

def grepOptions : Options.Known :=
  { plain := "EFGPivycnqsloLhHwxbrRaUzTI", valued := "efmABCdD", optional := "@"
    long := [("extended-regexp", 'E'), ("fixed-strings", 'F'), ("basic-regexp", 'G'),
      ("ignore-case", 'i'), ("invert-match", 'v'), ("count", 'c'), ("line-number", 'n'),
      ("quiet", 'q'), ("silent", 'q'), ("no-messages", 's'), ("files-with-matches", 'l'),
      ("files-without-match", 'L'), ("only-matching", 'o'), ("no-filename", 'h'),
      ("with-filename", 'H'), ("word-regexp", 'w'), ("line-regexp", 'x'), ("byte-offset", 'b'),
      ("recursive", 'r'), ("text", 'a'), ("regexp", 'e'), ("file", 'f'), ("max-count", 'm'),
      ("after-context", 'A'), ("before-context", 'B'), ("context", 'C'), ("color", '@'),
      ("colour", '@'), ("line-buffered", 'U')] }

def below (f : Files) (directory : Nat) : Nat → List String → List String
  | 0, _ => []
  | _, [] => []
  | fuel + 1, path :: paths =>
    match f.find directory path true with
    | .ok n =>
      if f.isDirectory n then
        below f directory fuel ((f.listing n).map (fun name =>
          (if path.endsWith "/" then path else path ++ "/") ++ name) ++ paths)
      else path :: below f directory fuel paths
    | .error _ => path :: below f directory fuel paths

/-- Searches files one after the other. The answer tells whether anything was
found, and whether something went wrong. -/
def searchEach (o : Options) (g : Grep) (labelled : Bool) :
    List String → Bool → Bool → Task (Bool × Bool)
  | [], found, wrong => return (found, wrong)
  | file :: files, found, wrong => do
    let name := if file = "-" then "(standard input)" else file
    match ← openOperand file with
    | .error e => do
      if !o.has 's' then Task.complain ("grep: " ++ file ++ ": " ++ e.text ++ "\n")
      searchEach o g labelled files found true
    | .ok n => do
      let v := g.sieve (if labelled then name else "")
      let (s, held, trouble?) ← pour "grep" v n Task.enough v.start ""
      let last := if s.begun = "" || s.inner.isOver then (s.inner, "")
        else g.step (if labelled then name else "") s.inner s.begun
      put "grep" (held ++ last.2)
      if n ≠ 0 then Task.close n
      match trouble? with
      | some e => if !o.has 's' then Task.complain ("grep: " ++ file ++ ": " ++ e.text ++ "\n")
      | none => pure ()
      let here := last.1.found > 0
      if g.counts && !g.quiet && !g.names then
        put "grep" ((if labelled then name ++ ":" else "") ++ toString last.1.found ++ "\n")
      if !g.quiet then
        if o.has 'L' then put "grep" (if here then "" else name ++ "\n")
        else if o.has 'l' then put "grep" (if here then name ++ "\n" else "")
      if g.quiet && here then return (true, wrong || trouble?.isSome)
      else searchEach o g labelled files (found || here) (wrong || trouble?.isSome)

def withContext (words : List String) : List String :=
  words.map fun word =>
    match word.toList with
    | '-' :: c :: cs =>
      if (c :: cs).all Char.isDigit then "-C" ++ String.ofList (c :: cs) else word
    | _ => word

def grepAs (name : String) (extended fixed : Bool) : Program := fun _ s =>
  let o := Options.read grepOptions (withContext s.arguments)
  o.orElse name 2 do
    let kind := o.last? "EFG"
    let extended := kind = some 'E' || (kind.isNone && extended)
    let fixed := kind = some 'F' || (kind.isNone && fixed)
    let fromFiles ← (o.values 'f').mapM fun file => do
      return ((← textOf file).map lines).toOption
    let (texts, files) := match o.values 'e' ++ (fromFiles.map fun ls => (ls.getD [])).flatten,
        o.operands with
      | [], pattern :: files => if o.has 'f' then ([], pattern :: files) else ([pattern], files)
      | given, files => (given, files)
    if o.operands = [] && o.values 'e' = [] && o.values 'f' = [] then
      Task.complain ("Usage: " ++ name ++ " [OPTION]... PATTERNS [FILE]...\n" ++
        "Try '" ++ name ++ " --help' for more information.\n")
      return 2
    else if fromFiles.any Option.isNone then
      say name (complaint name ((o.value? 'f').getD "" ++ ": No such file or directory") 2)
    else
      match patternsOf o texts files extended fixed with
      | none => say name (complaint name "Invalid regular expression" 2)
      | some (search, files) => do
        let number := fun c => (o.value? c).bind Number.natural?
        let around := (number 'C').getD 0
        let g : Grep :=
          { search, inverted := o.has 'v', counts := o.has 'c', quiet := o.has 'q'
            onlyParts := o.has 'o', most := number 'm', numbered := o.has 'n'
            offsets := o.has 'b', before := (number 'B').getD around
            after := (number 'A').getD around, names := o.has 'l' || o.has 'L' }
        let deep := o.has 'r' || o.has 'R'
        let files ← if deep then Task.inspect fun w =>
            let paths := below w.files w.directory (w.files.nodes.size + files.length + 1)
              (if files = [] then ["."] else files)
            if files = [] then paths.map fun p => (p.drop 2).toString else paths
          else pure (if files = [] then ["-"] else files)
        let labelled := (files.length > 1 || deep || o.last? "hH" = some 'H') &&
          o.last? "hH" ≠ some 'h'
        let (found, wrong) ← searchEach o g labelled files false false
        return if found && (!wrong || o.has 'q') then 0 else if wrong then 2 else 1

def grep : Program := grepAs "grep" false false

def egrep : Program := grepAs "egrep" true false

def fgrep : Program := grepAs "fgrep" false true

end WindowsListing.Unix.Utility
