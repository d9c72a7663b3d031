import WindowsListing.Unix.Regular
import WindowsListing.Unix.Utility.Copy
import WindowsListing.Unix.Utility.Print

/-!
# Characters and columns

The programs that replace or choose characters, and those that choose, join
and fold columns.
-/

set_option autoImplicit false

namespace WindowsListing.Unix.Utility
open Program

inductive SetPart where
  | characters (cs : List Char)
  | named (name : String)
  | repeated (c : Char) (times : Option Nat)

def named (name : String) : List Char :=
  ((List.range 256).map Char.ofNat).filter (SetItem.inClass · name)

def character : List Char → Option (Char × List Char)
  | '\\' :: cs =>
    match escape? ⟨false, false, false⟩ cs with
    | some (some [c], k) => some (c, cs.drop k)
    | _ =>
      match cs with
      | c :: cs => some (c, cs)
      | [] => some ('\\', [])
  | c :: cs => some (c, cs)
  | [] => none

def quoteRange (c d : Char) : String :=
  "range-endpoints of '" ++ String.ofList [c, '-', d] ++
    "' are in reverse collating sequence order"

def bracketed? (cs : List Char) : Option (Except String SetPart × List Char) :=
  match cs with
  | '[' :: ':' :: cs =>
    let name := cs.takeWhile (· ≠ ':')
    match cs.drop name.length with
    | ':' :: ']' :: rest =>
      let name := String.ofList name
      some (if SetItem.classes.contains name then .ok (.named name)
        else .error ("invalid character class " ++ inMarks name), rest)
    | _ => none
  | '[' :: '=' :: c :: '=' :: ']' :: rest => some (.ok (.characters [c]), rest)
  | '[' :: cs =>
    match character cs with
    | some (c, '*' :: rest) =>
      let digits := rest.takeWhile Char.isDigit
      match rest.drop digits.length with
      | ']' :: rest =>
        let times := (if digits.head? = some '0' then Number.valueFrom? 8 0 digits
          else Number.value? 10 digits).filter (· ≠ 0)
        some (.ok (.repeated c times), rest)
      | _ => none
    | _ => none
  | _ => none

def setParts : Nat → List Char → Except String (List SetPart)
  | 0, _ => .ok []
  | n + 1, cs =>
    match bracketed? cs with
    | some (part, rest) => do return (← part) :: (← setParts n rest)
    | none =>
      match character cs with
      | none => .ok []
      | some (c, '-' :: rest) =>
        match character rest with
        | none => .ok [.characters [c, '-']]
        | some (d, rest) =>
          if c ≤ d then do
            let cs := (List.range (d.toNat + 1 - c.toNat)).map fun i => Char.ofNat (c.toNat + i)
            return .characters cs :: (← setParts n rest)
          else .error (quoteRange c d)
      | some (c, rest) => do return .characters [c] :: (← setParts n rest)

/-- The characters of a set, of which the members without a number fill it up to a length. -/
def setCharacters (length : Nat) (parts : List SetPart) : List Char :=
  let fixed := (parts.map fun p => match p with
    | .characters cs => cs.length
    | .named name => (named name).length
    | .repeated _ times => times.getD 0).foldl (· + ·) 0
  parts.flatMap fun p => match p with
    | .characters cs => cs
    | .named name => named name
    | .repeated c times => List.replicate (times.getD (length - fixed)) c

/-- Runs of a character of the set become one. The character before may be given. -/
def squeezed (held : Char → Bool) : Option Char → List Char → List Char
  | _, [] => []
  | before, c :: cs =>
    if before = some c && held c then squeezed held before cs
    else c :: squeezed held (some c) cs

/-- What each character is replaced by. The last character of the second set
stands for all that it lacks. -/
def replaced (old new : List Char) (c : Char) : Char :=
  match old.reverse.idxOf? c with
  | some i => (new[old.length - 1 - i]?).getD (new.getLast?.getD c)
  | none => c

def isCase : SetPart → Bool
  | .named name => name = "upper" || name = "lower"
  | _ => false

def isNamed : SetPart → Bool
  | .named _ => true
  | _ => false

def replacementFault? (first second : List SetPart) (truncates : Bool) : Option String :=
  if second.any fun p => isNamed p && !isCase p then
    some ("when translating, the only character classes that may appear in\n" ++
      "string2 are 'upper' and 'lower'")
  else if second.any isCase && !first.any isCase then
    some "misaligned [:upper:] and/or [:lower:] construct"
  else if second.isEmpty && !truncates then
    some "when not truncating set1, string2 must be non-empty"
  else none

def trSieve (turn : Char → Option Char) (held : Char → Bool) : Sieve (Option Char) where
  start := none
  feed before text :=
    let cs := squeezed held before (text.toList.filterMap turn)
    (cs.getLast?.or before, String.ofList cs)
  piece := 8192

def tr : Program := fun _ s =>
  let o := Options.read
    { plain := "cCdst", front := true
      long := [("complement", 'c'), ("delete", 'd'), ("squeeze-repeats", 's'),
        ("truncate-set1", 't')] } s.arguments
  let complement := o.has 'c' || o.has 'C'
  let bytes := (List.range 256).map Char.ofNat
  let heldBy := fun (set : List Char) => if complement then bytes.filter fun c => !set.contains c
    else set
  let go := fun (turn : Char → Option Char) (held : Char → Bool) =>
    filter "tr" .plain (trSieve turn held) []
  let misuse_ := fun message => say "tr" (misuse "tr" message 1)
  let parts := fun (text : String) => setParts (text.length + 1) text.toList
  let none_ := fun (_ : Char) => false
  o.orElse "tr" 1
  (match o.operands with
  | [] => misuse_ "missing operand"
  | [first] =>
    if o.has 'd' && o.has 's' then misuse_ ("missing operand after " ++ inMarks first ++
      "\nTwo strings must be given when both deleting and squeezing repeats.")
    else
      match parts first with
      | .error message => say "tr" (complaint "tr" message 1)
      | .ok p =>
        let set := heldBy (setCharacters 0 p)
        if o.has 'd' then go (fun c => if set.contains c then none else some c) none_
        else if o.has 's' then go some set.contains
        else misuse_ ("missing operand after " ++ inMarks first ++
          "\nTwo strings must be given when translating.")
  | [first, second] =>
    match parts first, parts second with
    | .error message, _ => say "tr" (complaint "tr" message 1)
    | _, .error message => say "tr" (complaint "tr" message 1)
    | .ok p, .ok q =>
      let old := heldBy (setCharacters 0 p)
      let new := setCharacters old.length q
      if o.has 'd' && !o.has 's' then misuse_ ("extra operand " ++ inMarks second ++
        "\nOnly one string may be given when deleting without squeezing repeats.")
      else if o.has 'd' then
        go (fun c => if old.contains c then none else some c) new.contains
      else
        match replacementFault? p q (o.has 't') with
        | some message => say "tr" (complaint "tr" message 1)
        | none =>
          let old := if o.has 't' then old.take new.length else old
          go (fun c => some (replaced old new c)) (if o.has 's' then new.contains else none_)
  | _ :: _ :: extra :: _ => misuse_ ("extra operand " ++ inMarks extra))

inductive PlaceFault where
  | zero
  | decreasing
  | endless
  | invalid
  deriving DecidableEq

def placeRange (part : String) : Except PlaceFault (Nat × Option Nat) := do
  let number := fun (text : String) =>
    match Number.natural? text with
    | some 0 => Except.error PlaceFault.zero
    | some n => .ok n
    | none => .error .invalid
  match part.splitOn "-" with
  | [one] =>
    let n ← number one
    return (n, some n)
  | ["", ""] => .error .endless
  | ["", high] => return (1, some (← number high))
  | [low, ""] => return (← number low, none)
  | [low, high] =>
    let m ← number low
    let n ← number high
    if n < m then .error .decreasing else return (m, some n)
  | _ => .error .invalid

def placesOf (text : String) : Except PlaceFault (List (Nat × Option Nat)) :=
  ((text.splitToList fun c => c = ',' || c = ' ' || c = '\t').mapM placeRange)

def isChosen (places : List (Nat × Option Nat)) (place : Nat) : Bool :=
  places.any fun r => r.1 ≤ place && r.2.all (place ≤ ·)

def startsRange (places : List (Nat × Option Nat)) (place : Nat) : Bool :=
  !(places.any fun r => r.1 < place && r.2.all (place ≤ ·))

def chosen {α : Type} (places : Nat → Bool) (xs : List α) : List α :=
  (xs.zipIdx.filter fun x => places (x.2 + 1)).map (·.1)

def chosenCharacters (places : List (Nat × Option Nat)) (complement : Bool) (between : String)
    (l : String) : String :=
  let kept := l.toList.zipIdx.filter fun x => isChosen places (x.2 + 1) != complement
  String.join (kept.zipIdx.map fun ((c, i), k) =>
    (if k > 0 && startsRange places (i + 1) then between else "") ++ String.singleton c)

def chosenFields (places : Nat → Bool) (field between : String) (l : String) : String :=
  match l.splitOn field with
  | [_] => l
  | parts => between.intercalate (chosen places parts)

def PlaceFault.text (isField : Bool) (list : String) : PlaceFault → String
  | .zero => if isField then "fields are numbered from 1"
    else "byte/character positions are numbered from 1"
  | .decreasing => "invalid decreasing range"
  | .endless => "invalid range with no endpoint: -"
  | .invalid => (if isField then "invalid field value " else "invalid byte/character position ") ++
      inMarks list

def pieceSieve (mark : Char) (turn : String → Option String) : Sieve (Sieve.ByLine Unit) :=
  let close := String.singleton mark
  let swap := fun (text : String) =>
    if mark = '\n' then text
    else text.map fun c => if c = mark then '\n' else if c = '\n' then mark else c
  let inner := Sieve.byLine () (fun _ l _ => ((), ((turn (swap l)).map (· ++ close)).getD ""))
    (fun _ => "") fun _ => false
  { inner with feed := fun s text => inner.feed s (swap text) }

def cut : Program := fun _ s =>
  let complement := s.arguments.contains "--complement"
  let o := Options.read
    { plain := "snz", valued := "dfcbO"
      long := [("bytes", 'b'), ("characters", 'c'), ("delimiter", 'd'), ("fields", 'f'),
        ("only-delimited", 's'), ("zero-terminated", 'z'), ("output-delimiter", 'O')] }
    (s.arguments.filter (· ≠ "--complement"))
  let mark := if o.has 'z' then Char.ofNat 0 else '\n'
  let given := o.value? 'd'
  let field := match given with
    | some "" => String.singleton (Char.ofNat 0)
    | some field => field
    | none => "\t"
  let misuse_ := fun message => say "cut" (misuse "cut" message 1)
  let go := fun (turn : String → Option String) =>
    filter "cut" .plain (pieceSieve mark turn) o.operands
  o.orElse "cut" 1
  (match o.given.filter fun g => "fcb".contains g.1 with
  | [] => misuse_ "you must specify a list of bytes, characters, or fields"
  | [(letter, list)] =>
    let isField := letter = 'f'
    if given.any fun d => (Bytes.toText d).length > 1 then
      misuse_ "the delimiter must be a single character"
    else if !isField && given.isSome then
      misuse_ "an input delimiter may be specified only when operating on fields"
    else
      match placesOf list with
      | .error fault => misuse_ (fault.text isField list)
      | .ok places =>
        if isField then
          let between := (o.value? 'O').getD field
          go fun l =>
            if o.has 's' && !l.contains field then none
            else some (chosenFields (fun n => isChosen places n != complement) field between l)
        else go fun l => some (chosenCharacters places complement ((o.value? 'O').getD "") l)
  | _ => misuse_ "only one list may be specified")

def betweenMarks : List Char → List String
  | [] => []
  | '\\' :: '0' :: cs => "" :: betweenMarks cs
  | '\\' :: 'n' :: cs => "\n" :: betweenMarks cs
  | '\\' :: 't' :: cs => "\t" :: betweenMarks cs
  | '\\' :: c :: cs => String.singleton c :: betweenMarks cs
  | c :: cs => String.singleton c :: betweenMarks cs

def joinedBy (marks : List String) (texts : List String) : String :=
  match texts with
  | [] => ""
  | t :: ts => t ++ String.join (ts.zipIdx.map fun (t, i) =>
      (if marks = [] then "" else marks.getD (i % marks.length) "") ++ t)

def textsOf : List String → Task (Except (String × Refusal) (List String))
  | [] => return .ok []
  | file :: files => do
    match ← textOf file with
    | .error e => return .error (file, e)
    | .ok text => return (← textsOf files).map (text :: ·)

def paste : Program := fun _ s =>
  let o := Options.read
    { plain := "sz", valued := "d"
      long := [("delimiters", 'd'), ("serial", 's'), ("zero-terminated", 'z')] } s.arguments
  let marks := betweenMarks ((o.value? 'd').getD "\t").toList
  let files := if o.operands = [] then ["-"] else o.operands
  let close := if o.has 'z' then String.singleton (Char.ofNat 0) else "\n"
  o.orElse "paste" 1 do
    match ← textsOf (files.filter (· ≠ "-")), ← (if files.contains "-" then textOf "-"
        else pure (.ok "")) with
    | .error (file, e), _ => say "paste" (complaint "paste" (file ++ ": " ++ e.text) 1)
    | _, .error e => say "paste" (complaint "paste" ("-: " ++ e.text) 1)
    | .ok texts, .ok input =>
      let split := fun (text : String) =>
        let parts := text.splitOn close
        if parts.getLast? = some "" then parts.dropLast else parts
      let dashes := (files.filter (· = "-")).length
      let rows := split input
      let dealt := fun (k : Nat) =>
        (rows.zipIdx.filter fun r => r.2 % dashes = k).map (·.1)
      let columns := (files.foldl (fun (columns, texts, k) file =>
        if file = "-" then
          (columns ++ [if o.has 's' then if k = 0 then rows else [] else dealt k], texts, k + 1)
        else (columns ++ [split (texts.headD "")], texts.tail, k))
        (([] : List (List String)), texts, 0)).1
      let rows := if o.has 's' then columns.map (joinedBy marks)
        else (List.range ((columns.map List.length).foldl max 0)).map fun i =>
          joinedBy marks (columns.map fun column => column.getD i "")
      put "paste" (String.join (rows.map (· ++ close)))
      return 0

def columnBehind (bytes : Bool) (column : Nat) (c : Char) : Nat :=
  if bytes then column + 1
  else if c = '\t' then column / 8 * 8 + 8
  else if c = '\x08' then column - 1
  else if c = '\r' then 0
  else column + 1

/-- A line cut into pieces of a width, behind blanks if asked. The piece at
hand is kept in reverse. -/
def folded (width : Nat) (bytes blanks : Bool) :
    Nat → Nat → List Char → List Char → List (List Char)
  | 0, _, held, cs => [held.reverse ++ cs]
  | _, _, held, [] => [held.reverse]
  | n + 1, column, held, c :: cs =>
    let next := columnBehind bytes column c
    if next ≤ width || held = [] then folded width bytes blanks n next (c :: held) cs
    else
      let moved := held.takeWhile fun c => !(c = ' ' || c = '\t')
      let keeps := blanks && moved.length < held.length
      let front := if keeps then held.drop moved.length else held
      let back := if keeps then moved else []
      let column := back.reverse.foldl (columnBehind bytes) 0
      front.reverse :: folded width bytes blanks n column back (c :: cs)

def withWidth (letter : String) (words : List String) : List String :=
  words.map fun word =>
    match word.toList with
    | '-' :: c :: cs =>
      if (c :: cs).all Char.isDigit then "-" ++ letter ++ String.ofList (c :: cs) else word
    | _ => word

def fold : Program := fun _ s =>
  let o := Options.read
    { plain := "sb", valued := "w", long := [("bytes", 'b'), ("spaces", 's'), ("width", 'w')] }
    (withWidth "w" s.arguments)
  let given := (o.value? 'w').getD "80"
  o.orElse "fold" 1
  (match (Number.natural? given).filter (· > 0) with
  | none =>
    say "fold" (complaint "fold" ("invalid number of columns: " ++ inMarks given) 1)
  | some width =>
    filter "fold" .plain (Sieve.mapLines fun l =>
      "\n".intercalate ((folded width (o.has 'b') (o.has 's') (2 * l.length + 2) 0 []
        l.toList).map String.ofList)) o.operands)

def tabStop (stops : List Nat) (column : Nat) : Nat :=
  match stops with
  | [] => column / 8 * 8 + 8
  | [n] => if n = 0 then column + 1 else column / n * n + n
  | stops => (stops.find? (· > column)).getD (column + 1)

def expanded (stops : List Nat) (initial : Bool) (l : String) : String :=
  let step := fun (made, column, leading) (c : Char) =>
    if c = '\t' && (leading || !initial) then
      let stop := tabStop stops column
      (List.replicate (stop - column) ' ' ++ made, stop, leading)
    else (c :: made, if c = '\x08' then column - 1 else column + 1, leading && c = ' ')
  String.ofList (l.toList.foldl step (([] : List Char), 0, true)).1.reverse

/-- Blanks held back, and the text with tabs in their place where they reach a stop. -/
def unexpanded (stops : List Nat) (all : Bool) (l : String) : String :=
  let step := fun (made, held, column, leading) (c : Char) =>
    if (c = ' ' || c = '\t') && (leading || all) then
      let stop := tabStop stops column
      let column' := if c = '\t' then stop else column + 1
      if column' = stop && (held ≠ [] || c = '\t') then ('\t' :: made, [], column', leading)
      else (made, c :: held, column', leading)
    else (c :: held ++ made, [], column + 1, false)
  let (made, held, _, _) := l.toList.foldl step (([] : List Char), ([] : List Char), 0, true)
  String.ofList (held ++ made).reverse

def stopsOf (text : String) : List Nat :=
  (text.splitToList fun c => c = ',' || c = ' ').filterMap Number.natural?

def expand : Program := fun _ s =>
  let o := Options.read { plain := "i", valued := "t", long := [("initial", 'i'), ("tabs", 't')] }
    (withWidth "t" s.arguments)
  o.orElse "expand" 1 (filter "expand" .plain
    (Sieve.mapLines (expanded (stopsOf ((o.value? 't').getD "")) (o.has 'i'))) o.operands)

def unexpand : Program := fun _ s =>
  let o := Options.read
    { plain := "af", valued := "t", long := [("all", 'a'), ("first-only", 'f'), ("tabs", 't')] }
    (withWidth "t" s.arguments)
  let all := (o.has 'a' || o.has 't') && !o.has 'f'
  o.orElse "unexpand" 1 (filter "unexpand" .plain
    (Sieve.mapLines (unexpanded (stopsOf ((o.value? 't').getD "")) all)) o.operands)

def lineNumberText (style : String) (width : Nat) (n : Int) : String :=
  let text := toString n
  let gap := width - text.length
  if style = "ln" then text ++ String.ofList (List.replicate gap ' ')
  else if style = "rz" then
    (if n < 0 then "-" else "") ++ String.ofList (List.replicate gap '0') ++ toString n.natAbs
  else String.ofList (List.replicate gap ' ') ++ text

def nl : Program := fun _ s =>
  let o := Options.read
    { plain := "p", valued := "bdfhilnsvw"
      long := [("body-numbering", 'b'), ("number-format", 'n'), ("number-separator", 's'),
        ("starting-line-number", 'v'), ("line-increment", 'i'), ("number-width", 'w'),
        ("join-blank-lines", 'l'), ("no-renumber", 'p'), ("header-numbering", 'h'),
        ("footer-numbering", 'f'), ("section-delimiter", 'd')] } s.arguments
  let number := fun (c : Char) (fallback : Int) =>
    ((o.value? c).bind Number.decimal?).getD fallback
  let body := (o.value? 'b').getD "t"
  let separator := (o.value? 's').getD "\t"
  let width := (number 'w' 6).toNat
  let start := number 'v' 1
  let counts := fun (style l : String) =>
    style = "a" || (style = "t" && l ≠ "") || (style.startsWith "p" &&
      (Regular.ofText? false (style.drop 1).toString).any fun r =>
        (Regular.find id r ((Bytes.text? l).getD l)).isSome)
  let styleOf := fun (section_ : Char) =>
    if section_ = 'h' then (o.value? 'h').getD "n"
    else if section_ = 'f' then (o.value? 'f').getD "n" else body
  let line := fun (st : Int × Char) (l : String) (_ : Bool) =>
    if l = "\\:\\:\\:" then ((if o.has 'p' then st.1 else start, 'h'), "\n")
    else if l = "\\:\\:" then ((if o.has 'p' then st.1 else start, 'b'), "\n")
    else if l = "\\:" then ((if o.has 'p' then st.1 else start, 'f'), "\n")
    else if counts (styleOf st.2) l then
      ((st.1 + number 'i' 1, st.2),
        lineNumberText ((o.value? 'n').getD "rn") width st.1 ++ separator ++ l ++ "\n")
    else (st, String.ofList (List.replicate (width + separator.length) ' ') ++ l ++ "\n")
  o.orElse "nl" 1 (filter "nl" .plain
    (Sieve.byLine (start, 'b') line (fun _ => "") fun _ => false) o.operands)

end WindowsListing.Unix.Utility
