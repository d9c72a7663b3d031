import WindowsListing.Unix.Fraction
import WindowsListing.Unix.Utility.Copy

/-!
# Order

The programs that sort lines, and those that take the order of lines for
granted.
-/

set_option autoImplicit false

namespace WindowsListing.Unix.Utility
open Program

structure KeyPlace where
  fields : Nat := 0
  characters : Nat := 0
  skipsBlanks : Bool := false

structure Key where
  first : KeyPlace := {}
  last : Option KeyPlace := none
  letters : List Char := []

namespace Key

def isBlank (c : Char) : Bool := c = ' ' || c = '\t' || c = '\n'

def behindFields (mark : Option Char) (keepsLast : Bool) : Nat → List Char → List Char
  | 0, cs => cs
  | n + 1, cs =>
    match mark with
    | some m =>
      let rest := cs.dropWhile (· ≠ m)
      behindFields mark keepsLast n (if n = 0 && keepsLast then rest else rest.drop 1)
    | none =>
      behindFields mark keepsLast n ((cs.dropWhile isBlank).dropWhile fun c => !isBlank c)

def begins (mark : Option Char) (p : KeyPlace) (cs : List Char) : List Char :=
  let rest := behindFields mark false p.fields cs
  let rest := if p.skipsBlanks then rest.dropWhile isBlank else rest
  rest.drop p.characters

def ends (mark : Option Char) (p : KeyPlace) (cs : List Char) : List Char :=
  if p.characters = 0 then behindFields mark true (p.fields + 1) cs
  else
    let rest := behindFields mark false p.fields cs
    let rest := if p.skipsBlanks then rest.dropWhile isBlank else rest
    rest.drop p.characters

def part (mark : Option Char) (k : Key) (l : String) : List Char :=
  let cs := l.toList
  let rest := begins mark k.first cs
  match k.last with
  | none => rest
  | some p => rest.take (rest.length - (ends mark p cs).length)

def number? (cs : List Char) : Option (Nat × List Char) :=
  let digits := cs.takeWhile Char.isDigit
  (Number.value? 10 digits).map fun n => (n, cs.drop digits.length)

def optionLetters : List Char := "bdfghiMnRrV".toList

def place? (cs : List Char) : Except String (Nat × Nat × List Char × List Char) := do
  match number? cs with
  | none => .error "invalid number at field start"
  | some (field, rest) =>
    let (character, rest) ← match rest with
      | '.' :: rest =>
        match number? rest with
        | some (n, rest) => pure (n, rest)
        | none => .error "invalid number after '.'"
      | rest => pure (0, rest)
    let letters := rest.takeWhile optionLetters.contains
    return (field, character, letters, rest.drop letters.length)

def ofText (text : String) : Except String Key := do
  let (field, character, letters, rest) ← place? text.toList
  if field = 0 then .error "field number is zero"
  let first : KeyPlace := { fields := field - 1, characters := character - 1 }
  match rest with
  | [] =>
    return { first := { first with skipsBlanks := letters.contains 'b' }, letters }
  | ',' :: rest =>
    let (field, character, more, rest) ← place? rest
    if field = 0 then .error "field number is zero"
    if rest ≠ [] then .error "stray character in field spec"
    return {
      first := { first with skipsBlanks := letters.contains 'b' }
      last := some { fields := field - 1, characters := character
                     skipsBlanks := more.contains 'b' }
      letters := letters ++ more }
  | _ => .error "stray character in field spec"

/-- The number in front of a text: its value in units of its last place. -/
def leading (cs : List Char) : Int × Nat × List Char :=
  let cs := cs.dropWhile isBlank
  let (negative, cs) := match cs with
    | '-' :: cs => (true, cs)
    | cs => (false, cs)
  let whole := cs.takeWhile Char.isDigit
  let rest := cs.drop whole.length
  let (places, rest) := match rest with
    | '.' :: rest => (rest.takeWhile Char.isDigit, rest.dropWhile Char.isDigit)
    | rest => ([], rest)
  let value : Int := ((Number.value? 10 (whole ++ places)).getD 0 : Nat)
  (if negative then -value else value, places.length, rest)

def compareNumbers (a b : List Char) : Ordering :=
  let (m, i, _) := leading a
  let (n, j, _) := leading b
  compare (m * Nat.pow 10 j) (n * Nat.pow 10 i)

def unitRank (cs : List Char) : Nat :=
  match cs.head? with
  | some 'k' => 1
  | some c => (("KMGTPEZYRQ".toList.idxOf? c).map (· + 1)).getD 0
  | none => 0

def compareUnits (a b : List Char) : Ordering :=
  let (m, _, restA) := leading a
  let (n, _, restB) := leading b
  let sign := fun (x : Int) => if x < 0 then -1 else if x = 0 then 0 else (1 : Int)
  let rank := fun (x : Int) (rest : List Char) => sign x * (unitRank rest : Int)
  (compare (sign m) (sign n)).then
    ((compare (rank m restA) (rank n restB)).then (compareNumbers a b))

def months : List String :=
  ["JAN", "FEB", "MAR", "APR", "MAY", "JUN", "JUL", "AUG", "SEP", "OCT", "NOV", "DEC"]

def month (cs : List Char) : Nat :=
  let name := String.ofList (((cs.dropWhile isBlank).take 3).map Char.toUpper)
  ((months.idxOf? name).map (· + 1)).getD 0

/-- Fractions of any notation. A text that is no number comes first. -/
def compareFractions (a b : List Char) : Ordering :=
  let value := fun (cs : List Char) => (Fraction.ahead? cs).map fun (negative, f, _) =>
    ((if negative then -1 else 1 : Int) * f.numerator, f.denominator)
  match value a, value b with
  | none, none => .eq
  | none, some _ => .lt
  | some _, none => .gt
  | some (m, i), some (n, j) => compare (m * j) (n * i)

def versionRank : Option Char → Int
  | none => 0
  | some '~' => -1
  | some c => if c.isDigit then 0 else if c.isAlpha then c.toNat else c.toNat + 256

def compareVersions : Nat → List Char → List Char → Ordering
  | 0, _, _ => .eq
  | n + 1, a, b =>
    match a, b with
    | [], [] => .eq
    | a, b =>
      let isPlain := fun (cs : List Char) => cs.head?.any fun c => !c.isDigit
      if isPlain a || isPlain b then
        let word := fun (cs : List Char) => cs.head?.filter fun c => !c.isDigit
        match compare (versionRank (word a)) (versionRank (word b)) with
        | .eq => compareVersions n (a.drop 1) (b.drop 1)
        | o => o
      else
        let digits := fun (cs : List Char) => cs.takeWhile Char.isDigit
        let value := fun (cs : List Char) => (Number.value? 10 (digits cs)).getD 0
        match compare (value a) (value b) with
        | .eq => compareVersions n (a.drop (digits a).length) (b.drop (digits b).length)
        | o => o

def compareTexts (a b : List Char) : Ordering := compare (String.ofList a) (String.ofList b)

def order (letters : List Char) (a b : List Char) : Ordering :=
  let has := letters.contains
  let kept := fun (cs : List Char) =>
    let cs := if has 'd' then cs.filter fun c => c.isAlphanum || isBlank c else cs
    let cs := if has 'i' then cs.filter fun c => 32 ≤ c.toNat && c.toNat ≤ 126 else cs
    if has 'f' then cs.map Char.toUpper else cs
  let o :=
    if has 'n' then compareNumbers a b
    else if has 'h' then compareUnits a b
    else if has 'g' then compareFractions a b
    else if has 'M' then compare (month a) (month b)
    else if has 'V' then
      (compareVersions (a.length + b.length + 2) a b).then (compareTexts a b)
    else compareTexts (kept a) (kept b)
  if has 'r' then o.swap else o

end Key

structure Sorting where
  keys : List Key
  mark : Option Char
  reversed : Bool
  stable : Bool
  unique : Bool

namespace Sorting

def byKeys (s : Sorting) (a b : String) : Ordering :=
  s.keys.foldl (fun o k => o.then (k.letters |> fun letters =>
    Key.order letters (k.part s.mark a) (k.part s.mark b))) .eq

/-- Lines that are equal by their keys come in the order of the lines themselves. -/
def order (s : Sorting) (a b : String) : Ordering :=
  let o := s.byKeys a b
  if s.stable || s.unique then o
  else o.then (if s.reversed then (compare a b).swap else compare a b)

def isBefore (s : Sorting) (a b : String) : Bool := s.order a b ≠ .gt

def distinct (s : Sorting) : List String → List String
  | a :: b :: ls =>
    if s.byKeys a b = .eq then distinct s (a :: ls) else a :: distinct s (b :: ls)
  | ls => ls
termination_by ls => ls.length

def sorted (s : Sorting) (ls : List String) : List String :=
  let ls := ls.mergeSort s.isBefore
  if s.unique then s.distinct ls else ls

def disorder? (s : Sorting) : Nat → List String → Option (Nat × String)
  | n, a :: b :: ls =>
    if s.order a b = .gt || (s.unique && s.order a b = .eq) then some (n + 1, b)
    else disorder? s (n + 1) (b :: ls)
  | _, _ => none

end Sorting

def sortOptions : Options.Known :=
  { plain := "bdfghiMnRrVcCmsuz", valued := "kotST"
    long := [("ignore-leading-blanks", 'b'), ("dictionary-order", 'd'), ("ignore-case", 'f'),
      ("general-numeric-sort", 'g'), ("human-numeric-sort", 'h'), ("ignore-nonprinting", 'i'),
      ("month-sort", 'M'), ("numeric-sort", 'n'), ("reverse", 'r'), ("version-sort", 'V'),
      ("check", 'c'), ("merge", 'm'), ("stable", 's'), ("unique", 'u'), ("zero-terminated", 'z'),
      ("key", 'k'), ("output", 'o'), ("field-separator", 't'), ("buffer-size", 'S'),
      ("temporary-directory", 'T')] }

/-- The sorting that options ask for. Keys without letters have those of all. -/
def sortingOf (o : Options) : Except String Sorting := do
  let letters := Key.optionLetters.filter o.has
  let keys ← (o.values 'k').mapM fun text =>
    match Key.ofText text with
    | .ok k => .ok (if k.letters = [] then { k with
        letters, first := { k.first with skipsBlanks := o.has 'b' }
        last := k.last.map fun p => { p with skipsBlanks := o.has 'b' } } else k)
    | .error e => .error (e ++ ": invalid field specification " ++ inMarks text)
  let mark ← match o.value? 't' with
    | none => pure none
    | some "" => .error "empty tab"
    | some "\\0" => pure (some (Char.ofNat 0))
    | some mark =>
      if mark.length > 1 then .error ("multi-character tab " ++ inMarks mark)
      else pure mark.toList.head?
  let whole : Key := { first := { skipsBlanks := o.has 'b' }, letters }
  return {
    keys := if keys.isEmpty then [whole] else keys
    mark, reversed := o.has 'r', stable := o.has 's', unique := o.has 'u' }

def allTexts : List String → Task (Except (String × Refusal) (List String))
  | [] => return .ok []
  | file :: files => do
    match ← textOf file with
    | .error e => return .error (file, e)
    | .ok text => return (← allTexts files).map (text :: ·)

def redirectTo (name file : String) : Task (Option Nat) := do
  match ← Task.openAs file .output with
  | .ok n => do
    let _ ← Task.duplicate n 1
    Task.close n
    return none
  | .error e =>
    return some (← say name (complaint name ("open failed: " ++ file ++ ": " ++ e.text) 2))

def sort : Program := fun _ s =>
  let o := Options.read sortOptions s.arguments
  o.orElse "sort" 2
  (match sortingOf o with
  | .error message => say "sort" (complaint "sort" message 2)
  | .ok sorting => do
    match ← allTexts (if o.operands = [] then ["-"] else o.operands) with
    | .error (file, e) =>
      say "sort" (complaint "sort" ("cannot read: " ++ file ++ ": " ++ e.text) 2)
    | .ok texts => do
      let mark := if o.has 'z' then String.singleton (Char.ofNat 0) else "\n"
      let ls := texts.flatMap fun text =>
        let parts := text.splitOn mark
        if parts.getLast? = some "" then parts.dropLast else parts
      if o.has 'c' || o.has 'C' then
        match sorting.disorder? 1 ls with
        | none => return 0
        | some (n, l) =>
          if o.has 'C' then return 1
          else say "sort" (complaint "sort" (o.operands.headD "-" ++ ":" ++ toString n ++
            ": disorder: " ++ l) 1)
      else
        let text := String.join ((sorting.sorted ls).map (· ++ mark))
        match o.value? 'o' with
        | none => do
          put "sort" text
          return 0
        | some file => do
          match ← redirectTo "sort" file with
          | some status => return status
          | none => do
            put "sort" text
            return 0)

structure Sameness where
  fields : Nat
  characters : Nat
  width : Option Nat
  folds : Bool

def Sameness.part (s : Sameness) (l : String) : String :=
  let cs := (Key.behindFields none false s.fields l.toList).drop s.characters
  let cs := match s.width with
    | some n => cs.take n
    | none => cs
  String.ofList (if s.folds then cs.map Char.toUpper else cs)

structure Repeats where
  first : Option String := none
  count : Nat := 0
  all : List String := []

def Repeats.shown (o : Options) (r : Repeats) : String :=
  match r.first with
  | none => ""
  | some l =>
    if o.has 'D' then if r.count > 1 then unlines r.all.reverse else ""
    else if (o.has 'd' && r.count < 2) || (o.has 'u' && r.count > 1) then ""
    else (if o.has 'c' then rightAligned 7 (toString r.count) ++ " " else "") ++ l ++ "\n"

def repeatsSieve (o : Options) (same : Sameness) : Sieve (Sieve.ByLine Repeats) :=
  Sieve.byLine {} (fun r l _ =>
    match r.first with
    | none => ({ first := some l, count := 1, all := [l] }, "")
    | some m =>
      if same.part l = same.part m then
        ({ r with count := r.count + 1, all := if o.has 'D' then l :: r.all else [] }, "")
      else ({ first := some l, count := 1, all := [l] }, r.shown o))
    (Repeats.shown o) fun _ => false

def marked {σ : Type} (mark : Char) (v : Sieve σ) : Sieve σ :=
  if mark = '\n' then v
  else
    let swap := fun (text : String) =>
      text.map fun c => if c = mark then '\n' else if c = '\n' then mark else c
    { v with
      feed := fun s text =>
        let (s, made) := v.feed s (swap text)
        (s, swap made)
      finish := fun s => swap (v.finish s) }

def uniq : Program := fun _ s =>
  let o := Options.read
    { plain := "cdDuiz", valued := "fsw"
      long := [("count", 'c'), ("repeated", 'd'), ("unique", 'u'), ("ignore-case", 'i'),
        ("skip-fields", 'f'), ("skip-chars", 's'), ("check-chars", 'w'),
        ("zero-terminated", 'z')] } s.arguments
  let number := fun c => (o.value? c).bind Number.natural?
  let same : Sameness :=
    { fields := (number 'f').getD 0, characters := (number 's').getD 0, width := number 'w'
      folds := o.has 'i' }
  let mark := if o.has 'z' then Char.ofNat 0 else '\n'
  let go := filter "uniq" .plain (marked mark (repeatsSieve o same)) (o.operands.take 1)
  o.orElse "uniq" 1
  (match o.operands with
  | _ :: _ :: extra :: _ => say "uniq" (misuse "uniq" ("extra operand " ++ inMarks extra) 1)
  | [_, "-"] => go
  | [_, file] => do
    match ← Task.openAs file .output with
    | .ok n => do
      let _ ← Task.duplicate n 1
      Task.close n
      go
    | .error e => say "uniq" (complaint "uniq" (file ++ ": " ++ e.text) 1)
  | _ => go)

/-- The rows of two sorted lists side by side, each with what it is in. -/
def merged : List String → List String → List (Char × String)
  | [], ms => ms.map fun m => ('2', m)
  | ls, [] => ls.map fun l => ('1', l)
  | l :: ls, m :: ms =>
    match compare l m with
    | .lt => ('1', l) :: merged ls (m :: ms)
    | .gt => ('2', m) :: merged (l :: ls) ms
    | .eq => ('3', l) :: merged ls ms
termination_by ls ms => ls.length + ms.length

def isSorted : List String → Bool
  | a :: b :: ls => a ≤ b && isSorted (b :: ls)
  | _ => true

def twoOperands (name : String) (o : Options) (go : String → String → Task Nat) : Task Nat :=
  match o.operands with
  | [a, b] => go a b
  | [] => say name (misuse name "missing operand" 1)
  | [file] => say name (misuse name ("missing operand after " ++ inMarks file) 1)
  | _ => say name (misuse name ("extra operand " ++ inMarks (o.operands.getD 2 "")) 1)

def comm : Program := fun _ s =>
  let checks := !s.arguments.contains "--nocheck-order"
  let o := Options.read
    { plain := "123z", valued := "O"
      long := [("output-delimiter", 'O'), ("zero-terminated", 'z')] }
    (s.arguments.filter fun w => w ≠ "--nocheck-order" && w ≠ "--check-order")
  o.orElse "comm" 1 <| twoOperands "comm" o fun a b => do
    match ← allTexts [a, b] with
    | .error (file, e) => say "comm" (complaint "comm" (file ++ ": " ++ e.text) 1)
    | .ok texts =>
      let la := lines (texts.getD 0 "")
      let lb := lines (texts.getD 1 "")
      let between := (o.value? 'O').getD "\t"
      let column := fun (c : Char) =>
        String.join (("123".toList.takeWhile (· ≠ c)).map fun d => if o.has d then "" else between)
      let rows := merged la lb
      put "comm" (unlines ((rows.filter fun r => !o.has r.1).map fun r => column r.1 ++ r.2))
      let paired := rows.all (·.1 = '3')
      if checks && !paired && !(isSorted la && isSorted lb) then
        say "comm" (complaint "comm" "input is not in sorted order" 1)
      else return 0

def joinFields (mark : Option String) (l : String) : List String :=
  match mark with
  | some m => l.splitOn m
  | none => (l.splitToList Key.isBlank).filter (· ≠ "")

structure Joining where
  mark : Option String
  places : Nat × Nat
  empty : String
  /-- The fields to be shown, each by its file and its place. No file means the key. -/
  shown : List (Nat × Nat)

namespace Joining

def key (j : Joining) (second : Bool) (l : String) : String :=
  (joinFields j.mark l).getD ((if second then j.places.2 else j.places.1) - 1) ""

def row (j : Joining) (key : String) (first second : Option String) : String :=
  let fieldsOf := fun (l? : Option String) => (l?.map (joinFields j.mark)).getD []
  let others := fun (l? : Option String) (place : Nat) =>
    ((fieldsOf l?).zipIdx.filter fun f => f.2 + 1 ≠ place).map (·.1)
  let cell := fun (text? : Option String) =>
    match text? with
    | some "" => j.empty
    | some text => text
    | none => j.empty
  let cells := if j.shown = [] then
      key :: others first j.places.1 ++ others second j.places.2
    else j.shown.map fun (file, place) =>
      if file = 0 then key
      else cell ((fieldsOf (if file = 1 then first else second))[place - 1]?)
  (j.mark.getD " ").intercalate cells

/-- The rows of two sorted lists with equal keys, and of those that are alone if asked. -/
def rows (j : Joining) (alone : Char → Bool) (pairs : Bool) :
    Nat → List String → List String → List String
  | 0, _, _ => []
  | _, [], ms => if alone '2' then ms.map fun m => j.row (j.key true m) none (some m) else []
  | _, ls, [] => if alone '1' then ls.map fun l => j.row (j.key false l) (some l) none else []
  | n + 1, l :: ls, m :: ms =>
    let (a, b) := (j.key false l, j.key true m)
    match compare a b with
    | .lt => (if alone '1' then [j.row a (some l) none] else []) ++
        rows j alone pairs n ls (m :: ms)
    | .gt => (if alone '2' then [j.row b none (some m)] else []) ++
        rows j alone pairs n (l :: ls) ms
    | .eq =>
      let sameA := (l :: ls).takeWhile fun l => j.key false l = a
      let sameB := (m :: ms).takeWhile fun m => j.key true m = a
      (if pairs then sameA.flatMap fun l => sameB.map fun m => j.row a (some l) (some m)
        else []) ++
        rows j alone pairs n ((l :: ls).drop sameA.length) ((m :: ms).drop sameB.length)

end Joining

def join : Program := fun _ s =>
  let o := Options.read { plain := "iz", valued := "12javeot" } s.arguments
  let place := fun c => ((o.value? c).or (o.value? 'j')).bind Number.natural? |>.getD 1
  let shown := ((o.values 'o').flatMap fun text =>
    (text.splitToList fun c => c = ',' || c = ' ').filterMap fun word =>
      match word.splitOn "." with
      | ["0"] => some (0, 0)
      | [file, n] => (Number.natural? file).bind fun f => (Number.natural? n).map fun n => (f, n)
      | _ => none)
  let j : Joining :=
    { mark := o.value? 't', places := (place '1', place '2'), empty := (o.value? 'e').getD ""
      shown }
  let alone := fun (c : Char) =>
    (o.values 'a' ++ o.values 'v').contains (String.singleton c)
  o.orElse "join" 1 <| twoOperands "join" o fun a b => do
    match ← allTexts [a, b] with
    | .error (file, e) => say "join" (complaint "join" (file ++ ": " ++ e.text) 1)
    | .ok texts =>
      let la := lines (texts.getD 0 "")
      let lb := lines (texts.getD 1 "")
      put "join" (unlines (j.rows alone (!o.has 'v') (la.length + lb.length + 2) la lb))
      return 0

end WindowsListing.Unix.Utility
