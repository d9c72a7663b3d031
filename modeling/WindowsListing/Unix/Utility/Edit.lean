import WindowsListing.Unix.Regular
import WindowsListing.Unix.Utility.Search

/-!
# Scripts of edits

A script of edits is a list of instructions, each with the lines that it is
for. Here it is read.
-/

set_option autoImplicit false

namespace WindowsListing.Unix.Utility

structure Sought where
  expression : Option Regular
  folded : Bool := false
  deriving DecidableEq

namespace Edit

inductive Address where
  | line (n : Nat)
  | every (first step : Nat)
  | last
  | like (s : Sought)
  deriving DecidableEq

inductive Limit where
  | address (a : Address)
  | more (n : Nat)
  | multiple (n : Nat)
  deriving DecidableEq

/-- What a replacement is made of. The letters of casing are those that ask
for capitals or small letters from there on, or for the next character. -/
inductive Piece where
  | text (c : Char)
  | group (n : Nat)
  | casing (c : Char)
  deriving DecidableEq

structure Substitution where
  sought : Sought
  replacement : List Piece
  nth : Nat := 1
  all : Bool := false
  prints : Nat := 0
  file? : Option String := none

inductive Deed where
  | print
  | printFirst
  | delete
  | deleteFirst
  | quit (silent : Bool) (status : Nat)
  | number
  | spell
  | next
  | join
  | keep (append : Bool)
  | recall (append : Bool)
  | swap
  | clear
  | turn (table : List (Char × Char))
  | substitute (s : Substitution)
  | add (text : String)
  | insert (text : String)
  | change (text : String)
  | addFile (name : String)
  | save (name : String)
  | label (name : String)
  | enter
  | leave
  | jump (name : String) (condition : Option Bool)

end Edit

/-- An instruction of a script. A range that starts at line zero is open from the start. -/
structure Edit where
  first : Option Edit.Address := none
  second : Option Edit.Limit := none
  fromZero : Bool := false
  negated : Bool := false
  deed : Edit.Deed

namespace Edit

structure Fault where
  text : String
  left : Nat
  atStart : Bool := false

abbrev Reading (α : Type) := Except Fault (α × List Char)

def blame {α : Type} (text : String) (cs : List Char) : Except Fault α :=
  .error { text, left := cs.length }

def marked (name : String) : String := String.singleton (Char.ofNat 96) ++ name ++ "'"

/-- The text up to a mark, and what follows it. A backslash before the mark
gives the mark itself; other backslashes stay. -/
def upTo? (mark : Char) (isPattern : Bool) : List Char → Option (List Char × List Char)
  | [] => none
  | '\n' :: _ => none
  | ['\\'] => none
  | '\\' :: c :: cs =>
    (upTo? mark isPattern cs).map fun r =>
      let kept :=
        if c = mark && !(c = '&' && !isPattern) then [c]
        else if c = '\n' && isPattern then [c]
        else ['\\', c]
      (kept ++ r.1, r.2)
  | c :: cs => if c = mark then some ([], cs) else
    (upTo? mark isPattern cs).map fun r => (c :: r.1, r.2)

def skipBlanks (cs : List Char) : List Char := cs.dropWhile fun c => c = ' ' || c = '\t'

def sought (extended folded : Bool) (pattern cs : List Char) : Except Fault Sought :=
  if pattern = [] then .ok { expression := none, folded }
  else if extended && pattern.head?.any ("*+?".contains ·) then
    blame "Invalid preceding regular expression" cs
  else
    match Regular.ofText? extended (String.ofList pattern) with
    | some r => .ok { expression := some r, folded }
    | none => blame "Invalid regular expression" cs

def natural (cs : List Char) : Nat × List Char :=
  let digits := cs.takeWhile Char.isDigit
  ((Number.value? 10 digits).getD 0, cs.drop digits.length)

def pattern (extended : Bool) (mark : Char) (cs : List Char) :
    Except Fault (Address × List Char) := do
  match upTo? mark true cs with
  | none => blame "unterminated address regex" []
  | some (pattern, rest) =>
    let folded := rest.head? = some 'I'
    let rest := rest.dropWhile fun c => c = 'I' || c = 'M'
    return (.like (← sought extended folded pattern rest), rest)

def address (extended : Bool) : List Char → Reading (Option Address)
  | '$' :: cs => .ok (some .last, cs)
  | '/' :: cs => (pattern extended '/' cs).map fun r => (some r.1, r.2)
  | ['\\'] => blame "unterminated address regex" []
  | '\\' :: mark :: cs => (pattern extended mark cs).map fun r => (some r.1, r.2)
  | cs =>
    if cs.head?.any Char.isDigit then
      let (n, rest) := natural cs
      match skipBlanks rest with
      | '~' :: rest =>
        let (step, rest) := natural (skipBlanks rest)
        .ok (some (if step = 0 then .line n else .every n step), rest)
      | _ => .ok (some (.line n), rest)
    else .ok (none, cs)

def limit (extended : Bool) (cs : List Char) : Except Fault (Limit × List Char) := do
  match cs with
  | '+' :: rest => let (n, rest) := natural rest; return (.more n, rest)
  | '~' :: rest => let (n, rest) := natural rest; return (.multiple n, rest)
  | cs =>
    match ← address extended cs with
    | (some a, rest) => return (.address a, rest)
    | (none, _) => blame ("unexpected " ++ marked ",") cs

def pieces : List Char → List Piece
  | [] => []
  | '&' :: cs => .group 0 :: pieces cs
  | '\\' :: c :: cs =>
    (if c.isDigit then .group (c.toNat - '0'.toNat)
     else if "ULulE".contains c then .casing c
     else .text (escaped c)) :: pieces cs
  | c :: cs => .text c :: pieces cs
where
  escaped : Char → Char
    | 'n' => '\n'
    | 't' => '\t'
    | 'r' => '\r'
    | 'a' => Char.ofNat 7
    | 'f' => Char.ofNat 12
    | 'v' => Char.ofNat 11
    | c => c

def fileName (cs : List Char) : Reading String :=
  let name := (skipBlanks cs).takeWhile (· ≠ '\n')
  if name = [] then blame "missing filename in r/R/w/W commands" cs
  else .ok (String.ofList name, (skipBlanks cs).drop name.length)

def flags : Nat → Substitution → Bool → List Char → Reading (Substitution × Bool)
  | 0, _, _, cs => blame ("unknown option to " ++ marked "s") cs
  | n + 1, s, folded, cs =>
    match cs with
    | 'g' :: rest => flags n { s with all := true } folded rest
    | 'p' :: rest => flags n { s with prints := s.prints + 1 } folded rest
    | 'i' :: rest => flags n s true rest
    | 'I' :: rest => flags n s true rest
    | 'm' :: rest => flags n s folded rest
    | 'M' :: rest => flags n s folded rest
    | 'w' :: rest => (fileName rest).map fun (name, rest) =>
        (({ s with file? := some name }, folded), rest)
    | c :: rest =>
      if c.isDigit then
        let (nth, rest) := natural (c :: rest)
        if nth = 0 then blame ("number option to " ++ marked "s" ++ " command may not be zero") rest
        else flags n { s with nth } folded rest
      else if c = '\n' || c = ';' || c = '}' || c = '#' || c = ' ' || c = '\t' then
        .ok ((s, folded), c :: rest)
      else blame ("unknown option to " ++ marked "s") rest
    | [] => .ok ((s, folded), [])

def groupsOf : Regular → Nat
  | .group n r => max n (groupsOf r)
  | .both r s => max (groupsOf r) (groupsOf s)
  | .either r s => max (groupsOf r) (groupsOf s)
  | .repeated r _ _ => groupsOf r
  | _ => 0

def substitution (extended : Bool) (cs : List Char) : Except Fault (Deed × List Char) := do
  let unterminated : Reading (List Char) :=
    blame ("unterminated " ++ marked "s" ++ " command") []
  let mark :: rest := cs | blame ("unterminated " ++ marked "s" ++ " command") []
  let (pattern, rest) ← (upTo? mark true rest).elim unterminated .ok
  let (replacement, rest) ← (upTo? mark false rest).elim unterminated .ok
  let ((s, folded), rest) ← flags (rest.length + 1)
    { sought := { expression := none }, replacement := pieces replacement } false rest
  let sought ← sought extended folded pattern rest
  let most := s.replacement.foldl (fun n p => match p with
    | .group k => max n k
    | _ => n) 0
  if sought.expression.any fun r => groupsOf r < most then
    blame ("invalid reference \\" ++ toString most ++ " on " ++ marked "s" ++ " command's RHS") rest
  else return (.substitute { s with sought }, rest)

def addition (cs : List Char) : Reading String :=
  match skipBlanks cs with
  | [] => blame "expected \\ after a, c or i" []
  | '\\' :: rest =>
    match skipBlanks rest with
    | '\n' :: rest => .ok (body rest)
    | _ => .ok (body rest)
  | cs => .ok (body cs)
where
  body (cs : List Char) : String × List Char :=
    let (text, rest) := lines cs
    (String.ofList text, rest)
  lines : List Char → List Char × List Char
    | [] => (['\n'], [])
    | '\n' :: cs => (['\n'], cs)
    | '\\' :: c :: cs => let r := lines cs; (c :: r.1, r.2)
    | c :: cs => let r := lines cs; (c :: r.1, r.2)

def labelName (cs : List Char) : String × List Char :=
  let cs := skipBlanks cs
  let name := cs.takeWhile fun c => !Number.isBlank c && c ≠ ';'
  (String.ofList name, cs.drop name.length)

def table (cs : List Char) : Except Fault (Deed × List Char) := do
  let unterminated : Reading (List Char) :=
    blame ("unterminated " ++ marked "y" ++ " command") []
  let mark :: rest := cs | blame ("unterminated " ++ marked "y" ++ " command") []
  let (old, rest) ← (upTo? mark true rest).elim unterminated .ok
  let (new, rest) ← (upTo? mark true rest).elim unterminated .ok
  let old := plain old
  let new := plain new
  if old.length = new.length then return (.turn (old.zip new), rest)
  else blame ("strings for " ++ marked "y" ++ " command are different lengths") rest
where
  plain : List Char → List Char
    | '\\' :: 'n' :: cs => '\n' :: plain cs
    | '\\' :: 't' :: cs => '\t' :: plain cs
    | '\\' :: '\\' :: cs => '\\' :: plain cs
    | c :: cs => c :: plain cs
    | [] => []

/-- An instruction behind its addresses. The flag says that nothing else may
follow in its line. -/
def readDeed (extended : Bool) : List Char → Reading (Deed × Bool)
  | 's' :: cs => closed (substitution extended cs)
  | 'y' :: cs => closed (table cs)
  | 'a' :: cs => opened ((addition cs).map fun r => (.add r.1, r.2))
  | 'i' :: cs => opened ((addition cs).map fun r => (.insert r.1, r.2))
  | 'c' :: cs => opened ((addition cs).map fun r => (.change r.1, r.2))
  | 'r' :: cs => opened ((fileName cs).map fun r => (.addFile r.1, r.2))
  | 'w' :: cs => opened ((fileName cs).map fun r => (.save r.1, r.2))
  | ':' :: cs =>
    let (name, rest) := labelName cs
    if name = "" then blame "\":\" lacks a label" cs else opened (.ok (.label name, rest))
  | 'b' :: cs => opened (let r := target cs; .ok (.jump r.1 none, r.2))
  | 't' :: cs => opened (let r := target cs; .ok (.jump r.1 (some true), r.2))
  | 'T' :: cs => opened (let r := target cs; .ok (.jump r.1 (some false), r.2))
  | 'q' :: cs => closed (let r := natural (skipBlanks cs); .ok (.quit false r.1, r.2))
  | 'Q' :: cs => closed (let r := natural (skipBlanks cs); .ok (.quit true r.1, r.2))
  | 'l' :: cs => closed (let r := natural (skipBlanks cs); .ok (.spell, r.2))
  | '\x7b' :: cs => opened (.ok (.enter, cs))
  | '}' :: cs => closed (.ok (.leave, cs))
  | c :: cs =>
    match simple.lookup c with
    | some a => closed (.ok (a, cs))
    | none => blame ("unknown command: " ++ marked (String.singleton c)) cs
  | [] => blame "missing command" []
where
  closed (r : Reading Deed) : Reading (Deed × Bool) := r.map fun r => ((r.1, true), r.2)
  opened (r : Reading Deed) : Reading (Deed × Bool) := r.map fun r => ((r.1, false), r.2)
  target (cs : List Char) : String × List Char :=
    let cs := skipBlanks cs
    let name := cs.takeWhile fun c => !Number.isBlank c && c ≠ ';' && c ≠ '}'
    (String.ofList name, cs.drop name.length)
  simple : List (Char × Deed) :=
    [('p', .print), ('P', .printFirst), ('d', .delete), ('D', .deleteFirst), ('=', .number),
     ('n', .next), ('N', .join), ('h', .keep false), ('H', .keep true), ('g', .recall false),
     ('G', .recall true), ('x', .swap), ('z', .clear)]

def script (extended : Bool) : Nat → Nat → List Char → Except Fault (List Edit)
  | 0, _, cs => blame "unknown command" cs
  | n + 1, depth, cs => do
    match cs.dropWhile fun c => Number.isBlank c || c = ';' with
    | [] =>
      if depth > 0 then .error { text := "unmatched " ++ marked "\x7b", left := 0, atStart := true }
      else return []
    | '#' :: cs => script extended n depth (cs.dropWhile (· ≠ '\n'))
    | cs =>
      let (first, cs) ← address extended cs
      let rest := skipBlanks cs
      let (second, rest) ← match first, rest with
        | some _, ',' :: rest => do
          let (l, rest) ← limit extended (skipBlanks rest)
          pure (some l, rest)
        | none, ',' :: rest => blame ("unknown command: " ++ marked ",") rest
        | _, rest => pure (none, rest)
      let fromZero := first = some (.line 0)
      let isLike := match second with
        | some (.address (.like _)) => true
        | _ => false
      if fromZero && !isLike then blame "invalid usage of line address 0" (rest.drop 1)
      else
        let rest := skipBlanks rest
        let negated := rest.head? = some '!'
        let rest := if negated then rest.dropWhile fun c => c = '!' || c = ' ' else rest
        let (done, rest) ← readDeed extended rest
        let depth ← match done.1 with
          | .enter => pure (depth + 1)
          | .leave =>
            if depth = 0 then blame ("unexpected " ++ marked "\x7d") rest else pure (depth - 1)
          | _ => pure depth
        let rest ←
          if done.2 then
            match skipBlanks rest with
            | [] => pure []
            | c :: rest =>
              if c = '\n' || c = ';' then pure rest
              else if c = '}' || c = '#' then pure (c :: rest)
              else blame "extra characters after command" rest
          else pure rest
        let edits ← script extended n depth rest
        return { first, second, fromZero, negated, deed := done.1 } :: edits

def lostJump? (edits : List Edit) : Option String :=
  let labels := edits.filterMap fun e => match e.deed with
    | .label name => some name
    | _ => none
  edits.findSome? fun e => match e.deed with
    | .jump name _ => if name ≠ "" && !labels.contains name then some name else none
    | _ => none

end Edit

end WindowsListing.Unix.Utility
