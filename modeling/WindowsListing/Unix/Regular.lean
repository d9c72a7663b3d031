import WindowsListing.Unix.Wildcard

/-!
# Regular expressions

Basic and extended regular expressions, and the leftmost place where one matches.
-/

set_option autoImplicit false

namespace WindowsListing.Unix

inductive Edge where
  | wordStart
  | wordEnd
  | wordBound
  | noBound
  | textStart
  | textEnd
  deriving DecidableEq

inductive Regular where
  | nothing
  | exactly (c : Char)
  | anyOne
  | oneOf (negated : Bool) (items : List SetItem)
  | lineStart
  | lineEnd
  | edge (e : Edge)
  | group (index : Nat) (r : Regular)
  | again (index : Nat)
  | both (r s : Regular)
  | either (r s : Regular)
  | repeated (r : Regular) (least : Nat) (most : Option Nat)
  deriving DecidableEq

namespace Regular

structure Read where
  expression : Regular
  rest : List Char
  groups : Nat

def bounds? (extended : Bool) (cs : List Char) : Option (Nat × Option Nat × List Char) :=
  let low := cs.takeWhile Char.isDigit
  let least := (String.ofList low).toNat?.getD 0
  let close := fun (cs : List Char) =>
    match extended, cs with
    | true, '}' :: cs => some cs
    | false, '\\' :: '}' :: cs => some cs
    | _, _ => none
  match cs.drop low.length with
  | ',' :: cs =>
    let high := cs.takeWhile Char.isDigit
    (close (cs.drop high.length)).map fun rest => (least, (String.ofList high).toNat?, rest)
  | cs => (close cs).map fun rest => (least, some least, rest)

def repetition? (extended : Bool) : List Char → Option (Nat × Option Nat × List Char)
  | '*' :: cs => some (0, none, cs)
  | '+' :: cs => if extended then some (1, none, cs) else none
  | '?' :: cs => if extended then some (0, some 1, cs) else none
  | '\x7b' :: cs => if extended then bounds? true cs else none
  | '\\' :: '\x7b' :: cs => if extended then none else bounds? false cs
  | '\\' :: '+' :: cs => if extended then none else some (1, none, cs)
  | '\\' :: '?' :: cs => if extended then none else some (0, some 1, cs)
  | _ => none

def repetitions (extended : Bool) : Nat → Regular → List Char → Regular × List Char
  | 0, r, cs => (r, cs)
  | n + 1, r, cs =>
    match repetition? extended cs with
    | some (least, most, rest) => repetitions extended n (.repeated r least most) rest
    | none => (r, cs)

/-- A character of a bracketed set, which may stand in dots or equals signs, and
what follows it. -/
def setCharacter : List Char → Option (Char × List Char)
  | '[' :: '.' :: c :: '.' :: ']' :: cs => some (c, cs)
  | '[' :: '=' :: c :: '=' :: ']' :: cs => some (c, cs)
  | c :: cs => some (c, cs)
  | [] => none

/-- The items of a set up to its closing bracket, and what follows that. A
backslash has no meaning there, and a bracket that comes first is an item. -/
def setItems? : Nat → Bool → List Char → Option (List SetItem × List Char)
  | 0, _, _ => none
  | n + 1, first, cs =>
    match cs with
    | ']' :: rest =>
      if first then (setItems? n false rest).map fun r => (SetItem.range ']' ']' :: r.1, r.2)
      else some ([], rest)
    | cs =>
      match if cs.head? = some '[' then SetItem.class? (cs.drop 1) else none with
      | some (named, rest) => (setItems? n false rest).map fun r => (named :: r.1, r.2)
      | none =>
        match setCharacter cs with
        | none => none
        | some (c, '-' :: rest) =>
          if rest.head? = some ']' then
            (setItems? n false ('-' :: rest)).map fun r => (SetItem.range c c :: r.1, r.2)
          else
            (setCharacter rest).bind fun (d, rest) =>
              if d < c then none
              else (setItems? n false rest).map fun r => (SetItem.range c d :: r.1, r.2)
        | some (c, rest) => (setItems? n false rest).map fun r => (SetItem.range c c :: r.1, r.2)

def bracket (cs : List Char) : Option (Regular × List Char) :=
  let negated := cs.head? = some '^'
  (setItems? (cs.length + 1) true (if negated then cs.drop 1 else cs)).map fun r =>
    (.oneOf negated r.1, r.2)

def lettered? : Char → Option Regular
  | 'w' => some (.oneOf false [.named "alnum", .range '_' '_'])
  | 'W' => some (.oneOf true [.named "alnum", .range '_' '_'])
  | 's' => some (.oneOf false [.named "space"])
  | 'S' => some (.oneOf true [.named "space"])
  | 'b' => some (.edge .wordBound)
  | 'B' => some (.edge .noBound)
  | '<' => some (.edge .wordStart)
  | '>' => some (.edge .wordEnd)
  | '\'' => some (.edge .textEnd)
  | c => if c.toNat = 96 then some (.edge .textStart) else none

def barred? (extended : Bool) : List Char → Option (List Char)
  | '|' :: cs => if extended then some cs else none
  | '\\' :: '|' :: cs => if extended then none else some cs
  | _ => none

def closed? (extended : Bool) : List Char → Option (List Char)
  | ')' :: cs => if extended then some cs else none
  | '\\' :: ')' :: cs => if extended then none else some cs
  | _ => none

def opened? (extended : Bool) : List Char → Option (List Char)
  | '(' :: cs => if extended then some cs else none
  | '\\' :: '(' :: cs => if extended then none else some cs
  | _ => none

def endsAtStart : Regular → Bool
  | .both _ .lineStart => true
  | _ => false

/-- Reads alternatives up to the end or the closing of a group. The flag says
that the expression read so far in this alternative is empty. -/
def alternatives (extended : Bool) :
    Nat → Bool → Regular → Nat → List Char → Option Read
  | 0, _, _, _, _ => none
  | n + 1, first, done, groups, cs =>
    let continueWith := fun (r : Regular) (groups : Nat) (cs : List Char) =>
      let (r, cs) := repetitions extended n r cs
      alternatives extended n false (.both done r) groups cs
    match barred? extended cs with
    | some cs =>
      (alternatives extended n true .nothing groups cs).map fun r =>
        { r with expression := .either done r.expression }
    | none =>
      if (closed? extended cs).isSome then some ⟨done, cs, groups⟩
      else
        match opened? extended cs with
        | some cs =>
          (alternatives extended n true .nothing (groups + 1) cs).bind fun inner =>
            (closed? extended inner.rest).bind fun cs =>
              continueWith (.group (groups + 1) inner.expression) inner.groups cs
        | none =>
          match cs with
          | [] => some ⟨done, [], groups⟩
          | '^' :: cs =>
            if extended || (first && !done.endsAtStart) then
              alternatives extended n true (.both done .lineStart) groups cs
            else continueWith (.exactly '^') groups cs
          | '$' :: cs =>
            if extended || cs = [] || (closed? false cs).isSome || (barred? false cs).isSome then
              alternatives extended n false (.both done .lineEnd) groups cs
            else continueWith (.exactly '$') groups cs
          | '.' :: cs => continueWith .anyOne groups cs
          | '[' :: cs => (bracket cs).bind fun (r, cs) => continueWith r groups cs
          | '*' :: cs => continueWith (.exactly '*') groups cs
          | '\\' :: 'n' :: cs => continueWith (.exactly '\n') groups cs
          | '\\' :: 't' :: cs => continueWith (.exactly '\t') groups cs
          | '\\' :: [] => none
          | '\\' :: c :: cs =>
            if c.isDigit then
              if c.toNat - '0'.toNat ≤ groups then
                continueWith (.again (c.toNat - '0'.toNat)) groups cs
              else none
            else
              match lettered? c with
              | some r => continueWith r groups cs
              | none => continueWith (.exactly c) groups cs
          | c :: cs => continueWith (.exactly c) groups cs

def ofText? (extended : Bool) (text : String) : Option Regular :=
  match alternatives extended (4 * text.length + 8) true .nothing 0 text.toList with
  | some ⟨r, [], _⟩ => some r
  | _ => none

/-- A place in a text: what lies behind it, in reverse, and ahead, and the
texts of the groups matched. -/
structure Place where
  behind : List Char
  ahead : List Char
  groups : List (Nat × List Char) := []

def Place.step (p : Place) (c : Char) (cs : List Char) : Place :=
  { p with behind := c :: p.behind, ahead := cs }

def Place.since (p earlier : Place) : List Char :=
  earlier.ahead.take (p.behind.length - earlier.behind.length)

def isWordChar (c : Char) : Bool := c.isAlphanum || c = '_' || c.toNat ≥ 192

def Place.isAt (p : Place) (e : Edge) : Bool :=
  let behind := p.behind.head?.any isWordChar
  let ahead := p.ahead.head?.any isWordChar
  match e with
  | .wordStart => !behind && ahead
  | .wordEnd => behind && !ahead
  | .wordBound => behind != ahead
  | .noBound => behind = ahead
  | .textStart => p.behind = []
  | .textEnd => p.ahead = []

def holds (c : Char) : SetItem → Bool
  | .range first last => first ≤ c && c ≤ last
  | .named name => SetItem.inClass c name

def longer : Option Place → Option Place → Option Place
  | some p, some q => if q.behind.length > p.behind.length then some q else some p
  | some p, none => some p
  | none, q => q

def matchFrom (fold : Char → Char) :
    Nat → Regular → Place → (Place → Option Place) → Option Place
  | 0, _, _, _ => none
  | n + 1, r, p, next =>
    match r with
    | .nothing => next p
    | .exactly c =>
      match p.ahead with
      | d :: cs => if fold c = fold d then next (p.step d cs) else none
      | [] => none
    | .anyOne =>
      match p.ahead with
      | d :: cs => next (p.step d cs)
      | [] => none
    | .oneOf negated items =>
      match p.ahead with
      | d :: cs =>
        let held := items.any (holds d) || items.any (holds (fold d)) ||
          (fold 'A' = 'a' && items.any (holds d.toUpper))
        if held != negated then next (p.step d cs) else none
      | [] => none
    | .lineStart => if p.behind = [] then next p else none
    | .lineEnd => if p.ahead = [] then next p else none
    | .edge e => if p.isAt e then next p else none
    | .group index r =>
      matchFrom fold n r p fun q => next { q with groups := (index, q.since p) :: q.groups }
    | .again index =>
      let text := (p.groups.lookup index).getD []
      if text.isPrefixOf p.ahead then
        next { p with behind := text.reverse ++ p.behind, ahead := p.ahead.drop text.length }
      else none
    | .both r s => matchFrom fold n r p fun q => matchFrom fold n s q next
    | .either r s => longer (matchFrom fold n r p next) (matchFrom fold n s p next)
    | .repeated r least most =>
      let more :=
        if most = some 0 then none
        else matchFrom fold n r p fun q =>
          if q.behind.length = p.behind.length then none
          else matchFrom fold n (.repeated r (least - 1) (most.map (· - 1))) q next
      match more with
      | some q => some q
      | none => if least = 0 then next p else none

def size : Regular → Nat
  | .group _ r => r.size + 1
  | .both r s => r.size + s.size + 1
  | .either r s => r.size + s.size + 1
  | .repeated r _ _ => r.size + 1
  | _ => 1

def matchAt (fold : Char → Char) (r : Regular) (p : Place) : Option Place :=
  matchFrom fold (2 * (r.size + 2) * (p.ahead.length + 2)) r p some

def search (fold : Char → Char) (r : Regular) : Nat → Place → Option (Place × Place)
  | 0, _ => none
  | n + 1, p =>
    match matchAt fold r p with
    | some q => some (p, q)
    | none =>
      match p.ahead with
      | c :: cs => search fold r n (p.step c cs)
      | [] => none

def find (fold : Char → Char) (r : Regular) (line : String) : Option (Place × Place) :=
  search fold r (line.length + 1) { behind := [], ahead := line.toList }

end Regular

end WindowsListing.Unix
