import WindowsListing.Unix.Files
import WindowsListing.Unix.Wildcard

/-!
# Fields

An expanded word is a row of fragments. They are split into fields at the
separators, fields that are patterns become the names they match, and what is
left are words.
-/

set_option autoImplicit false

namespace WindowsListing.Unix.Script

/-- Characters, each with the mark of whether it stands for itself in a pattern. -/
abbrev Marked := List (Char × Bool)

def marked (quoted : Bool) (cs : List Char) : Marked := cs.map fun c => (c, quoted)

def gap : Char := Char.ofNat 0

inductive Fragment where
  | text (quoted : Bool) (cs : List Char)
  | mark
  | region (whole : Bool) (cs : Marked)
  deriving DecidableEq

def plainText (cs : Marked) : String := String.ofList (cs.map (·.1))

def Fragment.content : Fragment → Marked
  | .text quoted cs => marked quoted cs
  | .mark => []
  | .region _ cs => cs

def joined (fragments : List Fragment) : Marked := fragments.flatMap Fragment.content

structure Splitting where
  fields : List Marked := []
  current : Option Marked := none
  left : Option Nat := none
  kept : Option Nat := none
  ending : Bool := false
  whole : Bool := false
  before : Bool := false

namespace Splitting

def isBlank (c : Char) : Bool := c = ' ' || c = '\t' || c = '\n' || c = gap

def add (s : Splitting) (cs : Marked) : Splitting :=
  if cs = [] then s else { s with current := some (s.current.getD [] ++ cs) }

def close (s : Splitting) : Splitting :=
  { s with fields := s.fields ++ [s.current.getD []], current := none }

def length (s : Splitting) : Nat := (s.current.getD []).length

def last (s : Splitting) (c : Char × Bool) (separates : Bool) : Splitting :=
  let s :=
    if separates && isBlank c.1 then { s with kept := some (s.kept.getD s.length) }
    else { s with kept := if separates && s.ending then s.kept else none, ending := false }
  s.add [c]

def cut (s : Splitting) (c : Char × Bool) (blank : Bool) : Splitting :=
  match s.left with
  | some 1 => { s with left := some 0, kept := some s.length, ending := blank }.add [c]
  | left => { s.close with left := left.map (· - 1), ending := blank }

def step (separators : List Char) (s : Splitting) (c : Char × Bool) : Splitting :=
  let separates := c.1 = gap || (!s.whole && separators.contains c.1)
  if s.left = some 0 then s.last c separates
  else if s.ending then
    if !separates then { s with current := some [c], ending := false }
    else { s with current := none, ending := isBlank c.1 }
  else if separates then
    let blank := isBlank c.1 && !s.whole && !s.before
    if blank && s.current.isNone then s else s.cut c blank
  else s.add [c]

def fragment (separators : List Char) (s : Splitting) : Fragment → Splitting
  | .text quoted cs => s.add (marked quoted cs)
  | .mark => { s with current := some (s.current.getD []) }
  | .region whole cs =>
    cs.foldl (step separators) { s with ending := false, whole, before := s.whole }

def finished (s : Splitting) : List Marked :=
  let s := match s.kept with
    | some n =>
      let field := (s.current.getD []).take n
      { s with current := if field = [] then none else some field }
    | none => s
  if s.whole || s.current.isSome then s.close.fields else s.fields

end Splitting

def fields (separators : List Char) (fragments : List Fragment) : List Marked :=
  (fragments.foldl (Splitting.fragment separators) {}).finished

def fieldsUpTo (most : Nat) (separators : List Char) (fragments : List Fragment) : List Marked :=
  (fragments.foldl (Splitting.fragment separators) { left := some most }).finished

def closes : Nat → List Char → Bool
  | 0, _ => false
  | _, [] => false
  | n + 1, c :: cs =>
    let (c, cs) := match c, cs with
      | '\\', d :: cs => (d, cs)
      | c, cs => (c, cs)
    if c = '/' then false
    else
      match cs with
      | ']' :: _ => true
      | cs => closes n cs

/-- The first part of a path that is a pattern: what stands before it, the
part, and what follows the slash behind it. -/
structure PatternPart where
  front : List Char
  part : List Char
  rest : Option (List Char)

def patternPart? : Nat → List Char → List Char → Bool → List Char → Option PatternPart
  | 0, _, _, _, _ => none
  | _, front, part, active, [] => if active then some ⟨front, part, none⟩ else none
  | n + 1, front, part, active, cs =>
    let slash := fun (cs : List Char) =>
      if active then some ⟨front, part, some cs⟩
      else patternPart? n (front ++ part ++ ['/']) [] false cs
    match cs with
    | '/' :: cs => slash cs
    | '\\' :: '/' :: cs => slash cs
    | '\\' :: c :: cs => patternPart? n front (part ++ ['\\', c]) active cs
    | c :: cs =>
      let inner := if cs.head? = some '!' then cs.drop 1 else cs
      patternPart? n front (part ++ [c])
        (active || c = '*' || c = '?' || (c = '[' && closes (inner.length + 1) inner)) cs
    | [] => none

def unescaped : List Char → List Char
  | '\\' :: c :: cs => c :: unescaped cs
  | c :: cs => c :: unescaped cs
  | [] => []

/-- The names that a pattern may match in a directory. Those that begin with a
dot have to be asked for. -/
def visible (f : Files) (directory : Nat) (path : String) (part : List Char) : List String :=
  match f.find directory (if path = "" then "." else path) true with
  | .error _ => []
  | .ok n =>
    if !f.isDirectory n then []
    else if (unescaped part).head? = some '.' then "." :: ".." :: f.listing n
    else (f.listing n).filter fun name => name.toList.head? ≠ some '.'

/-- The paths that a pattern matches behind a path, with at most so many patterns in it. -/
def matchingPaths (f : Files) (directory : Nat) : Nat → String → List Char → List String
  | 0, _, _ => []
  | n + 1, path, pattern =>
    match patternPart? (pattern.length + 1) [] [] false pattern with
    | none =>
      let whole := path ++ String.ofList (unescaped pattern)
      if path ≠ "" && (f.find directory whole false).toOption.isSome then [whole] else []
    | some p =>
      let path := path ++ String.ofList (unescaped p.front)
      let names := (visible f directory path p.part).filter fun name =>
        Wildcard.covers (Wildcard.ofChars p.part) name.toList
      match p.rest with
      | none => names.map (path ++ ·)
      | some rest => names.flatMap fun name =>
          matchingPaths f directory n (path ++ name ++ "/") rest

def hasSigns (field : Marked) : Bool :=
  field.any fun c => c.1 = '*' || c.1 = '?' || c.1 = '['

def expandNames (f : Files) (directory : Nat) (field : Marked) : List String :=
  if hasSigns field then
    let pattern := Wildcard.escaped field
    match matchingPaths f directory (pattern.length + 1) "" pattern with
    | [] => [plainText field]
    | paths => paths.mergeSort (· ≤ ·)
  else [plainText field]

end WindowsListing.Unix.Script
