/-!
# Wildcards

Patterns of question marks, stars and bracketed sets, as they match names,
words and parts of words. In the text of a pattern a backslash takes the
meaning from the character behind it.
-/

set_option autoImplicit false

namespace WindowsListing.Unix

inductive SetItem where
  | range (first last : Char)
  | named (name : String)
  deriving DecidableEq

namespace SetItem

def isControl (c : Char) : Bool := c.toNat < 32 || c.toNat = 127

def isPunctuation (c : Char) : Bool :=
  33 ≤ c.toNat && c.toNat ≤ 126 && !c.isAlphanum

def inClass (c : Char) : String → Bool
  | "alpha" => c.isAlpha
  | "digit" => c.isDigit
  | "alnum" => c.isAlphanum
  | "upper" => c.isUpper
  | "lower" => c.isLower
  | "space" => c = ' ' || (9 ≤ c.toNat && c.toNat ≤ 13)
  | "blank" => c = ' ' || c = '\t'
  | "punct" => isPunctuation c
  | "cntrl" => isControl c
  | "print" => 32 ≤ c.toNat && c.toNat ≤ 126
  | "graph" => 33 ≤ c.toNat && c.toNat ≤ 126
  | "xdigit" => c.isDigit || ('a' ≤ c && c ≤ 'f') || ('A' ≤ c && c ≤ 'F')
  | _ => false

def classes : List String :=
  ["alnum", "cntrl", "lower", "space", "alpha", "digit", "print", "upper", "blank", "graph",
   "punct", "xdigit"]

def rank (c : Char) : Nat := (c.toNat + 128) % 256

def holds (c : Char) : SetItem → Bool
  | .range first last => rank first ≤ rank c && rank c ≤ rank last
  | .named name => inClass c name

def class? (cs : List Char) : Option (SetItem × List Char) :=
  classes.findSome? fun name =>
    let sign := (":" ++ name ++ ":]").toList
    if sign.isPrefixOf cs then some (.named name, cs.drop sign.length) else none

end SetItem

inductive Wildcard where
  | exactly (c : Char)
  | anyOne
  | many
  | oneOf (negated : Bool) (items : List SetItem)
  deriving DecidableEq

namespace Wildcard

def rangeEnd? : List Char → Option (Char × List Char)
  | '-' :: ']' :: _ => none
  | '-' :: '\\' :: d :: cs => some (d, cs)
  | '-' :: d :: cs => some (d, cs)
  | _ => none

/-- The items up to the closing bracket, and what follows it. A bracket that
comes first is an item. -/
def items? : Nat → Bool → List Char → Option (List SetItem × List Char)
  | 0, _, _ => none
  | _, _, [] => none
  | n + 1, first, c :: cs =>
    let item := fun (c : Char) (cs : List Char) =>
      match rangeEnd? cs with
      | some (d, rest) => (items? n false rest).map fun r => (SetItem.range c d :: r.1, r.2)
      | none => (items? n false cs).map fun r => (SetItem.range c c :: r.1, r.2)
    if c = ']' && !first then some ([], cs)
    else if c = '[' then
      match SetItem.class? cs with
      | some (named, rest) => (items? n false rest).map fun r => (named :: r.1, r.2)
      | none => item c cs
    else if c = '\\' then
      match cs with
      | d :: cs => item d cs
      | [] => none
    else item c cs

def readUpTo : Nat → List Char → List Wildcard
  | 0, _ => []
  | _, [] => []
  | n + 1, '*' :: cs => .many :: readUpTo n cs
  | n + 1, '?' :: cs => .anyOne :: readUpTo n cs
  | n + 1, '\\' :: c :: cs => .exactly c :: readUpTo n cs
  | n + 1, '[' :: cs =>
    let negated := cs.head? = some '!'
    match items? (cs.length + 1) true (if negated then cs.drop 1 else cs) with
    | some (items, rest) => .oneOf negated items :: readUpTo n rest
    | none => .exactly '[' :: readUpTo n cs
  | n + 1, c :: cs => .exactly c :: readUpTo n cs

def ofChars (cs : List Char) : List Wildcard := readUpTo cs.length cs

def escaped (cs : List (Char × Bool)) : List Char :=
  cs.flatMap fun (c, quoted) => if quoted then ['\\', c] else [c]

def accepts (c : Char) : Wildcard → Bool
  | .exactly d => c = d
  | .anyOne => true
  | .many => true
  | .oneOf negated items => items.any (SetItem.holds c) != negated

def covers : List Wildcard → List Char → Bool
  | [], cs => cs.isEmpty
  | .many :: ws, [] => covers ws []
  | .many :: ws, c :: cs => covers ws (c :: cs) || covers (.many :: ws) cs
  | _ :: _, [] => false
  | w :: ws, c :: cs => w.accepts c && covers ws cs
termination_by ws cs => ws.length + cs.length

/-- How long the front of a text is that a pattern matches, the longest or the shortest. -/
def front? (longest : Bool) (ws : List Wildcard) (cs : List Char) : Option Nat :=
  let lengths := List.range (cs.length + 1)
  (if longest then lengths.reverse else lengths).find? fun n => covers ws (cs.take n)

def back? (longest : Bool) (ws : List Wildcard) (cs : List Char) : Option Nat :=
  let lengths := List.range (cs.length + 1)
  (if longest then lengths.reverse else lengths).find? fun n =>
    covers ws (cs.drop (cs.length - n))

end Wildcard

end WindowsListing.Unix
