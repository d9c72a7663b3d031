import WindowsListing.Unix.Script.Grammar

/-!
# Reading words

A word of a script ends at a blank or an operator outside of quotation marks.
Inside it the signs that ask for an expansion are read into parts.
-/

set_option autoImplicit false

namespace WindowsListing.Unix.Script

inductive Misreading where
  | quotation
  | brace
  | backquote
  | sum
  | ended (expecting : Option String)
  | unexpected (token : String) (expecting : Option String)
  | name
  | variable
  deriving DecidableEq

def Misreading.text : Misreading → String
  | .quotation => "Unterminated quoted string"
  | .brace => "Missing '\x7d'"
  | .backquote => "EOF in backquote substitution"
  | .sum => "Missing '))'"
  | .ended expecting => "end of file unexpected" ++ hint expecting
  | .unexpected token expecting => token ++ " unexpected" ++ hint expecting
  | .name => "Bad function name"
  | .variable => "Bad for loop variable"
where
  hint : Option String → String
    | some token => " (expecting " ++ token ++ ")"
    | none => ""

structure Fault where
  reason : Misreading
  left : Nat := 0
  deriving DecidableEq

def newlines (cs : List Char) : Nat := (cs.filter (· = '\n')).length

def Fault.before {α : Type} (reason : Misreading) (cs : List Char) : Except Fault α :=
  .error { reason, left := newlines cs }

def Fault.atEnd {α : Type} (reason : Misreading) : Except Fault α := .error { reason }

def leaving {α : Type} (cs : List Char) : Except Fault α → Except Fault α
  | .ok a => .ok a
  | .error f => .error { f with left := f.left + newlines cs }

/-- The place that decides which characters are special and where a word ends. -/
inductive Mode where
  | bare
  | double
  | braced (quoted : Bool)
  | document
  | sum (depth : Nat)
  deriving DecidableEq

def Mode.quotes : Mode → Bool
  | .bare => false
  | .braced quoted => quoted
  | _ => true

def isBlank (c : Char) : Bool := c = ' ' || c = '\t'

def isSeam (c : Char) : Bool := c.toNat ≥ 256

def seamless (cs : List Char) : List Char := cs.filter fun c => !isSeam c

def isMeta (c : Char) : Bool := isBlank c || c = '\n' || "|&;<>()".contains c || isSeam c

def isNameStart (c : Char) : Bool := c.isAlpha || c = '_'

def isNamePart (c : Char) : Bool := c.isAlphanum || c = '_'

def isName (text : String) : Bool :=
  match text.toList with
  | c :: cs => isNameStart c && cs.all isNamePart
  | [] => false

def isSpecial (c : Char) : Bool := "@*#?-$!".contains c

def backquote : Char := Char.ofNat 96

def Mode.escapes (mode : Mode) (c : Char) : Bool :=
  match mode with
  | .bare => true
  | .braced false => true
  | .braced true => c = '$' || c = backquote || c = '"' || c = '\\' || c = '\x7d'
  | .document => c = '$' || c = backquote || c = '\\'
  | _ => c = '$' || c = backquote || c = '"' || c = '\\'

def parameterName? : List Char → Option (String × List Char)
  | [] => none
  | c :: cs =>
    if isNameStart c then
      let name := c :: cs.takeWhile isNamePart
      some (String.ofList name, cs.drop (name.length - 1))
    else if c.isDigit || isSpecial c then some (String.singleton c, cs)
    else none

def bracedName? : List Char → Option (String × List Char)
  | [] => none
  | c :: cs =>
    if c.isDigit then
      let digits := c :: cs.takeWhile Char.isDigit
      some (String.ofList digits, cs.drop (digits.length - 1))
    else parameterName? (c :: cs)

def use? : List Char → Option (Use × List Char)
  | '\x7d' :: cs => some (.plain, '\x7d' :: cs)
  | ':' :: '-' :: cs => some (.orElse true, cs)
  | ':' :: '=' :: cs => some (.orAssign true, cs)
  | ':' :: '?' :: cs => some (.orFail true, cs)
  | ':' :: '+' :: cs => some (.ifSet true, cs)
  | '-' :: cs => some (.orElse false, cs)
  | '=' :: cs => some (.orAssign false, cs)
  | '?' :: cs => some (.orFail false, cs)
  | '+' :: cs => some (.ifSet false, cs)
  | '#' :: '#' :: cs => some (.withoutFront true, cs)
  | '#' :: cs => some (.withoutFront false, cs)
  | '%' :: '%' :: cs => some (.withoutBack true, cs)
  | '%' :: cs => some (.withoutBack false, cs)
  | _ => none

def Use.trims : Use → Bool
  | .withoutFront _ => true
  | .withoutBack _ => true
  | _ => false

/-- What stands between backquotes, where a backslash keeps some characters. -/
def backquoted (quoted : Bool) : List Char → Except Fault (List Char × List Char)
  | [] => Fault.atEnd .backquote
  | '\\' :: c :: cs => do
    let (text, rest) ← backquoted quoted cs
    if c = '$' || c = backquote || c = '\\' || (quoted && c = '"') then return (c :: text, rest)
    else return ('\\' :: c :: text, rest)
  | c :: cs =>
    if c = backquote then .ok ([], cs)
    else do
      let (text, rest) ← backquoted quoted cs
      return (c :: text, rest)

def measured? (cs : List Char) : Option (String × List Char) :=
  match cs with
  | '#' :: cs =>
    match bracedName? cs with
    | some (name, '\x7d' :: cs) => some (name, cs)
    | _ => none
  | _ => none

/-- Reads a word up to its end in the given mode, and leaves what follows. -/
abbrev WordReader := Mode → List Char → Except Fault (Word × List Char)

/-- Reads commands up to the end of a text, or behind the parenthesis that closes them. -/
abbrev CommandReader := Bool → List Char → Except Fault (Command × List Char)

def more (go : WordReader) (mode : Mode) (text cs : List Char) :
    Except Fault (Word × List Char) := do
  let (word, rest) ← go mode cs
  return (withText mode.quotes text word, rest)

def inParentheses (commands : CommandReader) (mode : Mode) (cs : List Char) :
    Except Fault (Option Part × List Char) := do
  let (c, rest) ← commands true cs
  return (some (.command mode.quotes c), rest)

def inBraces (go : WordReader) (mode : Mode) (name : String) (use : Use) (cs : List Char) :
    Except Fault (Option Part × List Char) := do
  let (word, rest) ← go (.braced (mode.quotes && !use.trims)) cs
  return (some (.parameter mode.quotes name use word), rest)

/-- What a dollar sign asks for, if it asks for anything. A character in braces
that asks for nothing has no meaning of its own. -/
def dollar (commands : CommandReader) (go : WordReader) (mode : Mode) (cs : List Char) :
    Except Fault (Option Part × List Char) :=
  match cs with
  | '(' :: '(' :: cs => do
    let (expression, rest) ← go (.sum 0) cs
    return (some (.arithmetic mode.quotes expression), rest)
  | '(' :: cs => inParentheses commands mode cs
  | '\x7b' :: cs =>
    match measured? cs with
    | some (name, rest) => .ok (some (.parameter mode.quotes name .length []), rest)
    | none =>
      match bracedName? cs with
      | some (name, cs) =>
        match use? cs with
        | some (use, cs) => inBraces go mode name use cs
        | none => inBraces go mode name .faulty (cs.drop (if cs.head? = some ':' then 2 else 1))
      | none => inBraces go mode "" .faulty (if cs.head? = some '\x7d' then cs else cs.drop 1)
  | cs =>
    match parameterName? cs with
    | some (name, rest) => .ok (some (.parameter mode.quotes name .plain []), rest)
    | none => .ok (none, cs)

def Mode.atEnd : Mode → Except Fault (Word × List Char)
  | .bare => .ok ([], [])
  | .document => .ok ([], [])
  | .double => Fault.atEnd .quotation
  | .braced quoted => Fault.atEnd (if quoted then .quotation else .brace)
  | .sum _ => Fault.atEnd .sum

def atBackquote (commands : CommandReader) (go : WordReader) (mode : Mode) (cs : List Char) :
    Except Fault (Word × List Char) := do
  let (text, rest) ← backquoted mode.quotes cs
  let (c, _) ← leaving rest (commands false text)
  let (word, rest) ← go mode rest
  return (.command mode.quotes c :: word, rest)

def inDouble (go : WordReader) (mode : Mode) (cs : List Char) :
    Except Fault (Word × List Char) := do
  let (inner, rest) ← go .double cs
  let (word, rest) ← go mode rest
  return (.quotation inner :: word, rest)

def inSingle (go : WordReader) (mode : Mode) (cs : List Char) :
    Except Fault (Word × List Char) := do
  let text := cs.takeWhile (· ≠ '\'')
  match cs.drop text.length with
  | _ :: rest =>
    let (word, rest) ← go mode rest
    return (.quotation [.text true (seamless text)] :: word, rest)
  | [] => Fault.atEnd .quotation

def atPlain (go : WordReader) (mode : Mode) (c : Char) (cs : List Char) :
    Except Fault (Word × List Char) :=
  match mode with
  | .bare => if isMeta c then .ok ([], c :: cs) else more go mode [c] cs
  | .braced _ => if c = '\x7d' then .ok ([], cs) else more go mode [c] cs
  | .sum depth =>
    if c = '(' then more go (.sum (depth + 1)) [c] cs
    else if c = ')' then
      match depth, cs with
      | 0, ')' :: rest => .ok ([], rest)
      | depth, cs => more go (.sum (depth - 1)) [c] cs
    else more go mode [c] cs
  | _ => more go mode [c] cs

def Mode.opens : Mode → Bool
  | .bare => true
  | .braced _ => true
  | _ => false

def atCharacter (commands : CommandReader) (go : WordReader) (mode : Mode) (c : Char)
    (cs : List Char) : Except Fault (Word × List Char) :=
  if isSeam c then go mode cs
  else if c = backquote then atBackquote commands go mode cs
  else if c = '"' && mode = .double then .ok ([], cs)
  else if c = '"' && mode.opens then inDouble go mode cs
  else if c = '\'' && !mode.quotes then inSingle go mode cs
  else atPlain go mode c cs

def firstPart (commands : CommandReader) (go : WordReader) (mode : Mode) :
    List Char → Except Fault (Word × List Char)
  | [] => mode.atEnd
  | '\\' :: '\n' :: cs => go mode cs
  | '\\' :: [] => more go mode ['\\'] []
  | '\\' :: c :: cs =>
    if mode.escapes c then do
      let (word, rest) ← go mode cs
      return (withText true [c] word, rest)
    else more go mode ['\\', c] cs
  | '$' :: cs => do
    let (part?, rest) ← dollar commands go mode cs
    match part? with
    | some part =>
      let (word, rest) ← go mode rest
      return (part :: word, rest)
    | none => more go mode ['$'] rest
  | c :: cs => atCharacter commands go mode c cs

def parts (commands : CommandReader) : Nat → WordReader
  | 0 => fun _ _ => Fault.atEnd (.ended none)
  | n + 1 => firstPart commands (parts commands n)

end WindowsListing.Unix.Script
