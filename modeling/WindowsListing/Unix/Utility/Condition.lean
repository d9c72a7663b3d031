import WindowsListing.Unix.Number
import WindowsListing.Unix.Sight
import WindowsListing.Unix.Utility

/-!
# Conditions

The conditions of `test`: about texts, about numbers, about files, and
combinations of them. The shell and the program read combinations each in
their own way. A condition that cannot be read is neither true nor false.
-/

set_option autoImplicit false

namespace WindowsListing.Unix.Utility

abbrev Verdict := Except String Bool

namespace Condition

inductive Judge where
  | shell
  | program
  deriving DecidableEq

def seen (w : World) (file : String) (holds : Sight → Bool) : Bool :=
  match w.look file true with
  | .ok sight => holds sight
  | .error _ => false

def isLink (w : World) (file : String) : Bool :=
  match w.look file false with
  | .ok sight => sight.sort = 'l'
  | .error _ => false

def canExecute (s : Sight) : Bool := s.sort = 'd' || s.mode &&& 0o111 ≠ 0

def ofFile? (w : World) (operator file : String) : Option Bool :=
  match operator with
  | "-e" => some (seen w file fun _ => true)
  | "-f" => some (seen w file (·.sort = '-'))
  | "-d" => some (seen w file (·.sort = 'd'))
  | "-c" => some (seen w file (·.sort = 'c'))
  | "-p" => some (seen w file (·.sort = 'p'))
  | "-L" => some (isLink w file)
  | "-h" => some (isLink w file)
  | "-r" => some (seen w file fun _ => true)
  | "-w" => some (seen w file fun _ => true)
  | "-x" => some (seen w file canExecute)
  | "-s" => some (seen w file (·.size > 0))
  | "-O" => some (seen w file fun _ => true)
  | "-G" => some (seen w file fun _ => true)
  | "-u" => some (seen w file fun s => s.mode &&& 0o4000 ≠ 0)
  | "-g" => some (seen w file fun s => s.mode &&& 0o2000 ≠ 0)
  | "-k" => some (seen w file fun s => s.mode &&& 0o1000 ≠ 0)
  | "-b" => some false
  | "-S" => some false
  | _ => none

def number (judge : Judge) (word : String) : Except String Int :=
  match Number.decimal? word, judge with
  | some n, .program => .ok n
  | some n, .shell =>
    if -0x8000000000000000 ≤ n ∧ n < 0x8000000000000000 then .ok n
    else .error ("Illegal number: " ++ word)
  | none, .program => .error ("invalid integer " ++ inMarks word)
  | none, .shell => .error ("Illegal number: " ++ word)

def unary? (judge : Judge) (w : World) (operator operand : String) : Option Verdict :=
  match operator with
  | "-n" => some (.ok (operand ≠ ""))
  | "-z" => some (.ok (operand = ""))
  | "-t" => some ((number judge operand).map fun _ => false)
  | operator => (ofFile? w operator operand).map .ok

def compared (judge : Judge) (holds : Int → Int → Bool) (left right : String) : Verdict := do
  let m ← number judge left
  let n ← number judge right
  return holds m n

def sameFile (w : World) (left right : String) : Bool :=
  match w.look left true, w.look right true with
  | .ok s, .ok t => s.object = t.object
  | _, _ => false

/-- Whether a file was changed later than another one. The program finds a
file newer than one that is not there. -/
def newer (judge : Judge) (w : World) (left right : String) : Bool :=
  match w.look left true, w.look right true with
  | .ok s, .ok t => s.changed > t.changed
  | .ok _, .error _ => judge = .program
  | _, _ => false

def binary? (judge : Judge) (w : World) (left operator right : String) : Option Verdict :=
  match operator, judge with
  | "=", _ => some (.ok (left = right))
  | "!=", _ => some (.ok (left ≠ right))
  | "==", .program => some (.ok (left = right))
  | "<", .shell => some (.ok (left < right))
  | ">", .shell => some (.ok (right < left))
  | "-eq", _ => some (compared judge (fun m n => m = n) left right)
  | "-ne", _ => some (compared judge (fun m n => m ≠ n) left right)
  | "-lt", _ => some (compared judge (fun m n => m < n) left right)
  | "-le", _ => some (compared judge (fun m n => m ≤ n) left right)
  | "-gt", _ => some (compared judge (fun m n => m > n) left right)
  | "-ge", _ => some (compared judge (fun m n => m ≥ n) left right)
  | "-nt", _ => some (.ok (newer judge w left right))
  | "-ot", _ => some (.ok (newer judge w right left))
  | "-ef", _ => some (.ok (sameFile w left right))
  | _, _ => none

def isUnary (w : World) (operator : String) : Bool := (unary? .program w operator "").isSome

def isBinary (judge : Judge) (w : World) (operator : String) : Bool :=
  (binary? judge w "" operator "").isSome

namespace Shell

inductive Token where
  | nothing
  | operand
  | unary
  | binary
  | conjunction
  | disjunction
  | negation
  | opening
  | closing
  deriving DecidableEq

/-- What the first of words is. An operator with nothing to be applied to is an operand. -/
def token (w : World) : List String → Token
  | [] => .nothing
  | word :: rest =>
    match word with
    | "!" => .negation
    | "(" => if rest = [] then .operand else .opening
    | ")" => .closing
    | "-a" => .conjunction
    | "-o" => .disjunction
    | word =>
      if isBinary .shell w word then .binary
      else if isUnary w word then
        match rest with
        | [] => .operand
        | [_] => .unary
        | next :: _ => if isBinary .shell w next then .operand else .unary
      else .operand

/-- What is made of words. The words that are left begin with the last one that was used. -/
abbrev Reading := Except String (Bool × List String)

mutual
def disjunction (w : World) : Nat → Token → List String → Reading
  | 0, _, words => .ok (false, words)
  | n + 1, t, words => do
    let (left, words) ← conjunction w n t words
    if token w words.tail = .disjunction then
      let words := words.drop 2
      let (right, words) ← disjunction w n (token w words) words
      return (left || right, words)
    else return (left, words)

def conjunction (w : World) : Nat → Token → List String → Reading
  | 0, _, words => .ok (false, words)
  | n + 1, t, words => do
    let (left, words) ← negation w n t words
    if token w words.tail = .conjunction then
      let words := words.drop 2
      let (right, words) ← conjunction w n (token w words) words
      return (left && right, words)
    else return (left, words)

def negation (w : World) : Nat → Token → List String → Reading
  | 0, _, words => .ok (false, words)
  | n + 1, t, words =>
    if t = .negation then
      match words.tail with
      | [] => .ok (true, words)
      | rest => do
        let (value, words) ← negation w n (token w rest) rest
        return (!value, words)
    else primary w n t words

def primary (w : World) : Nat → Token → List String → Reading
  | 0, _, words => .ok (false, words)
  | n + 1, t, words =>
    match t, words with
    | .nothing, words => .ok (false, words)
    | .opening, _ :: rest =>
      if token w rest = .closing then .ok (false, rest)
      else do
        let (value, rest) ← disjunction w n (token w rest) rest
        if token w rest.tail = .closing then return (value, rest.tail)
        else .error "closing paren expected"
    | .unary, operator :: operand :: rest => do
      let value ← (unary? .shell w operator operand).getD (.ok false)
      return (value, operand :: rest)
    | _, left :: rest =>
      if token w rest = .binary then
        match rest with
        | operator :: right :: rest => do
          let value ← (binary? .shell w left operator right).getD (.ok false)
          return (value, right :: rest)
        | _ => .error (rest.headD "" ++ ": argument expected")
      else .ok (left ≠ "", left :: rest)
    | _, [] => .ok (false, [])
end

def whole (w : World) (t : Token) (words : List String) : Verdict := do
  match ← disjunction w (8 * words.length + 16) t words with
  | (_, last :: _ :: _) =>
    .error (if last = "" then "unexpected operator" else last ++ ": unexpected operator")
  | (value, _) => return value

/-- Three words around an operator are read as such, and in four words at most
a pair of parentheses or a negation counts in front. -/
def condition (w : World) : List String → Verdict
  | [] => .ok false
  | [left, operator, right] =>
    if isBinary .shell w operator then whole w .operand [left, operator, right]
    else if left = "(" ∧ right = ")" then whole w (token w [operator]) [operator]
    else if left = "!" then
      (whole w (token w [operator, right]) [operator, right]).map (!·)
    else whole w (token w [left, operator, right]) [left, operator, right]
  | [a, b, c, d] =>
    if a = "(" ∧ d = ")" then whole w (token w [b, c]) [b, c]
    else if a = "!" then (condition w [b, c, d]).map (!·)
    else whole w (token w [a, b, c, d]) [a, b, c, d]
  | words => whole w (token w words) words

end Shell

namespace Program

abbrev Reading := Except String (Bool × List String)

def beyond {α : Type} (words : List String) : Except String α :=
  .error ("missing argument after " ++ inMarks (words.getLastD ""))

def looksUnary (word : String) : Bool := word.startsWith "-" && word.length = 2

def unary (w : World) : List String → Reading
  | operator :: operand :: rest =>
    match unary? .program w operator operand with
    | some verdict => verdict.map fun v => (v, rest)
    | none => .error (inMarks operator ++ ": unary operator expected")
  | words => beyond words

def ofOne : List String → Reading
  | word :: rest => .ok (word ≠ "", rest)
  | [] => beyond []

def ofTwo (w : World) : List String → Reading
  | "!" :: rest => (ofOne rest).map fun r => (!r.1, r.2)
  | words => if looksUnary (words.headD "") then unary w words else beyond words

mutual
def ofNumber (w : World) : Nat → Nat → List String → Reading
  | 0, _, words => beyond words
  | n + 1, count, words =>
    match count, words with
    | 1, words => ofOne words
    | 2, words => ofTwo w words
    | 3, words => ofThree w n words
    | 4, "!" :: rest => (ofThree w n rest).map fun r => (!r.1, r.2)
    | 4, "(" :: a :: b :: ")" :: rest => (ofTwo w [a, b]).map fun r => (r.1, rest)
    | _, words => either w n words

def ofThree (w : World) : Nat → List String → Reading
  | 0, words => beyond words
  | n + 1, words =>
    match words with
    | left :: operator :: right :: rest =>
      match binary? .program w left operator right with
      | some verdict => verdict.map fun v => (v, rest)
      | none =>
        if left = "!" then (ofTwo w (operator :: right :: rest)).map fun r => (!r.1, r.2)
        else if left = "(" ∧ right = ")" then .ok (operator ≠ "", rest)
        else if operator = "-a" ∨ operator = "-o" then either w n words
        else .error (inMarks operator ++ ": binary operator expected")
    | words => beyond words

def either (w : World) : Nat → List String → Reading
  | 0, words => beyond words
  | n + 1, words => do
    let (left, rest) ← both w n words
    match rest with
    | "-o" :: rest =>
      let (right, rest) ← either w n rest
      return (left || right, rest)
    | rest => return (left, rest)

def both (w : World) : Nat → List String → Reading
  | 0, words => beyond words
  | n + 1, words => do
    let (left, rest) ← term w n words
    match rest with
    | "-a" :: rest =>
      let (right, rest) ← both w n rest
      return (left && right, rest)
    | rest => return (left, rest)

def term (w : World) : Nat → List String → Reading
  | 0, words => beyond words
  | n + 1, words =>
    match words with
    | [] => beyond words
    | "!" :: rest => (term w n rest).map fun r => (!r.1, r.2)
    | "(" :: rest => do
      let front := rest.tail.takeWhile (· ≠ ")")
      let count := if front.length ≥ 4 then rest.length else front.length + 1
      let (value, rest) ← ofNumber w n count rest
      match rest with
      | ")" :: rest => return (value, rest)
      | [] => .error (inMarks ")" ++ " expected")
      | word :: _ => .error (inMarks ")" ++ " expected, found " ++ inMarks word)
    | word :: rest =>
      let plain : Reading := if looksUnary word then unary w words else .ok (word ≠ "", rest)
      match rest with
      | operator :: right :: more =>
        match binary? .program w word operator right with
        | some verdict => verdict.map fun v => (v, more)
        | none => plain
      | _ => plain
end

def condition (w : World) (words : List String) : Verdict :=
  if words = [] then .ok false
  else
    match ofNumber w (8 * words.length + 16) words.length words with
    | .ok (value, []) => .ok value
    | .ok (_, extra :: _) => .error ("extra argument " ++ inMarks extra)
    | .error e => .error e

end Program

end Condition

/-- The name is the word that the condition was asked under. A bracket is closed by another. -/
def test (judge : Condition.Judge) (name : String) : Utility := fun words w =>
  let condition := match judge with
    | .shell => Condition.Shell.condition
    | .program => Condition.Program.condition
  let missing := match judge with
    | .shell => "missing ]"
    | .program => "missing " ++ inMarks "]"
  let verdict :=
    if name = "[" then
      if words.getLast? = some "]" then condition w words.dropLast else .error missing
    else condition w words
  match verdict with
  | .ok true => { status := 0 }
  | .ok false => { status := 1 }
  | .error message => complaint name message 2

end WindowsListing.Unix.Utility
