import WindowsListing.Unix.Number
import WindowsListing.Unix.Regular
import WindowsListing.Unix.Utility.Sieve

/-!
# Calculations

The utilities that compute: expressions whose operators and operands are
words of their own, and factors.
-/

set_option autoImplicit false

namespace WindowsListing.Unix.Utility
open Program

def integer? (text : String) : Option Int :=
  match text.toList with
  | '+' :: _ => none
  | cs => Number.signed? (Number.value? 10) cs

def isTruthy (text : String) : Bool := text ≠ "" && integer? text ≠ some 0

def calculated? (operator : String) (m n : Int) : Except String Int :=
  match operator with
  | "+" => .ok (m + n)
  | "-" => .ok (m - n)
  | "*" => .ok (m * n)
  | "/" => if n = 0 then .error "division by zero" else .ok (m.tdiv n)
  | _ => if n = 0 then .error "division by zero" else .ok (m.tmod n)

def arithmetic (operator left right : String) : Except String String :=
  match integer? left, integer? right with
  | some m, some n => (calculated? operator m n).map toString
  | _, _ => .error "non-integer argument"

/-- Numbers are compared as numbers if both sides are, and as text otherwise. -/
def comparison (operator left right : String) : String :=
  let (less, equal) := match integer? left, integer? right with
    | some m, some n => (decide (m < n), decide (m = n))
    | _, _ => (decide (left < right), decide (left = right))
  let holds := match operator with
    | "<" => less
    | "<=" => less || equal
    | "=" => equal
    | "==" => equal
    | "!=" => !equal
    | ">=" => !less
    | _ => !less && !equal
  if holds then "1" else "0"

/-- The part of a text that an expression matches from its start on: the first
group if there is one, else its length. -/
def matchedPart (text pattern : String) : Except String String :=
  match Regular.ofText? false pattern with
  | none => .error "invalid regular expression"
  | some r =>
    let grouped := (pattern.splitOn "\\(").length > 1
    match Regular.matchAt id r { behind := [], ahead := text.toList } with
    | some p =>
      if grouped then .ok (String.ofList ((p.groups.lookup 1).getD []))
      else .ok (toString p.behind.length)
    | none => .ok (if grouped then "" else "0")

def indexOf (text set : String) : Nat :=
  let front := text.toList.takeWhile fun c => !set.toList.contains c
  if front.length = text.length then 0 else front.length + 1

def substring (text : String) (start length : Option Int) : String :=
  match start, length with
  | some i, some n =>
    if i ≤ 0 ∨ n ≤ 0 then ""
    else String.ofList ((text.toList.drop (i.toNat - 1)).take n.toNat)
  | _, _ => ""

def operatorLevels : List (List String) :=
  [["|"], ["&"], ["<", "<=", "=", "==", "!=", ">=", ">"], ["+", "-"], ["*", "/", "%"], [":"]]

def operate (operator left right : String) : Except String String :=
  if operator = "|" then
    .ok (if isTruthy left then left else if isTruthy right then right else "0")
  else if operator = "&" then .ok (if isTruthy left && isTruthy right then left else "0")
  else if operator = ":" then matchedPart left right
  else if ["+", "-", "*", "/", "%"].contains operator then arithmetic operator left right
  else .ok (comparison operator left right)

inductive Blunder where
  | endless
  | unclosed (next? : Option String)
  | unopened
  | failed (message : String)

def Blunder.text (last : String) : Blunder → String
  | .endless => "syntax error: missing argument after " ++ inMarks last
  | .unclosed none => "syntax error: expecting " ++ inMarks ")" ++ " after " ++ inMarks last
  | .unclosed (some next) =>
    "syntax error: expecting " ++ inMarks ")" ++ " instead of " ++ inMarks (Bytes.ofText next)
  | .unopened => "syntax error: unexpected " ++ inMarks ")"
  | .failed message => message

mutual
def level : Nat → List (List String) → List String → Except Blunder (String × List String)
  | 0, _, _ => .error .endless
  | n + 1, [], words => operand n words
  | n + 1, operators :: levels, words => do
    let (left, rest) ← level n levels words
    chain n operators levels left rest

def chain :
    Nat → List String → List (List String) → String → List String →
      Except Blunder (String × List String)
  | 0, _, _, _, _ => .error .endless
  | n + 1, operators, levels, left, words =>
    match words with
    | operator :: rest =>
      if operators.contains operator then do
        let (right, rest) ← level n levels rest
        let value ← (operate operator left right).mapError .failed
        chain n operators levels value rest
      else .ok (left, words)
    | [] => .ok (left, [])

def operand : Nat → List String → Except Blunder (String × List String)
  | 0, _ => .error .endless
  | _ + 1, [] => .error .endless
  | n + 1, "(" :: words => do
    let (value, rest) ← level n operatorLevels words
    match rest with
    | ")" :: rest => return (value, rest)
    | rest => .error (.unclosed rest.head?)
  | _ + 1, ")" :: _ => .error .unopened
  | _ + 1, ["+"] => .error .endless
  | _ + 1, "+" :: word :: words => .ok (word, words)
  | n + 1, "length" :: words => do
    let (text, rest) ← operand n words
    return (toString text.length, rest)
  | n + 1, "index" :: words => do
    let (text, rest) ← operand n words
    let (set, rest) ← operand n rest
    return (toString (indexOf text set), rest)
  | n + 1, "match" :: words => do
    let (text, rest) ← operand n words
    let (pattern, rest) ← operand n rest
    return (← (matchedPart text pattern).mapError .failed, rest)
  | n + 1, "substr" :: words => do
    let (text, rest) ← operand n words
    let (start, rest) ← operand n rest
    let (length, rest) ← operand n rest
    return (substring text (integer? start) (integer? length), rest)
  | _ + 1, word :: words => .ok (word, words)
end

def expr : Utility := fun words _ =>
  let words := if words.head? = some "--" then words.drop 1 else words
  if words = [] then misuse "expr" "missing operand" 2
  else
    match level (16 * words.length + 16) operatorLevels (words.map Bytes.toText) with
    | .ok (value, []) =>
      { output := Bytes.ofText value ++ "\n", status := if isTruthy value then 0 else 1 }
    | .ok (_, word :: _) =>
      complaint "expr" ("syntax error: unexpected argument " ++ inMarks (Bytes.ofText word)) 2
    | .error e => complaint "expr" (e.text (words.getLastD "")) 2

def factorsFrom : Nat → Nat → Nat → List Nat
  | 0, _, _ => []
  | fuel + 1, divisor, n =>
    if n ≤ 1 then []
    else if divisor * divisor > n then [n]
    else if n % divisor = 0 then divisor :: factorsFrom fuel divisor (n / divisor)
    else factorsFrom fuel (divisor + 1) n

def factored (words : List String) : Effect :=
  let results := words.map fun w => (Number.natural? w).map fun n =>
    toString n ++ ":" ++ String.join ((factorsFrom (n + 1) 2 n).map fun p => " " ++ toString p)
  let bad := words.filter fun w => (Number.natural? w).isNone
  { output := unlines (results.filterMap id)
    errors := unlines (bad.map fun w =>
      "factor: " ++ inMarks w ++ " is not a valid positive integer")
    status := if bad = [] then 0 else 1 }

def factor : Program := fun _ s => do
  if s.arguments ≠ [] then say "factor" (factored s.arguments)
  else
    match ← textOf "-" with
    | .error e => say "factor" (complaint "factor" ("error reading input: " ++ e.text) 1)
    | .ok text =>
      say "factor" (factored ((text.splitToList Number.isBlank).filter (· ≠ "")))

end WindowsListing.Unix.Utility
