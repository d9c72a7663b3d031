import WindowsListing.Unix.Number

/-!
# Arithmetic

Integer expressions of scripts. Numbers have 64 bits and wrap around.
Assignments are kept beside the value, so that an expression needs no store.
-/

set_option autoImplicit false

namespace WindowsListing.Unix.Script

inductive Sum where
  | number (n : Int)
  | variable (name : String)
  | unary (operator : Char) (e : Sum)
  | binary (operator : String) (l r : Sum)
  | choice (test yes no : Sum)
  | assign (name operator : String) (e : Sum)
  deriving DecidableEq

inductive Trouble where
  | expecting (what : String)
  | zeroDivision
  | overflow
  | illegal (text : String)
  deriving DecidableEq

namespace Sum

def wrap (n : Int) : Int := Int.bmod n 0x10000000000000000

inductive Token where
  | number (n : Nat)
  | name (text : String)
  | operator (text : String)
  | stranger
  deriving DecidableEq

def operators : List String :=
  ["<<=", ">>=", "<<", ">>", "<=", ">=", "==", "!=", "&&", "||", "+=", "-=", "*=", "/=", "%=",
   "&=", "|=", "^=", "<", ">", "=", "!", "~", "+", "-", "*", "/", "%", "&", "|", "^", "?", ":",
   "(", ")"]

def operator? (cs : List Char) : Option String :=
  operators.find? fun o => o.toList.isPrefixOf cs

def largest : Nat := 0x7fffffffffffffff

def tokens : Nat → List Char → List Token
  | 0, _ => []
  | _, [] => []
  | n + 1, c :: cs =>
    if Number.isBlank c then tokens n cs
    else if c.isDigit then
      let (value, length) := Number.ahead (c :: cs)
      .number (min value largest) :: tokens n (cs.drop (length - 1))
    else if c.isAlpha || c = '_' then
      let name := c :: cs.takeWhile fun d => d.isAlphanum || d = '_'
      .name (String.ofList name) :: tokens n (cs.drop (name.length - 1))
    else
      match operator? (c :: cs) with
      | some o => .operator o :: tokens n (cs.drop (o.length - 1))
      | none => [.stranger]

/-- The operators with two operands by how loosely they bind, the loosest first. -/
def levels : List (List String) :=
  [["||"], ["&&"], ["|"], ["^"], ["&"], ["==", "!="], ["<=", ">=", "<", ">"], ["<<", ">>"],
   ["+", "-"], ["*", "/", "%"]]

def isAssignment (operator : String) : Bool :=
  ["=", "+=", "-=", "*=", "/=", "%=", "<<=", ">>=", "&=", "|=", "^="].contains operator

mutual
def assignment : Nat → List Token → Except Trouble (Sum × List Token)
  | n + 1, .name x :: .operator o :: rest =>
    if isAssignment o then do
      let (e, rest) ← assignment n rest
      return (.assign x (String.ofList (o.toList.dropLast)) e, rest)
    else conditional n (.name x :: .operator o :: rest)
  | n + 1, ts => conditional n ts
  | 0, _ => .error (.expecting "primary")

def conditional : Nat → List Token → Except Trouble (Sum × List Token)
  | 0, _ => .error (.expecting "primary")
  | n + 1, ts => do
    let (test, rest) ← level n levels ts
    match rest with
    | .operator "?" :: rest =>
      let (yes, rest) ← assignment n rest
      match rest with
      | .operator ":" :: rest =>
        let (no, rest) ← conditional n rest
        return (.choice test yes no, rest)
      | _ => .error (.expecting "':'")
    | rest => return (test, rest)

def level : Nat → List (List String) → List Token → Except Trouble (Sum × List Token)
  | 0, _, _ => .error (.expecting "primary")
  | n + 1, [], ts => operand n ts
  | n + 1, os :: tighter, ts => do
    let (left, rest) ← level n tighter ts
    chain n os tighter left rest

def chain :
    Nat → List String → List (List String) → Sum → List Token →
      Except Trouble (Sum × List Token)
  | 0, _, _, _, _ => .error (.expecting "primary")
  | n + 1, os, tighter, left, ts =>
    match ts with
    | .operator o :: rest =>
      if os.contains o then do
        let (right, rest) ← level n tighter rest
        chain n os tighter (.binary o left right) rest
      else .ok (left, ts)
    | _ => .ok (left, ts)

def operand : Nat → List Token → Except Trouble (Sum × List Token)
  | 0, _ => .error (.expecting "primary")
  | n + 1, ts =>
    match ts with
    | .number m :: rest => .ok (.number m, rest)
    | .name x :: rest => .ok (.variable x, rest)
    | .operator "(" :: rest => do
      let (e, rest) ← assignment n rest
      match rest with
      | .operator ")" :: rest => return (e, rest)
      | _ => .error (.expecting "')'")
    | .operator o :: rest =>
      if ["!", "~", "+", "-"].contains o then do
        let (e, rest) ← operand n rest
        return (.unary ((o.toList.head?).getD '+') e, rest)
      else .error (.expecting "primary")
    | _ => .error (.expecting "primary")
end

def ofText (text : String) : Except Trouble Sum :=
  let ts := tokens (text.length + 1) text.toList
  match assignment (20 * ts.length + 20) ts with
  | .ok (e, []) => .ok e
  | .ok (_, _ :: _) => .error (.expecting "EOF")
  | .error e => .error e

def ofBool (b : Bool) : Int := if b then 1 else 0

def bits (f : Nat → Nat → Nat) (m n : Int) : Int :=
  wrap (f (m % 0x10000000000000000).toNat (n % 0x10000000000000000).toNat)

def shifted (left : Bool) (m n : Int) : Int :=
  let amount := (n % 64).toNat
  if left then wrap (m * Nat.pow 2 amount) else Int.fdiv m (Nat.pow 2 amount)

def least : Int := -0x8000000000000000

def divisible (m n : Int) : Except Trouble Unit :=
  if n = 0 then .error .zeroDivision
  else if m = least ∧ n = -1 then .error .overflow
  else .ok ()

/-- The number that the value of a variable spells. A blank one counts as zero. -/
def held (text : String) : Except Trouble Int :=
  let cs := Number.trimmed text.toList
  if cs = [] then .ok 0
  else
    match Number.signed? Number.literal? cs with
    | some n => if least ≤ n ∧ n ≤ largest then .ok n else .error (.illegal text)
    | none => .error (.illegal text)

def operate (operator : String) (m n : Int) : Except Trouble Int :=
  match operator with
  | "+" => .ok (wrap (m + n))
  | "-" => .ok (wrap (m - n))
  | "*" => .ok (wrap (m * n))
  | "/" => (divisible m n).map fun _ => m.tdiv n
  | "%" => (divisible m n).map fun _ => m.tmod n
  | "<<" => .ok (shifted true m n)
  | ">>" => .ok (shifted false m n)
  | "&" => .ok (bits (· &&& ·) m n)
  | "|" => .ok (bits (· ||| ·) m n)
  | "^" => .ok (bits (· ^^^ ·) m n)
  | "==" => .ok (ofBool (m = n))
  | "!=" => .ok (ofBool (m ≠ n))
  | "<=" => .ok (ofBool (m ≤ n))
  | ">=" => .ok (ofBool (m ≥ n))
  | "<" => .ok (ofBool (m < n))
  | ">" => .ok (ofBool (m > n))
  | _ => .ok n

def applied (operator : Char) (n : Int) : Int :=
  match operator with
  | '-' => wrap (-n)
  | '~' => -n - 1
  | '!' => ofBool (n = 0)
  | _ => n

abbrev Assigned := List (String × Int)

/-- The value of an expression over variables, and what it assigned on the way. -/
def value (read : String → Except Trouble Int) :
    Sum → Assigned → Except Trouble (Int × Assigned)
  | .number n, s => .ok (n, s)
  | .variable x, s =>
    match s.lookup x with
    | some n => .ok (n, s)
    | none => (read x).map fun n => (n, s)
  | .unary o e, s => do
    let (n, s) ← value read e s
    return (applied o n, s)
  | .binary "&&" l r, s => do
    let (m, s) ← value read l s
    if m = 0 then return (0, s)
    else
      let (n, s) ← value read r s
      return (ofBool (n ≠ 0), s)
  | .binary "||" l r, s => do
    let (m, s) ← value read l s
    if m ≠ 0 then return (1, s)
    else
      let (n, s) ← value read r s
      return (ofBool (n ≠ 0), s)
  | .binary o l r, s => do
    let (m, s) ← value read l s
    let (n, s) ← value read r s
    return (← operate o m n, s)
  | .choice test yes no, s => do
    let (n, s) ← value read test s
    if n ≠ 0 then value read yes s else value read no s
  | .assign x o e, s => do
    let (n, s) ← value read e s
    if o = "" then return (n, (x, n) :: s)
    else
      let m ← match s.lookup x with
        | some m => .ok m
        | none => read x
      let n ← operate o m n
      return (n, (x, n) :: s)

end Sum

end WindowsListing.Unix.Script
