/-!
# Numbers in text

Reading whole numbers in the bases that scripts and utilities write them in.
-/

set_option autoImplicit false

namespace WindowsListing.Unix.Number

def isOctal (c : Char) : Bool := '0' ≤ c && c ≤ '7'

def digit? (c : Char) : Option Nat :=
  if c.isDigit then some (c.toNat - '0'.toNat)
  else if 'a' ≤ c ∧ c ≤ 'z' then some (c.toNat - 'a'.toNat + 10)
  else if 'A' ≤ c ∧ c ≤ 'Z' then some (c.toNat - 'A'.toNat + 10)
  else none

/-- The value of digits, read on from a value. All must be digits of the base. -/
def valueFrom? (base : Nat) : Nat → List Char → Option Nat
  | value, [] => some value
  | value, c :: cs =>
    match digit? c with
    | some d => if d < base then valueFrom? base (value * base + d) cs else none
    | none => none

def value? (base : Nat) (cs : List Char) : Option Nat :=
  if cs = [] then none else valueFrom? base 0 cs

def literal? : List Char → Option Nat
  | '0' :: 'x' :: cs => value? 16 cs
  | '0' :: 'X' :: cs => value? 16 cs
  | '0' :: cs => valueFrom? 8 0 cs
  | cs => value? 10 cs

/-- The number that characters begin with, in the base that the first of them
tell, and how many characters it takes. -/
def ahead (cs : List Char) : Nat × Nat :=
  let inBase := fun (base skipped : Nat) =>
    let digits := (cs.drop skipped).takeWhile fun c => (value? base [c]).isSome
    ((value? base digits).getD 0, skipped + digits.length)
  match cs with
  | '0' :: x :: d :: _ =>
    if (x = 'x' || x = 'X') && (value? 16 [d]).isSome then inBase 16 2 else inBase 8 0
  | '0' :: _ => inBase 8 0
  | _ => inBase 10 0

def negate (n : Nat) : Int := -(n : Int)

def signed? (read : List Char → Option Nat) : List Char → Option Int
  | '-' :: cs => (read cs).map negate
  | '+' :: cs => (read cs).map Int.ofNat
  | cs => (read cs).map Int.ofNat

def isBlank (c : Char) : Bool := c = ' ' || (9 ≤ c.toNat && c.toNat ≤ 13)

def trimmed (cs : List Char) : List Char :=
  ((cs.dropWhile isBlank).reverse.dropWhile isBlank).reverse

def decimal? (text : String) : Option Int := signed? (value? 10) (trimmed text.toList)

def count? (text : String) : Option Nat :=
  (decimal? text).bind fun n => if 0 ≤ n ∧ n < 0x80000000 then some n.toNat else none

def natural? (text : String) : Option Nat := value? 10 text.toList

end WindowsListing.Unix.Number
