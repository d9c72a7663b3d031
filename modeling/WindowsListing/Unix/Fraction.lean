import WindowsListing.Unix.Number

/-!
# Fractions

Nonnegative fractions and their notations: with fixed places, with an
exponent, and the shorter of the two.
-/

set_option autoImplicit false

namespace WindowsListing.Unix

def roundDiv (n d : Nat) : Nat :=
  let rest := 2 * (n % d)
  if rest > d ∨ (rest = d ∧ n / d % 2 = 1) then n / d + 1 else n / d

structure Fraction where
  numerator : Nat
  denominator : Nat
  deriving DecidableEq

namespace Fraction

def zero : Fraction := ⟨0, 1⟩

def times (base : Nat) (power : Int) (f : Fraction) : Fraction :=
  ⟨f.numerator * base.pow power.toNat, f.denominator * base.pow (-power).toNat⟩

def signedAhead? (cs : List Char) : Option (Int × Nat) :=
  let sign := (cs.takeWhile fun c => c = '-' || c = '+').take 1
  let digits := (cs.drop sign.length).takeWhile Char.isDigit
  (Number.value? 10 digits).map fun n =>
    (if sign = ['-'] then -(n : Int) else n, sign.length + digits.length)

def exponent (letter : Char) (cs : List Char) : Int × List Char :=
  match cs with
  | c :: rest =>
    match if c.toLower = letter then signedAhead? rest else none with
    | some (n, length) => (n, rest.drop length)
    | none => (0, cs)
  | [] => (0, [])

def largestPower : Int := 5000

def inBase? (base root : Nat) (letter : Char) (cs : List Char) :
    Option (Fraction × List Char) :=
  let isDigit := fun c => (Number.value? base [c]).isSome
  let whole := cs.takeWhile isDigit
  let (places, rest) := match cs.drop whole.length with
    | '.' :: rest => (rest.takeWhile isDigit, rest.dropWhile isDigit)
    | rest => ([], rest)
  (Number.value? base (whole ++ places)).map fun n =>
    let (power, rest) := exponent letter rest
    let power := max (-largestPower) (min largestPower power)
    ((Fraction.mk n 1 |>.times base (-places.length)).times root power, rest)

def ahead? (cs : List Char) : Option (Bool × Fraction × List Char) :=
  let cs := cs.dropWhile Number.isBlank
  let (negative, cs) := match cs with
    | '-' :: cs => (true, cs)
    | '+' :: cs => (false, cs)
    | cs => (false, cs)
  let read := match cs with
    | '0' :: x :: d :: rest =>
      if x.toLower = 'x' && (Number.value? 16 [d]).isSome then inBase? 16 2 'p' (d :: rest)
      else inBase? 10 10 'e' cs
    | cs => inBase? 10 10 'e' cs
  read.map fun (f, rest) => (negative, f, rest)

def rounded (bits : Nat) (f : Fraction) : Fraction :=
  if f.numerator = 0 then f
  else
    let guess : Int := f.numerator.log2 - f.denominator.log2 - bits
    let at_ := fun (power : Int) =>
      (f.numerator * Nat.pow 2 (-power).toNat, f.denominator * Nat.pow 2 power.toNat)
    let power := if (at_ guess).1 / (at_ guess).2 ≥ Nat.pow 2 bits then guess + 1 else guess
    let mantissa := roundDiv (at_ power).1 (at_ power).2
    ⟨mantissa * Nat.pow 2 power.toNat, Nat.pow 2 (-power).toNat⟩

def digits (n : Nat) : List Char := Nat.toDigits 10 n

def pointed (places n : Nat) : List Char :=
  let ds := digits n
  let ds := List.replicate (places + 1 - ds.length) '0' ++ ds
  let split := ds.length - places
  if places = 0 then ds else ds.take split ++ '.' :: ds.drop split

def fixed (places : Nat) (f : Fraction) : List Char :=
  pointed places (roundDiv (f.numerator * Nat.pow 10 places) f.denominator)

def scientific (places : Nat) (f : Fraction) : Nat × Int :=
  if f.numerator = 0 then (0, 0)
  else
    let at_ := fun (power : Int) =>
      (f.numerator * Nat.pow 10 (-power).toNat, f.denominator * Nat.pow 10 power.toNat)
    let guess : Int := (digits f.numerator).length - (digits f.denominator).length
    let power := if (at_ guess).1 < (at_ guess).2 then guess - 1 else guess
    let scaled := at_ (power - places)
    let n := roundDiv scaled.1 scaled.2
    if n ≥ Nat.pow 10 (places + 1) then (n / 10, power + 1) else (n, power)

def withExponent (letter : Char) (mantissa : List Char) (power : Int) : List Char :=
  let ds := digits power.natAbs
  let ds := List.replicate (2 - ds.length) '0' ++ ds
  mantissa ++ letter :: (if power < 0 then '-' else '+') :: ds

def exponential (letter : Char) (places : Nat) (f : Fraction) : List Char :=
  let (n, power) := scientific places f
  withExponent letter (pointed places n) power

/-- Without the zeros behind the point that say nothing, and without a bare point. -/
def shortened (cs : List Char) : List Char :=
  if cs.contains '.' then
    ((cs.reverse.dropWhile (· = '0')).dropWhile (· = '.')).reverse
  else cs

/-- So many digits in all. The exponent is used where the number is small or
its digits do not reach up to the point. -/
def general (letter : Char) (precision : Nat) (keep : Bool) (f : Fraction) : List Char :=
  let places := precision - 1
  let (n, power) := scientific places f
  let short := fun cs => if keep then cs else shortened cs
  if power < -4 ∨ power > places then withExponent letter (short (pointed places n)) power
  else short (fixed ((places : Int) - power).toNat f)

end Fraction

end WindowsListing.Unix
