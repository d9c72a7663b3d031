import WindowsListing.Unix.Utility.Format
import WindowsListing.Unix.Utility.Options

/-!
# Sequences

The numbers from a first to a last in equal steps. Numbers are kept in units
of their last decimal place, so that every step is exact.
-/

set_option autoImplicit false

namespace WindowsListing.Unix

structure Decimal where
  units : Int
  places : Nat
  deriving DecidableEq

namespace Decimal

def ofInt (n : Int) : Decimal := ⟨n, 0⟩

def unitsAt (places : Nat) (d : Decimal) : Int := d.units * (Nat.pow 10 (places - d.places) : Int)

/-- The places that a notation shows: those behind its point, shifted by its exponent. -/
def shownPlaces (cs : List Char) : Nat :=
  let behind := (cs.dropWhile (· ≠ '.')).drop 1 |>.takeWhile Char.isDigit
  let (power, _) := Fraction.exponent 'e' (cs.dropWhile fun c => c.toLower ≠ 'e')
  ((behind.length : Int) - power).toNat

def read? (text : String) : Option Decimal :=
  match Fraction.ahead? text.toList with
  | some (negative, f, []) =>
    let places := shownPlaces text.toList
    let units := f.numerator * Nat.pow 10 places / f.denominator
    some ⟨if negative then -(units : Int) else units, places⟩
  | _ => none

def write (d : Decimal) : String :=
  let sign := if d.units < 0 then ['-'] else []
  String.ofList (sign ++ Fraction.pointed d.places d.units.natAbs)

def writePadded (width : Nat) (d : Decimal) : String :=
  let sign := if d.units < 0 then ['-'] else []
  let digits := Fraction.pointed d.places d.units.natAbs
  String.ofList (Utility.inField [] width sign digits true)

end Decimal

namespace Utility

def numbersFrom (step : Int) : Nat → Int → List Int
  | 0, _ => []
  | n + 1, first => first :: numbersFrom step n (first + step)

def sequence (first step last : Int) : List Int :=
  if step = 0 then []
  else if (step > 0 ∧ first > last) ∨ (step < 0 ∧ first < last) then []
  else numbersFrom step (((last - first) / step).toNat + 1) first

def decimals (first step last : Decimal) : List Decimal :=
  let shown := max first.places step.places
  let places := max shown last.places
  let numbers := sequence (first.unitsAt places) (step.unitsAt places) (last.unitsAt places)
  numbers.map fun n => ⟨n.tdiv (Nat.pow 10 (places - shown)), shown⟩

def isNegative (word : String) : Bool :=
  match word.toList with
  | '-' :: c :: _ => c.isDigit || c = '.'
  | _ => false

def sequenceOptions (words : List String) : Options :=
  let front := words.takeWhile fun w => !isNegative w
  let o := Options.read
    { plain := "w", valued := "sf", front := true
      long := [("equal-width", 'w'), ("separator", 's'), ("format", 'f')] } front
  match o.fault? with
  | some (.valueless _) => whole words
  | _ => { o with operands := o.operands ++ words.drop front.length }
where
  whole (words : List String) : Options :=
    Options.read { plain := "w", valued := "sf", front := true } words

def sequenceFault (operands : List String) : String :=
  match operands.find? fun w => (Decimal.read? w).isNone, operands with
  | some bad, _ => "invalid floating point argument: " ++ inMarks bad
  | none, _ :: _ :: _ :: extra :: _ => "extra operand " ++ inMarks extra
  | none, _ => "missing operand"

/-- What is wrong with the format of a sequence: it has one directive, for fractions. -/
def formatFault? (format : String) : Option String :=
  let parts := formatParts .full (format.length + 1) format.toList
  let directives := parts.filterMap fun part => match part with
    | .convert d => some d
    | _ => none
  let about := "format " ++ inMarks format
  match directives with
  | [] => some (about ++ " has no % directive")
  | [d] =>
    if "eEfFgG".contains d.conversion then none
    else some (about ++ " has unknown %" ++ String.singleton d.conversion ++ " directive")
  | _ => some (about ++ " has too many % directives")

def sequenceTexts (o : Options) (numbers : List Decimal) : List String :=
  match o.value? 'f' with
  | some format =>
    let format := format.replace "\\" "\\\\"
    numbers.map fun d => String.ofList (printed .full format [d.write]).output
  | none =>
    let width := if o.has 'w' then
      (numbers.map fun d => d.write.length).foldl max 0 else 0
    numbers.map (Decimal.writePadded width)

def seq : Utility := fun words _ =>
  let o := sequenceOptions words
  let bounds : Option (Decimal × Decimal × Decimal) := match o.operands.map Decimal.read? with
    | [some last] => some (.ofInt 1, .ofInt 1, last)
    | [some first, some last] => some (first, .ofInt 1, last)
    | [some first, some step, some last] => some (first, step, last)
    | _ => none
  o.checked "seq" 1 <|
  match bounds, (o.value? 'f').bind formatFault? with
  | none, _ => misuse "seq" (sequenceFault o.operands) 1
  | some _, some fault => complaint "seq" fault 1
  | some (first, step, last), none =>
    if step.units = 0 then
      misuse "seq" ("invalid Zero increment value: " ++ inMarks (o.operands.getD 1 "")) 1
    else
      let texts := sequenceTexts o (decimals first step last)
      { output := if texts = [] then "" else
          ((o.value? 's').getD "\n").intercalate texts ++ "\n" }

end Utility

end WindowsListing.Unix
