import WindowsListing.Unix.Fraction
import WindowsListing.Unix.Utility.Print

/-!
# Formatted printing

A format is text and directives. Each directive takes an argument, and the
format is gone over again until the arguments are used up.
-/

set_option autoImplicit false

namespace WindowsListing.Unix.Utility

/-- Which printer it is: its escapes, the bits of its fractions and its words. -/
structure Printer where
  escapes : EscapeRules
  bits : Nat
  plain : Bool

def Printer.plainShell : Printer := ⟨.plain, 53, true⟩

def Printer.full : Printer := ⟨.widest, 64, false⟩

structure Directive where
  flags : List Char := []
  width : Option (Option Nat) := none
  precision : Option (Option Nat) := none
  conversion : Char
  source : List Char

inductive FormatPart where
  | text (cs : List Char)
  | stop
  | broken (message : String)
  | convert (d : Directive)

def measure? (cs : List Char) : Option (Option Nat) × List Char :=
  match cs with
  | '*' :: cs => (some none, cs)
  | _ =>
    let digits := cs.takeWhile Char.isDigit
    (((Number.value? 10 digits).map some), cs.drop digits.length)

def directive? (cs : List Char) : Option (Directive × List Char) :=
  let flags := cs.takeWhile fun c => "-+ #0".contains c
  let (width, rest) := measure? (cs.drop flags.length)
  let (precision, rest) := match rest with
    | '.' :: rest =>
      match measure? rest with
      | (none, rest) => (some (some 0), rest)
      | r => r
    | rest => (none, rest)
  match rest with
  | c :: rest =>
    let source := '%' :: cs.take (cs.length - rest.length)
    some ({ flags, width, precision, conversion := c, source }, rest)
  | [] => none

def formatParts (p : Printer) : Nat → List Char → List FormatPart
  | 0, _ => []
  | _, [] => []
  | n + 1, '%' :: '%' :: cs => .text ['%'] :: formatParts p n cs
  | n + 1, '%' :: cs =>
    match directive? cs with
    | some (d, rest) => .convert d :: formatParts p n rest
    | none =>
      if p.plain then [.broken "missing format character"]
      else [.broken (String.ofList ('%' :: cs) ++ ": " ++ invalidText p)]
  | n + 1, '\\' :: cs =>
    match cs.head?, escape? { p.escapes with leadingZero := false } cs with
    | _, some (some text, k) => .text text :: formatParts p n (cs.drop k)
    | _, some (none, _) => if p.plain then .text ['\\'] :: formatParts p n cs else [.stop]
    | some 'x', none =>
      if p.plain then .text ['\\'] :: formatParts p n cs
      else [.broken "missing hexadecimal number in escape"]
    | _, none => .text ['\\'] :: formatParts p n cs
  | n + 1, c :: cs => .text [c] :: formatParts p n cs
where
  invalidText (p : Printer) : String :=
    if p.plain then "invalid directive" else "invalid conversion specification"

/-- A text in a field: on the left or the right of blanks, or behind zeros,
which stand between the sign and the digits. -/
def inField (flags : List Char) (width : Nat) (sign body : List Char) (zeros : Bool) :
    List Char :=
  let gap := width - (sign.length + body.length)
  if flags.contains '-' then sign ++ body ++ List.replicate gap ' '
  else if zeros then sign ++ List.replicate gap '0' ++ body
  else List.replicate gap ' ' ++ sign ++ body

def signOf (flags : List Char) (negative : Bool) : List Char :=
  if negative then ['-'] else if flags.contains '+' then ['+']
  else if flags.contains ' ' then [' '] else []

def atLeast (precision : Option Nat) (digits : List Char) : List Char :=
  match precision with
  | some p => List.replicate (p - digits.length) '0' ++ digits
  | none => digits

def signedField (d : Directive) (width : Nat) (precision : Option Nat) (value : Int) :
    List Char :=
  inField d.flags width (signOf d.flags (value < 0))
    (atLeast precision (Nat.toDigits 10 value.natAbs))
    (d.flags.contains '0' && precision.isNone)

def unsignedField (d : Directive) (width : Nat) (precision : Option Nat) (value : Int) :
    List Char :=
  let n := (value % 0x10000000000000000).toNat
  let (base, mark) := match d.conversion with
    | 'o' => (8, ['0'])
    | 'x' => (16, ['0', 'x'])
    | 'X' => (16, ['0', 'X'])
    | _ => (10, [])
  let digits := Nat.toDigits base n
  let digits := if d.conversion = 'X' then digits.map Char.toUpper else digits
  inField d.flags width (if d.flags.contains '#' && n ≠ 0 then mark else [])
    (atLeast precision digits) (d.flags.contains '0' && precision.isNone)

/-- A fraction in the notation that a letter asks for, if it asks for one. -/
def notation? (conversion : Char) (keep : Bool) (precision : Nat) (f : Fraction) :
    Option (List Char) :=
  match conversion with
  | 'f' => some (f.fixed precision)
  | 'F' => some (f.fixed precision)
  | 'e' => some (f.exponential 'e' precision)
  | 'E' => some (f.exponential 'E' precision)
  | 'g' => some (f.general 'e' (max 1 precision) keep)
  | 'G' => some (f.general 'E' (max 1 precision) keep)
  | _ => none

inductive NumberFault where
  | none_
  | behind
  | range
  deriving DecidableEq

def NumberFault.text (p : Printer) : NumberFault → String
  | .none_ => if p.plain then "expected numeric value" else "expected a numeric value"
  | .behind => if p.plain then "not completely converted" else "value not completely converted"
  | .range => "Numerical result out of range"

def quotedNumber? (text : String) : Option Nat :=
  match text.toList with
  | '\'' :: c :: _ => some c.toNat
  | '"' :: c :: _ => some c.toNat
  | _ => none

/-- A whole number within bounds. What follows the number is an error, and
the number stands. -/
def integer (low high : Int) (text : String) : Int × Option NumberFault :=
  match text.toList, quotedNumber? text with
  | [], _ => (0, none)
  | _, some n => (n, none)
  | cs, none =>
    let cs := cs.dropWhile Number.isBlank
    let sign := (cs.takeWhile fun c => c = '-' || c = '+').take 1
    let (n, length) := Number.ahead (cs.drop sign.length)
    let value := if sign = ['-'] then -(n : Int) else n
    if length = 0 then (0, some .none_)
    else if value < low then (low, some .range)
    else if value > high then (high, some .range)
    else (value, if sign.length + length < cs.length then some .behind else none)

def fractionOf (text : String) : Bool × Fraction × Option NumberFault :=
  match text.toList, quotedNumber? text with
  | [], _ => (false, .zero, none)
  | _, some n => (false, ⟨n, 1⟩, none)
  | cs, none =>
    match Fraction.ahead? cs with
    | some (negative, f, rest) => (negative, f, if rest = [] then none else some .behind)
    | none => (false, .zero, some .none_)

def isSafe (c : Char) : Bool :=
  c.isAlphanum || "%+,-./:@_]\x7b\x7d".contains c || c.toNat ≥ 128

def isMarked (c : Char) : Bool := "\"\\$".contains c || c.toNat = 96

def quoted (cs : List Char) : List Char :=
  let plain := match cs with
    | [] => false
    | c :: cs => isSafe c && cs.all fun c => isSafe c || c = '#' || c = '~'
  if plain then cs
  else if cs.contains '\'' && !cs.any isMarked then '"' :: cs ++ ['"']
  else
    let inside := cs.flatMap fun c => if c = '\'' then ['\'', '\\', '\'', '\''] else [c]
    '\'' :: inside ++ ['\'']

structure Printed where
  output : List Char := []
  arguments : List String
  faults : List String := []
  stopped : Bool := false
  fatal : Bool := false
  used : Bool := false

namespace Printed

def next (p : Printed) : String × Printed :=
  match p.arguments with
  | [] => ("", { p with used := true })
  | a :: as => (a, { p with arguments := as, used := true })

def emit (p : Printed) (cs : List Char) : Printed := { p with output := p.output ++ cs }

def blame (p : Printed) (printer : Printer) (text : String) : Option NumberFault → Printed
  | some fault =>
    let word := if printer.plain || fault = .range then text else inMarks text
    { p with faults := p.faults ++ [word ++ ": " ++ fault.text printer] }
  | none => p

def widestField : Int := 0x10000

def largestMeasure : Int := 0x7fffffff

/-- The value of a measure, which may be taken from the arguments. The plain
shell takes none from an argument that is too large, and others stop there. -/
def measured (p : Printed) (printer : Printer) : Option (Option Nat) → Option Int × Printed
  | none => (none, p)
  | some (some n) => (some (min widestField n), p)
  | some none =>
    let (text, p) := p.next
    match integer (-largestMeasure) largestMeasure text with
    | (_, some .range) =>
      let p := p.blame printer text (some .range)
      (none, if printer.plain then p else { p with stopped := true, fatal := true })
    | (n, fault?) =>
      (some (max (-widestField) (min widestField n)), p.blame printer text fault?)

def refuse (p : Printed) (printer : Printer) (d : Directive) : Printed :=
  { p with
    faults := p.faults ++ [String.ofList d.source ++ ": " ++ formatParts.invalidText printer]
    stopped := true
    fatal := true }

def convert (p : Printed) (printer : Printer) (d : Directive) : Printed :=
  let (width, p) := p.measured printer d.width
  let (precision, p) := p.measured printer d.precision
  let d := if width.any (· < 0) then { d with flags := '-' :: d.flags } else d
  let field := (width.getD 0).natAbs
  let places := precision.bind fun n => if n < 0 then none else some n.toNat
  let cut := fun (cs : List Char) => match places with
    | some n => cs.take n
    | none => cs
  if p.stopped then p else
  match d.conversion, notation? d.conversion (d.flags.contains '#') (places.getD 6) .zero with
  | 's', _ =>
    let (text, p) := p.next
    p.emit (inField d.flags field [] (cut text.toList) false)
  | 'c', _ =>
    let (text, p) := p.next
    p.emit (inField d.flags field [] [(text.toList.head?).getD (Char.ofNat 0)] false)
  | 'b', _ =>
    let (text, p) := p.next
    let r := resolved printer.escapes text.toList
    { p.emit (inField d.flags field [] (cut r.1) false) with stopped := !r.2 }
  | c, some _ =>
    let (text, p) := p.next
    let (negative, f, fault?) := fractionOf text
    let f := f.rounded printer.bits
    let body := (notation? c (d.flags.contains '#') (places.getD 6) f).getD []
    (p.emit (inField d.flags field (signOf d.flags negative) body (d.flags.contains '0'))).blame
      printer text fault?
  | 'q', none =>
    if printer.plain then p.refuse printer d
    else
      let (text, p) := p.next
      p.emit (quoted text.toList)
  | c, none =>
    if c = 'd' || c = 'i' then
      let (text, p) := p.next
      let (value, fault?) := integer (-0x8000000000000000) 0x7fffffffffffffff text
      (p.emit (signedField d field places value)).blame printer text fault?
    else if "ouxX".contains c then
      let (text, p) := p.next
      let (value, fault?) := integer (-0xffffffffffffffff) 0xffffffffffffffff text
      (p.emit (unsignedField d field places value)).blame printer text fault?
    else p.refuse printer d

def once (printer : Printer) : Printed → List FormatPart → Printed
  | p, [] => p
  | p, part :: parts =>
    if p.stopped then p
    else
      match part with
      | .text cs => once printer (p.emit cs) parts
      | .stop => { p with stopped := true }
      | .broken message =>
        { p with faults := p.faults ++ [message], stopped := true, fatal := true }
      | .convert d => once printer (p.convert printer d) parts

def all (printer : Printer) (parts : List FormatPart) : Nat → Printed → Printed
  | 0, p => p
  | n + 1, p =>
    let p := once printer { p with used := false } parts
    if p.stopped || !p.used || p.arguments = [] then p else all printer parts n p

end Printed

def printed (printer : Printer) (format : String) (arguments : List String) : Printed :=
  let parts := formatParts printer (format.length + 1) format.toList
  Printed.all printer parts (arguments.length + 1) { arguments }

def optionIn? (word : String) : Option Char :=
  match word.toList with
  | '-' :: c :: _ => if word = "--" then none else some c
  | _ => none

def printf (printer : Printer) : Utility := fun words _ =>
  let option? := if printer.plain then words.head?.bind optionIn? else none
  match option?, (if words.head? = some "--" then words.drop 1 else words) with
  | some c, _ => complaint "printf" ("Illegal option -" ++ String.singleton c) 2
  | none, [] =>
    if printer.plain then complaint "printf" "usage: printf format [arg ...]" 2
    else misuse "printf" "missing operand" 1
  | none, format :: arguments =>
    let p := printed printer format arguments
    { output := String.ofList p.output
      errors := String.join (p.faults.map fun f => "printf: " ++ f ++ "\n")
      status := if p.faults = [] then 0 else if printer.plain && p.fatal then 2 else 1 }

end WindowsListing.Unix.Utility
