import WindowsListing.Unix.Number
import WindowsListing.Unix.Utility

/-!
# Printing

Escapes, and the utilities that echo their arguments.
-/

set_option autoImplicit false

namespace WindowsListing.Unix.Utility

structure EscapeRules where
  hexadecimal : Bool
  characters : Bool
  leadingZero : Bool

def EscapeRules.plain : EscapeRules := ⟨false, false, true⟩

def EscapeRules.full : EscapeRules := ⟨true, false, true⟩

def EscapeRules.widest : EscapeRules := ⟨true, true, true⟩

def simpleEscape? : Char → Option Char
  | '\\' => some '\\'
  | 'a' => some '\x07'
  | 'b' => some '\x08'
  | 'e' => some '\x1b'
  | 'f' => some '\x0c'
  | 'n' => some '\n'
  | 'r' => some '\r'
  | 't' => some '\t'
  | 'v' => some '\x0b'
  | _ => none

def byteOf (n : Nat) : Char := Char.ofNat (n % 256)

def hexadecimalAhead (most : Nat) (cs : List Char) : List Char :=
  (cs.takeWhile fun c => (Number.value? 16 [c]).isSome).take most

def named? (length : Nat) (cs : List Char) : Option (List Char) :=
  let digits := hexadecimalAhead length cs
  if digits.length = length then
    (Number.value? 16 digits).map fun n =>
      (Bytes.ofText (String.singleton (Char.ofNat n))).toList
  else none

/-- What the escape behind a backslash stands for, and how many characters it
takes. No text at all means that the output ends here. -/
def escape? (rules : EscapeRules) (cs : List Char) : Option (Option (List Char) × Nat) :=
  match cs with
  | [] => none
  | c :: rest =>
    match simpleEscape? c with
    | some d => some (some [d], 1)
    | none =>
      if c = 'c' then some (none, 1)
      else if Number.isOctal c then
        let ahead := if c = '0' && rules.leadingZero then 1 else 0
        let digits := ((cs.drop ahead).takeWhile Number.isOctal).take 3
        some (some [byteOf ((Number.valueFrom? 8 0 digits).getD 0)], ahead + digits.length)
      else if rules.hexadecimal && c = 'x' then
        let digits := hexadecimalAhead 2 rest
        (Number.value? 16 digits).map fun n => (some [byteOf n], 1 + digits.length)
      else if rules.characters && c = 'u' then (named? 4 rest).map fun text => (some text, 5)
      else if rules.characters && c = 'U' then (named? 8 rest).map fun text => (some text, 9)
      else none

/-- A text with its escapes resolved, and whether the output goes on behind it. -/
def resolved (rules : EscapeRules) : List Char → List Char × Bool
  | [] => ([], true)
  | '\\' :: cs =>
    match escape? rules cs with
    | some (some text, n) =>
      let r := resolved rules (cs.drop n)
      (text ++ r.1, r.2)
    | some (none, _) => ([], false)
    | none =>
      let r := resolved rules cs
      ('\\' :: r.1, r.2)
  | c :: cs =>
    let r := resolved rules cs
    (c :: r.1, r.2)
termination_by cs => cs.length

def resolvedText (rules : EscapeRules) (text : String) : String × Bool :=
  let r := resolved rules text.toList
  (String.ofList r.1, r.2)

def isEchoOption (word : String) : Bool :=
  match word.toList with
  | '-' :: c :: cs => (c :: cs).all fun d => d = 'n' || d = 'e' || d = 'E'
  | _ => false

def echoLine (newline escapes : Bool) (rules : EscapeRules) (words : List String) : String :=
  let text := " ".intercalate words
  if escapes then
    match resolvedText rules text with
    | (shown, true) => shown ++ (if newline then "\n" else "")
    | (shown, false) => shown
  else text ++ (if newline then "\n" else "")

def echo : Utility := fun words _ =>
  let letters := String.join (words.takeWhile isEchoOption)
  let escapes := (letters.toList.filter fun c => c = 'e' || c = 'E').getLast? = some 'e'
  { output := echoLine (!letters.contains 'n') escapes .full (words.dropWhile isEchoOption) }

def plainEcho : Utility := fun words _ =>
  { output := match words with
      | "-n" :: words => echoLine false true .plain words
      | words => echoLine true true .plain words }

end WindowsListing.Unix.Utility
