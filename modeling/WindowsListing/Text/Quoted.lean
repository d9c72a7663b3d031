import WindowsListing.Text.Printable

/-!
# Quoted text

The form in which log lines show a text: between quotation marks, on one
line, every character that does not show as itself written as an escape.
-/

set_option autoImplicit false

namespace WindowsListing.Text

/-- Texts are quoted with single marks. Double ones serve a text that holds
single marks and no double ones. -/
def quotationMark (cs : List Char) : Char :=
  if '\'' ∈ cs ∧ '"' ∉ cs then '"' else '\''

/-- The last `width` hexadecimal digits of a number, in lower case. -/
def hexDigits : Nat → Nat → List Char
  | 0, _ => []
  | width + 1, n => hexDigits width (n / 16) ++ [Nat.digitChar (n % 16)]

/-- The escape of a character by its code point, with two, four or eight digits. -/
def codePointEscape (n : Nat) : List Char :=
  if n < 0x100 then '\\' :: 'x' :: hexDigits 2 n
  else if n < 0x10000 then '\\' :: 'u' :: hexDigits 4 n
  else '\\' :: 'U' :: hexDigits 8 n

def escapeChar (mark c : Char) : List Char :=
  if c = '\\' ∨ c = mark then ['\\', c]
  else if c = '\n' then ['\\', 'n']
  else if c = '\r' then ['\\', 'r']
  else if c = '\t' then ['\\', 't']
  else if isPrintable c then [c]
  else codePointEscape c.toNat

def quotedChars (cs : List Char) : List Char :=
  let mark := quotationMark cs
  mark :: cs.flatMap (escapeChar mark) ++ [mark]

def quoted (s : String) : String := String.ofList (quotedChars s.toList)

def quotedItems (xs : List String) : String := ", ".intercalate (xs.map quoted)

def quotedList (xs : List String) : String := "[" ++ quotedItems xs ++ "]"

def quotedTuple : List String → String
  | [x] => "(" ++ quoted x ++ ",)"
  | xs => "(" ++ quotedItems xs ++ ")"

end WindowsListing.Text
