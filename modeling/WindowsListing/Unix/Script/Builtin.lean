import WindowsListing.Unix.Script.Redirect

/-!
# Commands of the shell itself

What the commands have in common that a shell performs in its own process,
because they change or show its own state: their options, their numbers, and
the way in which they show values.
-/

set_option autoImplicit false

namespace WindowsListing.Unix.Script
open Activity

abbrev Builtin := Interpreter → List String → Activity Nat

namespace Builtin

/-- Reads the options in front of arguments. The letters that take a value have
a colon behind them. -/
def optionsUpTo (letters : List Char) :
    Nat → List String → Except String (List (Char × String) × List String)
  | 0, words => .ok ([], words)
  | _, [] => .ok ([], [])
  | n + 1, word :: words =>
    match word.toList with
    | ['-', '-'] => .ok ([], words)
    | '-' :: c :: cs =>
      match letters.dropWhile (· ≠ c) with
      | [] => .error ("Illegal option -" ++ String.singleton c)
      | _ :: ':' :: _ =>
        match cs, words with
        | [], [] => .error ("No arg for -" ++ String.singleton c ++ " option")
        | [], value :: words =>
          (optionsUpTo letters n words).map fun r => ((c, value) :: r.1, r.2)
        | cs, words =>
          (optionsUpTo letters n words).map fun r => ((c, String.ofList cs) :: r.1, r.2)
      | _ =>
        let rest := if cs = [] then words else String.ofList ('-' :: cs) :: words
        (optionsUpTo letters n rest).map fun r => ((c, "") :: r.1, r.2)
    | _ => .ok ([], word :: words)

def options (letters : String) (words : List String) :
    Activity (List (Char × String) × List String) := do
  match optionsUpTo letters.toList ((words.map String.length).foldl (· + ·) 1) words with
  | .ok r => return r
  | .error message => fail message

def count (text : String) : Activity Nat := do
  match Number.count? text with
  | some n => return n
  | none => fail ("Illegal number: " ++ text)

def countOr (fallback : Nat) (words : List String) : Activity Nat := do
  match words with
  | [] => return fallback
  | word :: _ => count word

/-- The runs of characters that are apostrophes, and of those that are not, by turns. -/
def quotedRuns : Nat → List Char → List Char
  | 0, _ => []
  | n + 1, cs =>
    let plain := cs.takeWhile (· ≠ '\'')
    let rest := cs.drop plain.length
    let marks := rest.takeWhile (· = '\'')
    let behind := rest.drop marks.length
    '\'' :: plain ++ '\'' :: (if marks = [] then [] else '"' :: marks ++ ['"']) ++
      (if behind = [] then [] else quotedRuns n behind)

def inQuotes (text : String) : String :=
  String.ofList (quotedRuns (text.length + 1) text.toList)

def assigned (word : String) : String × Option String :=
  let name := word.toList.takeWhile (· ≠ '=')
  match word.toList.drop name.length with
  | _ :: value => (String.ofList name, some (String.ofList value))
  | [] => (word, none)

def place (rows : Nat) (name : String) : Nat :=
  let codes := name.toList.map Char.toNat
  codes.foldl (· + ·) (codes.headD 0 * 16) % 0x8000 % rows

def tabulated {α : Type} (rows : Nat) (entries : List (String × α)) : List (String × α) :=
  entries.mergeSort fun a b => place rows a.1 ≤ place rows b.1

def show_ (text : String) : Activity Nat := do
  if text = "" then return 0
  else
    match ← Task.write 1 text with
    | .ok _ => return 0
    | .error _ => refuse ((← get).command ++ ": I/O error") 1

def unlines (lines : List String) : String := String.join (lines.map (· ++ "\n"))

end Builtin

end WindowsListing.Unix.Script
