/-!
# Scripts

What a script of a Unix shell consists of: words, whose parts may have to be
expanded, redirections, and commands built of them.
-/

set_option autoImplicit false

namespace WindowsListing.Unix.Script

inductive Use where
  | plain
  | length
  | orElse (colon : Bool)
  | orAssign (colon : Bool)
  | orFail (colon : Bool)
  | ifSet (colon : Bool)
  | withoutFront (longest : Bool)
  | withoutBack (longest : Bool)
  | faulty
  deriving DecidableEq

inductive Opening where
  | input
  | output
  | force
  | append
  | both
  | duplicate
  | here
  deriving DecidableEq

mutual
/-- A part of a word. What is quoted is neither split nor matched with names.
A pair of double quotes is a part of its own, so that it counts where it is empty. -/
inductive Part where
  | text (quoted : Bool) (cs : List Char)
  | quotation (inner : List Part)
  | parameter (quoted : Bool) (name : String) (use : Use) (word : List Part)
  | command (quoted : Bool) (c : Command)
  | arithmetic (quoted : Bool) (expression : List Part)

inductive Redirection where
  | leads (descriptor : Nat) (opening : Opening) (target : List Part)

inductive Command where
  | nothing
  | simple (line : Nat) (assignments : List (String × List Part)) (words : List (List Part))
      (redirections : List Redirection)
  | pipeline (commands : List Command)
  | negated (c : Command)
  | both (c d : Command)
  | either (c d : Command)
  | sequence (c d : Command)
  | background (c : Command)
  | subshell (c : Command) (redirections : List Redirection)
  | conditional (test body otherwise : Command)
  | loop (until_ : Bool) (test body : Command)
  | each (name : String) (words : Option (List (List Part))) (body : Command)
  | choice (word : List Part) (branches : List (List (List Part) × Command))
  | define (name : String) (body : Command)
  | redirected (c : Command) (redirections : List Redirection)
end

abbrev Word := List Part

def withText (quoted : Bool) (cs : List Char) : Word → Word
  | .text q ds :: word => if q = quoted then .text q (cs ++ ds) :: word
    else .text quoted cs :: .text q ds :: word
  | word => .text quoted cs :: word

def bareText? : Word → Option String
  | [.text false cs] => some (String.ofList cs)
  | _ => none

end WindowsListing.Unix.Script
