import WindowsListing.Unix.Bytes
import WindowsListing.Unix.Program

/-!
# Utilities

A utility is a program that only looks: what it says follows from its
arguments and the world.
-/

set_option autoImplicit false

namespace WindowsListing.Unix

structure Effect where
  output : String := ""
  errors : String := ""
  status : Nat := 0

abbrev Utility := List String → World → Effect

namespace Utility

def outcome (status : Nat) : Utility := fun _ _ => { status }

def complaint (name message : String) (status : Nat) : Effect :=
  { errors := name ++ ": " ++ message ++ "\n", status }

def inMarks (word : String) : String := Bytes.ofText "‘" ++ word ++ Bytes.ofText "’"

/-- A complaint about how a utility was called, which points to its help. -/
def misuse (name message : String) (status : Nat) : Effect :=
  complaint name (message ++ "\nTry '" ++ name ++ " --help' for more information.") status

def lines (text : String) : List String :=
  match text.splitOn "\n" with
  | [] => []
  | parts => if parts.getLast? = some "" then parts.dropLast else parts

def unlines (ls : List String) : String := String.join (ls.map (· ++ "\n"))

def chunks {α : Type} (size : Nat) : Nat → List α → List (List α)
  | 0, _ => []
  | n + 1, xs => if xs.isEmpty then [] else xs.take size :: chunks size n (xs.drop size)

end Utility

namespace Program

/-- Writes a part of the output. A program that cannot do that ends. -/
def put (name text : String) : Task Unit := do
  if text = "" then return ()
  else
    match ← Task.write 1 text with
    | .ok _ => return ()
    | .error e => do
      Task.complain (name ++ ": write error: " ++ e.text ++ "\n")
      Task.finish (.exited 1)

def say (name : String) (e : Effect) : Task Nat := do
  if e.errors ≠ "" then Task.complain e.errors
  put name e.output
  return e.status

def ofUtility (u : Utility) : Program := fun _ s => do
  say s.name (← Task.inspect (u s.arguments))

end Program

end WindowsListing.Unix
