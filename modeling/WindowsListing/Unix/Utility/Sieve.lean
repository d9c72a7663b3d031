import WindowsListing.Unix.Utility.Options

/-!
# Sieves

A sieve turns text into text piece by piece, as it comes in. The programs that
are sieves read their operands one after the other, or their input, and write
in blocks.
-/

set_option autoImplicit false

namespace WindowsListing.Unix

structure Sieve (σ : Type) where
  start : σ
  feed : σ → String → σ × String
  finish : σ → String := fun _ => ""
  isDone : σ → Bool := fun _ => false
  excess : σ → Nat := fun _ => 0
  piece : Nat := 4096
  hasty : Bool := false

namespace Sieve

def whole (turn : String → String) : Sieve (List String) where
  start := []
  feed texts text := (text :: texts, "")
  finish texts := turn (String.join texts.reverse)

/-- What a sieve by lines keeps: the start of a line that has not ended yet,
and what it was too late for. -/
structure ByLine (σ : Type) where
  inner : σ
  begun : String := ""
  excess : Nat := 0

def stepAll {σ : Type} (isDone : σ → Bool) (line : σ → String → Bool → σ × String) :
    ByLine σ → String → List String → List String → ByLine σ × String
  | s, begun, [], made => ({ s with begun }, String.join made.reverse)
  | s, begun, l :: ls, made =>
    if isDone s.inner then
      let rest := begun :: l :: ls
      ({ s with begun := "", excess := (rest.map String.length).foldl (· + ·) rest.length - 1 },
        String.join made.reverse)
    else
      let (inner, text) := line s.inner begun true
      stepAll isDone line { s with inner } l ls (text :: made)

def byLine {σ : Type} (start : σ) (line : σ → String → Bool → σ × String)
    (finish : σ → String) (isDone : σ → Bool) : Sieve (ByLine σ) where
  start := { inner := start }
  feed s text :=
    match text.splitOn "\n" with
    | [] => (s, "")
    | l :: ls => stepAll isDone line s (s.begun ++ l) ls []
  finish s :=
    if s.begun = "" || isDone s.inner then finish s.inner
    else
      let (inner, text) := line s.inner s.begun false
      text ++ finish inner
  isDone s := isDone s.inner
  excess s := s.excess + s.begun.length

def mapLines (turn : String → String) : Sieve (ByLine Unit) :=
  byLine () (fun _ l ended => ((), turn l ++ (if ended then "\n" else ""))) (fun _ => "")
    fun _ => false

end Sieve

namespace Program

def outputBlock : Nat := 4096

def release (name held : String) : Task String := do
  let length := held.length
  if length < outputBlock then return held
  else
    let full := length - length % outputBlock
    put name (held.take full).toString
    return (held.drop full).toString

def pour {σ : Type} (name : String) (v : Sieve σ) (descriptor : Nat) :
    Nat → σ → String → Task (σ × String × Option Refusal)
  | 0, s, held => return (s, held, none)
  | n + 1, s, held => do
    if v.isDone s then
      if v.excess s > 0 then
        let _ ← Task.seek descriptor fun offset _ => offset - v.excess s
      return (s, held, none)
    else
      match ← Task.read descriptor v.piece with
      | .error e => return (s, held, some e)
      | .ok "" => return (s, held, none)
      | .ok text => do
        let (s, made) := v.feed s text
        if v.hasty then
          put name made
          pour name v descriptor n s held
        else pour name v descriptor n s (← release name (held ++ made))

structure Excuse where
  unopened : String → Refusal → String
  unread : String → Refusal → String := unopened
  status : Nat := 1

def Excuse.plain : Excuse where
  unopened file e := file ++ ": " ++ e.text

def Excuse.opening (verb : String) : Excuse where
  unopened file e := verb ++ " open '" ++ file ++ "' for reading: " ++ e.text
  unread file e := "error reading '" ++ file ++ "': " ++ e.text

def openOperand (file : String) : Task (Except Refusal Nat) :=
  if file = "-" then return .ok 0 else Task.openAs file .input

/-- Lets operands run through a sieve one behind the other. The number is the
status so far. -/
def pourAll {σ : Type} (name : String) (excuse : Excuse) (v : Sieve σ) :
    List String → σ → String → Nat → Task (σ × String × Nat)
  | [], s, held, status => return (s, held, status)
  | file :: files, s, held, status => do
    if v.isDone s then return (s, held, status)
    else
      match ← openOperand file with
      | .error e => do
        put name held
        Task.complain (name ++ ": " ++ excuse.unopened file e ++ "\n")
        pourAll name excuse v files s "" excuse.status
      | .ok n => do
        let (s, held, trouble?) ← pour name v n Task.enough s held
        if n ≠ 0 then Task.close n
        match trouble? with
        | none => pourAll name excuse v files s held status
        | some e => do
          put name held
          Task.complain (name ++ ": " ++ excuse.unread file e ++ "\n")
          pourAll name excuse v files s "" excuse.status

def filter {σ : Type} (name : String) (excuse : Excuse) (v : Sieve σ) (files : List String) :
    Task Nat := do
  let (s, held, status) ←
    pourAll name excuse v (if files = [] then ["-"] else files) v.start "" 0
  put name (held ++ v.finish s)
  return status

def textOf (file : String) : Task (Except Refusal String) := do
  match ← openOperand file with
  | .error e => return .error e
  | .ok n => do
    let text ← Task.readAll n
    if n ≠ 0 then Task.close n
    return text

end Program

end WindowsListing.Unix
