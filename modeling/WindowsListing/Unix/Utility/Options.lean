import WindowsListing.Unix.Utility

/-!
# Options of utilities

Clusters of option letters, some of which take a value: the rest of the
cluster, or else the next word. Letters may have long names, which may be
cut short as long as they are not mistaken for each other.
-/

set_option autoImplicit false

namespace WindowsListing.Unix.Utility

inductive Options.Fault where
  | unknown (c : Char)
  | valueless (c : Char)
  | unknownName (word : String)
  | ambiguous (word : String)
  | valuelessName (word : String)
  | extraValue (word : String)
  deriving DecidableEq

def Options.Fault.text : Options.Fault → String
  | .unknown c => "invalid option -- '" ++ String.singleton c ++ "'"
  | .valueless c => "option requires an argument -- '" ++ String.singleton c ++ "'"
  | .unknownName word => "unrecognized option '" ++ word ++ "'"
  | .ambiguous word => "option '" ++ word ++ "' is ambiguous"
  | .valuelessName word => "option '" ++ word ++ "' requires an argument"
  | .extraValue word => "option '" ++ word ++ "' doesn't allow an argument"

structure Options.Known where
  plain : String := ""
  valued : String := ""
  optional : String := ""
  long : List (String × Char) := []
  front : Bool := false

structure Options where
  given : List (Char × String) := []
  operands : List String := []
  fault? : Option Options.Fault := none

namespace Options

def has (o : Options) (c : Char) : Bool := (o.given.lookup c).isSome

def value? (o : Options) (c : Char) : Option String := o.given.reverse.lookup c

def values (o : Options) (c : Char) : List String :=
  (o.given.filter (·.1 = c)).map (·.2)

def last? (o : Options) (letters : String) : Option Char :=
  (o.given.filter fun g => letters.contains g.1).getLast?.map (·.1)

/-- The options of one cluster, and whether the last of them waits for its value. -/
def cluster (k : Known) : List Char → List (Char × String) × Option Char × Option Fault
  | [] => ([], none, none)
  | c :: cs =>
    if k.valued.contains c then
      if cs = [] then ([], some c, none) else ([(c, String.ofList cs)], none, none)
    else if k.optional.contains c then ([(c, String.ofList cs)], none, none)
    else if k.plain.contains c then
      let (given, waiting, fault?) := cluster k cs
      ((c, "") :: given, waiting, fault?)
    else ([], none, some (.unknown c))

def named (k : Known) (name : String) : List Char :=
  match k.long.lookup name with
  | some c => [c]
  | none => ((k.long.filter fun l => l.1.startsWith name).map (·.2)).eraseDups

/-- A long option: what is given by it, and whether it waits for its value. -/
def longOption (k : Known) (word : String) :
    List (Char × String) × Option Char × Option Fault :=
  let name := (word.takeWhile (· ≠ '=')).toString
  let value? := if name.length < word.length then some (word.drop (name.length + 1)).toString
    else none
  match named k (name.drop 2).toString, value? with
  | [c], some value =>
    if k.valued.contains c || k.optional.contains c then ([(c, value)], none, none)
    else ([], none, some (.extraValue name))
  | [c], none => if k.valued.contains c then ([], some c, none) else ([(c, "")], none, none)
  | [], _ => ([], none, some (.unknownName word))
  | _, _ => ([], none, some (.ambiguous word))

def plus (given : List (Char × String)) (o : Options) : Options :=
  { o with given := given ++ o.given }

def read (k : Known) : List String → Options
  | [] => {}
  | word :: words =>
    if word = "--" then { operands := words }
    else
      let read_ := match word.toList with
        | '-' :: '-' :: _ => some (longOption k word)
        | '-' :: c :: cs => some (cluster k (c :: cs))
        | _ => none
      match read_, words with
      | none, words =>
        if k.front then { operands := word :: words }
        else
          let o := read k words
          { o with operands := word :: o.operands }
      | some (_, _, some fault), _ => { fault? := some fault }
      | some (given, none, none), words => (read k words).plus given
      | some (given, some last, none), value :: words =>
        (read k words).plus (given ++ [(last, value)])
      | some (_, some last, none), [] =>
        { fault? := some (if word.startsWith "--" then .valuelessName word else .valueless last) }

def checked (o : Options) (name : String) (status : Nat) (effect : Effect) : Effect :=
  match o.fault? with
  | some fault => misuse name fault.text status
  | none => effect

def orElse (o : Options) (name : String) (status : Nat) (t : Task Nat) : Task Nat :=
  match o.fault? with
  | some fault => Program.say name (misuse name fault.text status)
  | none => t

end Options

end WindowsListing.Unix.Utility
