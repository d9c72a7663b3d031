import WindowsListing.Unix.Script.Builtin
import WindowsListing.Unix.Script.Settings

/-!
# Variables

The commands that mark, take away and read variables, and those that change
the arguments and the settings of a script.
-/

set_option autoImplicit false

namespace WindowsListing.Unix.Script.Builtin
open Activity

def sortedVariables (m : Machine) : List (String × Variable) :=
  m.bindings.mergeSort fun a b => a.1 ≤ b.1

def declaration (command : String) (name : String) (v : Variable) : String :=
  command ++ name ++
    (match v.value with
    | some value => "=" ++ inQuotes value
    | none => "") ++ "\n"

def badName (word : String) : Activity Unit :=
  fail ((assigned word).1 ++ ": bad variable name")

def marking (command : String) (held : Variable → Bool) (mark : Variable → Variable) :
    Builtin := fun _ arguments => do
  let (given, words) ← options "p" arguments
  if given ≠ [] || words = [] then
    show_ (String.join ((sortedVariables (← get)).filterMap fun (name, v) =>
      if held v then some (declaration (command ++ " ") name v) else none))
  else
    for word in words do
      let (name, value?) := assigned word
      if !isName name then badName word
      match value? with
      | some value => assign name value
      | none => pure ()
      setVariable name (mark ((← bound? name).getD { value := none }))
    return 0

def export_ : Builtin := marking "export" (·.exported) fun v => { v with exported := true }

def readonly : Builtin := marking "readonly" (·.readOnly) fun v => { v with readOnly := true }

def unset : Builtin := fun _ arguments => do
  let (given, words) ← options "vf" arguments
  for word in words do
    if given.getLast?.map (·.1) = some 'f' then
      modify fun m => { m with functions := m.functions.filter (·.1 ≠ word) }
    else
      if !isName word then badName word
      discard word
  return 0

def makeOwn (exported : Bool) (word : String) : Activity Unit := do
  if word = "-" then save (.options (← get).options)
  else
    let (name, value?) := assigned word
    if !isName name then badName word
    let old ← bound? name
    save (.variable name old)
    match value? with
    | some value => give name (some value) exported
    | none => if old.isNone then give name none exported

def local_ : Builtin := fun _ arguments => do
  match (← get).scopes with
  | [] => fail "not in a function"
  | _ =>
    for word in arguments do
      makeOwn false word
    return 0

def shift : Builtin := fun _ arguments => do
  let n ← countOr 1 arguments
  if n > (← get).arguments.length then fail "can't shift that many"
  else
    modify fun m => { m with
      arguments := m.arguments.drop n, optionIndex := 1, optionOffset := none }
    return 0

def setArguments (arguments : List String) : Activity Unit :=
  modify fun m => { m with arguments, optionIndex := 1, optionOffset := none }

def set_ : Builtin := fun _ arguments => do
  let m ← get
  if arguments = [] then
    show_ (String.join ((sortedVariables m).filterMap fun (name, v) =>
      if v.value.isSome then some (declaration "" name v) else none))
  else
    match Settings.read Settings.changeable false m.options arguments with
    | .error message => fail message
    | .ok s =>
      modify fun m => { m with options := s.letters }
      if s.arguments then setArguments s.rest
      match s.listing with
      | some asCommands => show_ (Settings.table s.letters asCommands)
      | none => return 0

/-- A line as far as it was read: its fragments, and the characters of the one at hand. -/
structure Line where
  fragments : List Fragment := []
  region : List Char := []
  escaped : Bool := false

namespace Line

def closed (l : Line) : Line :=
  { fragments := l.fragments ++ [.region false (marked false l.region)] }

/-- One more character. A backslash keeps the next one from having a meaning,
and an escaped end of the line is nothing. The answer is none at its end. -/
def step? (raw : Bool) (l : Line) (c : Char) : Option Line :=
  if c = gap then some l
  else if l.escaped then
    let l := l.closed
    if c = '\n' then some l else some { l with fragments := l.fragments ++ [.text true [c]] }
  else if c = '\\' && !raw then some { l with escaped := true }
  else if c = '\n' then none
  else some { l with region := l.region ++ [c] }

end Line

def readLine (raw : Bool) : Nat → Line → Activity (Line × Bool)
  | 0, l => return (l, false)
  | n + 1, l => do
    match ← Task.read 0 1 with
    | .ok text =>
      match text.toList.head? with
      | none => return (l.closed, false)
      | some c =>
        match l.step? raw c with
        | some l => readLine raw n l
        | none => return (l.closed, true)
    | .error _ => return (l.closed, false)

def setAll : List String → List Marked → Activity Unit
  | [], _ => pure ()
  | name :: names, fields => do
    if !isName name then badName name
    assign name (plainText (fields.headD []))
    setAll names fields.tail

def read : Builtin := fun _ arguments => do
  let (given, names) ← options "p:r" arguments
  if names = [] then fail "arg count"
  else
    let (line, whole) ← readLine ((given.lookup 'r').isSome) Task.enough {}
    setAll names (fieldsUpTo names.length (← Expansion.separators) line.fragments)
    return if whole then 0 else 1

structure FoundOption where
  letter : String
  value : Option String
  words : Nat
  offset : Option Nat := none
  complaint : String := ""
  finished : Bool := false

def foundOption (letters : List Char) (arguments : List String) (index : Nat) (c : Char)
    (behind : List Char) (offset : Nat) : FoundOption :=
  let quiet := letters.head? = some ':'
  let next := if behind = [] then none else some offset
  let letter := String.singleton c
  match letters.dropWhile (· ≠ c) with
  | [] =>
    if quiet then { letter := "?", value := some letter, words := index, offset := next }
    else
      { letter := "?", value := none, words := index, offset := next
        complaint := "Illegal option -" ++ letter ++ "\n" }
  | _ :: ':' :: _ =>
    if behind ≠ [] then { letter, value := some (String.ofList behind), words := index }
    else
      match arguments[index - 1]? with
      | some value => { letter, value := some value, words := index + 1 }
      | none =>
        if quiet then { letter := ":", value := some letter, words := index }
        else
          { letter := "?", value := none, words := index
            complaint := "No arg for -" ++ letter ++ " option\n" }
  | _ => { letter, value := some "", words := index, offset := next }

/-- The next option of arguments. A place in the word before the next one may be given. -/
def nextOption (letters : List Char) (arguments : List String) (index : Nat)
    (offset? : Option Nat) : FoundOption :=
  let finished := fun (words : Nat) =>
    { letter := "?", value := none, words, finished := true : FoundOption }
  let inside := (offset?.bind fun offset =>
    if index ≤ 1 then none
    else
      match ((arguments[index - 2]?).getD "").toList.drop offset with
      | [] => none
      | c :: behind => some (foundOption letters arguments index c behind (offset + 1)))
  match inside with
  | some found => found
  | none =>
    match ((arguments[index - 1]?).getD "").toList with
    | ['-', '-'] => finished (index + 1)
    | '-' :: c :: behind => foundOption letters arguments (index + 1) c behind 2
    | _ => finished index

def getopts : Builtin := fun _ words => do
  match words with
  | letters :: name :: given =>
    let m ← get
    let arguments := if given = [] then m.arguments else given
    let (index, offset?) := if m.optionIndex > arguments.length + 1 then (1, none)
      else (m.optionIndex, m.optionOffset)
    let found := nextOption letters.toList arguments index offset?
    if found.complaint ≠ "" then write 2 found.complaint
    if !found.finished then
      match found.value with
      | some value => assign "OPTARG" value
      | none => discard "OPTARG"
    assign "OPTIND" (toString found.words)
    if !isName name then badName name
    assign name found.letter
    modify fun m => { m with optionIndex := found.words, optionOffset := found.offset }
    return if found.finished then 1 else 0
  | _ => fail "Usage: getopts optstring var [arg...]"

end WindowsListing.Unix.Script.Builtin
