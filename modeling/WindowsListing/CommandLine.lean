import WindowsListing.Switch
import WindowsListing.Alias

/-!
# Command lines

A command line is read word by word. Words before the first `--` may be
options, all words behind it are paths. Reading fails at the first word that
looks like an option and is none.
-/

set_option autoImplicit false

namespace WindowsListing

/-- Why a word is no option. The token is the offending word, or the
offending letter of a cluster written as an option of its own. -/
inductive UsageError where
  | unknownOption (token : String)
  | unknownColor (token value : String)
  | worded (token text : String)
  deriving DecidableEq

namespace UsageError

def token : UsageError → String
  | .unknownOption token => token
  | .unknownColor token _ => token
  | .worded token _ => token

def message : UsageError → String
  | .unknownOption token => "Unknown option: " ++ token
  | .unknownColor _ value => "Unknown color option: " ++ value
  | .worded _ text => text

/-- A complaint in words of the caller's choice. No words, or empty ones, give the usual text. -/
def ofWording (token : String) (text : Option String) : UsageError :=
  match text with
  | some text => if text = "" then .unknownOption token else .worded token text
  | none => .unknownOption token

end UsageError

theorem map_eq_error_iff {α β : Type} (x : Except UsageError α) (f : α → β) (e : UsageError) :
    x.map f = .error e ↔ x = .error e := by
  cases x <;> simp [Except.map]

/-- A long option has a name, and a value if an equals sign follows the name. -/
structure LongOption where
  name : String
  value : Option String
  deriving DecidableEq

def LongOption.ofChars (cs : List Char) : LongOption where
  name := String.ofList (cs.takeWhile (· ≠ '='))
  value :=
    match cs.dropWhile (· ≠ '=') with
    | [] => none
    | _ :: value => some (String.ofList value)

/-- The switch of a long option, whose whole word is the token. Color alone
takes a value, and need not have one. -/
def LongOption.switch (token : String) (o : LongOption) : Except UsageError Switch :=
  if o.name = "color" then
    match o.value with
    | none => .ok (.color .auto)
    | some value =>
      match ColorChoice.ofValue? value with
      | some choice => .ok (.color choice)
      | none => .error (.unknownColor token value)
  else
    match o.value, Switch.ofName? o.name with
    | none, some s => .ok s
    | _, _ => .error (.unknownOption token)

def cluster : List Char → Except UsageError (List Switch)
  | [] => .ok []
  | c :: cs =>
    match Switch.ofLetter? c with
    | some s => (cluster cs).map (s :: ·)
    | none => .error (.unknownOption (String.ofList ['-', c]))

inductive Word where
  | path (path : String)
  | options (switches : List Switch)
  deriving DecidableEq

namespace Word

def ofToken (token : String) : Except UsageError Word :=
  match token.toList with
  | '-' :: '-' :: cs => ((LongOption.ofChars cs).switch token).map fun s => .options [s]
  | '-' :: c :: cs => (cluster (c :: cs)).map .options
  | _ => .ok (.path token)

def switches : Word → List Switch
  | .path _ => []
  | .options ss => ss

def paths : Word → List String
  | .path p => [p]
  | .options _ => []

def ofTokens : List String → Except UsageError (List Word)
  | [] => .ok []
  | t :: ts =>
    match ofToken t with
    | .error e => .error e
    | .ok w => (ofTokens ts).map (w :: ·)

theorem ofTokens_cons_ok (t : String) (ts : List String) (ws : List Word) :
    ofTokens (t :: ts) = .ok ws ↔
      ∃ v vs, ofToken t = .ok v ∧ ofTokens ts = .ok vs ∧ ws = v :: vs := by
  cases ht : ofToken t with
  | error e => simp [ofTokens, ht]
  | ok v => cases hts : ofTokens ts <;> simp [ofTokens, ht, hts, Except.map, eq_comm]

/-- Words read one after the other, up to the first failure. -/
theorem ofTokens_append (ss ts : List String) :
    ofTokens (ss ++ ts) =
      match ofTokens ss with
      | .error e => .error e
      | .ok vs => (ofTokens ts).map (vs ++ ·) := by
  induction ss with
  | nil => cases h : ofTokens ts <;> simp [ofTokens, h, Except.map]
  | cons s ss ih =>
    cases hs : ofToken s with
    | error e => simp [ofTokens, hs]
    | ok v =>
      cases hss : ofTokens ss with
      | error e => simp [ofTokens, hs, ih, hss, Except.map]
      | ok vs => cases h : ofTokens ts <;> simp [ofTokens, hs, ih, hss, h, Except.map]

end Word

def optionPart (argv : List String) : List String := argv.takeWhile (· ≠ "--")

def pathPart (argv : List String) : List String := (argv.dropWhile (· ≠ "--")).drop 1

def Request.ofParts (ss : List Switch) (paths : List String) : Request :=
  { Request.turnOnAll {} ss with paths := if paths = [] then ["."] else paths }

def Request.ofWords (ws : List Word) (rest : List String) : Request :=
  Request.ofParts (ws.flatMap Word.switches) (ws.flatMap Word.paths ++ rest)

def parse (argv : List String) : Except UsageError Request :=
  (Word.ofTokens (optionPart argv)).map fun ws => Request.ofWords ws (pathPart argv)

theorem ofParts_paths_ne_nil (ss : List Switch) (paths : List String) :
    (Request.ofParts ss paths).paths ≠ [] := by
  by_cases h : paths = [] <;> simp [Request.ofParts, h]

/-- Reads the arguments of a program called under the given name. -/
def parseAs (program : Option String) (argv : List String) : Except UsageError Request :=
  parse (impliedOptions program ++ argv)

theorem parseAs_none (argv : List String) : parseAs none argv = parse argv := rfl

theorem parseAs_paths_ne_nil (program : Option String) (argv : List String) (r : Request)
    (h : parseAs program argv = .ok r) : r.paths ≠ [] := by
  rw [parseAs, parse] at h
  cases hw : Word.ofTokens (optionPart (impliedOptions program ++ argv)) with
  | error e =>
    rw [hw] at h
    cases h
  | ok ws =>
    rw [hw] at h
    rw [← Except.ok.inj h]
    exact ofParts_paths_ne_nil _ _

end WindowsListing
