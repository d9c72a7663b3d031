import WindowsListing.Unix.Script.Machine

/-!
# Settings

The options of a shell: letters behind a sign, or names behind the letter o.
-/

set_option autoImplicit false

namespace WindowsListing.Unix.Script

def optionNames : List (String × Char) :=
  [("errexit", 'e'), ("noglob", 'f'), ("ignoreeof", 'I'), ("interactive", 'i'), ("monitor", 'm'),
   ("noexec", 'n'), ("stdin", 's'), ("xtrace", 'x'), ("verbose", 'v'), ("vi", 'V'),
   ("emacs", 'E'), ("noclobber", 'C'), ("allexport", 'a'), ("notify", 'b'), ("nounset", 'u'),
   ("privileged", 'p'), ("nolog", '0'), ("debug", '1')]

structure Settings where
  letters : List Char
  rest : List String
  arguments : Bool := false
  listing : Option Bool := none

namespace Settings

def turn (on : Bool) (c : Char) (letters : List Char) : List Char :=
  if on then (if letters.contains c then letters else letters ++ [c]) else letters.filter (· ≠ c)

def cluster (known : List Char) (on : Bool) :
    List Char → List Char → Except Char (List Char × Bool)
  | letters, [] => .ok (letters, false)
  | letters, c :: cs =>
    if c = 'o' then (cluster known on letters cs).map fun r => (r.1, true)
    else if known.contains c then cluster known on (turn on c letters) cs
    else .error c

/-- Reads settings up to the first word that is none. A dash alone turns off
what is shown of the commands, unless a shell begins. -/
def read (known : List Char) (begins : Bool) : List Char → List String → Except String Settings
  | letters, [] => .ok { letters, rest := [] }
  | letters, word :: words =>
    match word.toList with
    | ['-'] =>
      let letters := if begins then letters else letters.filter fun c => c ≠ 'x' && c ≠ 'v'
      .ok { letters, rest := words, arguments := words ≠ [] }
    | ['-', '-'] => .ok { letters, rest := words, arguments := true }
    | sign :: c :: cs =>
      if sign = '-' || sign = '+' then
        match cluster known (sign = '-') letters (c :: cs), words with
        | .error c, _ => .error ("Illegal option -" ++ String.singleton c)
        | .ok (letters, false), words => read known begins letters words
        | .ok (letters, true), name :: words =>
          match optionNames.lookup name with
          | some c => read known begins (turn (sign = '-') c letters) words
          | none => .error ("Illegal option -o " ++ name)
        | .ok (letters, true), [] =>
          .ok { letters, rest := [], listing := some (sign = '+') }
      else .ok { letters, rest := word :: words, arguments := true }
    | ['+'] => read known begins letters words
    | _ => .ok { letters, rest := word :: words, arguments := true }

def changeable : List Char := "aefImnpsxvVECbu".toList

def startable : List Char := 'c' :: 'i' :: 'l' :: changeable

def table (letters : List Char) (asCommands : Bool) : String :=
  let row := fun (name : String) (c : Char) =>
    if asCommands then "set " ++ (if letters.contains c then "-o " else "+o ") ++ name ++ "\n"
    else
      let gap := String.ofList (List.replicate (16 - name.length) ' ')
      name ++ gap ++ (if letters.contains c then "on" else "off") ++ "\n"
  (if asCommands then "" else "Current option settings\n") ++
    String.join (optionNames.map fun o => row o.1 o.2)

end Settings

end WindowsListing.Unix.Script
