import WindowsListing.Unix.Script.Words

/-!
# Reading commands

A script is read one complete line at a time. A line goes on where a
quotation, a document or a compound command is still open.
-/

set_option autoImplicit false

namespace WindowsListing.Unix.Script

/-- What stands ahead behind blanks and a comment, and behind ends of lines if asked. -/
def ahead (lines : Bool) : Bool → List Char → List Char
  | _, [] => []
  | true, '\n' :: cs => if lines then ahead lines false cs else '\n' :: cs
  | true, _ :: cs => ahead lines true cs
  | false, '\\' :: '\n' :: cs => ahead lines false cs
  | false, c :: cs =>
    if isBlank c || isSeam c || (lines && c = '\n') then ahead lines false cs
    else if c = '#' then ahead lines true cs
    else c :: cs

def skip (cs : List Char) : List Char := ahead false false cs

def skipLines (cs : List Char) : List Char := ahead true false cs

def reserved : List String :=
  ["!", "\x7b", "\x7d", "case", "do", "done", "elif", "else", "esac", "fi", "for", "if", "in",
   "then", "until", "while"]

def wordAhead (cs : List Char) : String :=
  let word := cs.takeWhile fun c => !isMeta c && !"\\'\"$".contains c && c ≠ backquote
  match cs.drop word.length with
  | [] => String.ofList word
  | c :: _ => if isMeta c then String.ofList word else ""

def shown (token : String) : String := "\"" ++ token ++ "\""

structure Arrow where
  descriptor : Nat
  opening : Opening
  cuts : Bool := false

def arrow? (cs : List Char) : Option (Arrow × List Char) :=
  let (given, cs) := match cs with
    | c :: rest => if c.isDigit then (some (c.toNat - '0'.toNat), rest) else (none, cs)
    | [] => (none, cs)
  let source := given.getD 0
  let target := given.getD 1
  match cs with
  | '<' :: '<' :: '-' :: cs => some (⟨source, .here, true⟩, cs)
  | '<' :: '<' :: cs => some (⟨source, .here, false⟩, cs)
  | '<' :: '&' :: cs => some (⟨source, .duplicate, false⟩, cs)
  | '<' :: '>' :: cs => some (⟨source, .both, false⟩, cs)
  | '<' :: cs => some (⟨source, .input, false⟩, cs)
  | '>' :: '>' :: cs => some (⟨target, .append, false⟩, cs)
  | '>' :: '&' :: cs => some (⟨target, .duplicate, false⟩, cs)
  | '>' :: '|' :: cs => some (⟨target, .force, false⟩, cs)
  | '>' :: cs => some (⟨target, .output, false⟩, cs)
  | _ => none

def token (cs : List Char) : Option (String × List Char) :=
  match cs with
  | [] => none
  | '\n' :: rest => some ("newline", rest)
  | ';' :: ';' :: rest => some (shown ";;", rest)
  | '&' :: '&' :: rest => some (shown "&&", rest)
  | '|' :: '|' :: rest => some (shown "||", rest)
  | c :: rest =>
    if ";&|()".contains c then some (shown (String.singleton c), rest)
    else if let some (_, rest) := arrow? cs then some ("redirection", rest)
    else if reserved.contains (wordAhead cs) then some (shown (wordAhead cs), cs)
    else some ("word", cs)

def faultAt (expecting : Option String) (cs : List Char) : Fault :=
  match token cs with
  | none => { reason := .ended expecting }
  | some (name, rest) => { reason := .unexpected name expecting, left := newlines rest }

def expect (token : String) (cs : List Char) : Except Fault (List Char) :=
  if token = ")" then
    match cs with
    | ')' :: cs => .ok cs
    | cs => .error (faultAt (some (shown token)) cs)
  else if wordAhead cs = token then .ok (cs.drop token.length)
  else .error (faultAt (some (shown token)) cs)

def parenthesis (cs : List Char) : Except Fault (List Char) :=
  match cs with
  | ')' :: cs => .ok cs
  | c :: _ => if isMeta c then .error (faultAt (some (shown ")")) cs)
    else Fault.before (.unexpected "word" (some (shown ")"))) cs
  | [] => Fault.atEnd (.ended (some (shown ")")))

def endsAhead (cs : List Char) : Bool :=
  match cs with
  | [] => true
  | ')' :: _ => true
  | ';' :: ';' :: _ => true
  | cs =>
    ["then", "else", "elif", "fi", "do", "done", "esac", "\x7d"].contains (wordAhead cs)

def document (delimiter : List Char) (cuts : Bool) : Nat → List Char → List Char × List Char
  | 0, cs => ([], cs)
  | _, [] => ([], [])
  | n + 1, cs =>
    let line := cs.takeWhile (· ≠ '\n')
    let rest := cs.drop (line.length + 1)
    let line' := if cuts then line.dropWhile (· = '\t') else line
    if line' = delimiter then ([], rest)
    else
      let end_ := if line.length < cs.length then ['\n'] else []
      let (text, rest) := document delimiter cuts n rest
      (line' ++ end_ ++ text, rest)

/-- The word that ends a document, where nothing is expanded: its characters,
whether some are quoted, and what follows. Inside a quotation its mark is given. -/
def delimiter : Option Char → List Char → Except Fault (List Char × Bool × List Char)
  | none, [] => .ok ([], false, [])
  | some _, [] => Fault.atEnd .quotation
  | none, ['\\'] => .ok (['\\'], false, [])
  | some '"', ['\\'] => Fault.atEnd .quotation
  | none, '\\' :: c :: cs =>
    if c = '\n' then delimiter none cs
    else (delimiter none cs).map fun r => (c :: r.1, true, r.2.2)
  | some '"', '\\' :: c :: cs =>
    (delimiter (some '"') cs).map fun r =>
      (if c = '\n' then r.1
       else if "$\"\\".contains c || c = backquote then c :: r.1
       else '\\' :: c :: r.1, r.2)
  | none, c :: cs =>
    if isMeta c then .ok ([], false, c :: cs)
    else if c = '"' || c = '\'' then
      (delimiter (some c) cs).map fun r => (r.1, true, r.2.2)
    else (delimiter none cs).map fun r => (c :: r.1, r.2)
  | some mark, c :: cs =>
    if c = mark then delimiter none cs
    else (delimiter (some mark) cs).map fun r => (c :: r.1, r.2)

def assignment? : Word → Option (String × Word)
  | .text false cs :: word =>
    let name := String.ofList (cs.takeWhile (· ≠ '='))
    match cs.drop name.length with
    | '=' :: value =>
      if isName name then
        some (name, if value = [] then word else .text false value :: word)
      else none
    | _ => none
  | _ => none

structure Simple where
  line : Nat
  assignments : List (String × Word) := []
  words : List Word := []
  redirections : List Redirection := []

def Simple.isEmpty (s : Simple) : Bool :=
  s.assignments.isEmpty && s.words.isEmpty && s.redirections.isEmpty

def Simple.onlyWord? (s : Simple) : Option Word :=
  match s.words with
  | [word] => if s.assignments.isEmpty && s.redirections.isEmpty then some word else none
  | _ => none

def Simple.add (s : Simple) (word : Word) : Simple :=
  match if s.words.isEmpty then assignment? word else none with
  | some a => { s with assignments := s.assignments ++ [a] }
  | none => { s with words := s.words ++ [word] }

def Command.under (rs : List Redirection) (c : Command) : Command :=
  match rs, c with
  | [], c => c
  | rs, .subshell c _ => .subshell c rs
  | rs, c => .redirected c rs

def specialCommands : List String :=
  [":", ".", "break", "continue", "eval", "exec", "exit", "export", "local", "readonly", "return",
   "set", "shift", "times", "trap", "unset"]

structure Page where
  lines : Nat
  aliases : List (String × String) := []

/-- The sign behind the text of an alias, which tells whether that ends in a blank. -/
def seam (number : Nat) (blank : Bool) : Char :=
  Char.ofNat (256 + 2 * number + (if blank then 1 else 0))

def isBlankSeam (c : Char) : Bool := isSeam c && c.toNat % 2 = 1

def Page.replaced? (p : Page) (cs : List Char) : Option (List Char) :=
  let word := wordAhead cs
  (p.aliases.findIdx? fun a => a.1 = word).bind fun number =>
    let text := ((p.aliases.lookup word).getD "").toList
    let rest := cs.drop word.length
    if rest.contains (seam number true) || rest.contains (seam number false) then none
    else
      let blank := text.getLast?.any isBlank
      some (text ++ seam number blank :: rest)

def Page.unaliasedUpTo (p : Page) : Nat → List Char → List Char
  | 0, cs => cs
  | n + 1, cs =>
    if reserved.contains (wordAhead cs) then cs
    else
      match p.replaced? cs with
      | some cs => unaliasedUpTo p n (skip cs)
      | none => cs

def Page.unaliased (p : Page) (cs : List Char) : List Char :=
  if p.aliases.isEmpty then cs else p.unaliasedUpTo (p.aliases.length + 1) cs

def endedBlank (cs rest : List Char) : Bool :=
  (cs.take (cs.length - rest.length)).any isBlankSeam

mutual
def list (p : Page) : Nat → Bool → List Char → Except Fault (Command × List Char)
  | 0, _, cs => .error (faultAt none cs)
  | n + 1, within, cs => do
    let cs := if within then skipLines cs else skip cs
    let (c, rest) ← if within && cs.isEmpty then pure (Command.nothing, []) else andOr p n cs
    let rest := skip rest
    match rest with
    | ';' :: ';' :: _ => return (c, rest)
    | ';' :: rest => following p n within c rest
    | '&' :: rest => following p n within (.background c) rest
    | '\n' :: after => if within then following p n within c after else return (c, rest)
    | _ => return (c, rest)

def following (p : Page) :
    Nat → Bool → Command → List Char → Except Fault (Command × List Char)
  | 0, _, _, cs => .error (faultAt none cs)
  | n + 1, within, c, cs => do
    let cs := if within then skipLines cs else skip cs
    if endsAhead cs || (!within && cs.head? = some '\n') then return (c, cs)
    else
      let (d, rest) ← list p n within cs
      return (.sequence c d, rest)

def andOr (p : Page) : Nat → List Char → Except Fault (Command × List Char)
  | 0, cs => .error (faultAt none cs)
  | n + 1, cs => do
    let (c, rest) ← pipeline p n cs
    andOrMore p n c (skip rest)

def andOrMore (p : Page) : Nat → Command → List Char → Except Fault (Command × List Char)
  | 0, _, cs => .error (faultAt none cs)
  | n + 1, c, cs =>
    match cs with
    | '&' :: '&' :: cs => do
      let (d, rest) ← pipeline p n (skipLines cs)
      andOrMore p n (.both c d) (skip rest)
    | '|' :: '|' :: cs => do
      let (d, rest) ← pipeline p n (skipLines cs)
      andOrMore p n (.either c d) (skip rest)
    | cs => .ok (c, cs)

def pipeline (p : Page) : Nat → List Char → Except Fault (Command × List Char)
  | 0, cs => .error (faultAt none cs)
  | n + 1, cs => do
    let cs := p.unaliased cs
    if wordAhead cs = "!" then
      let (cmds, rest) ← stages p n (skip (cs.drop 1))
      return (.negated (ofStages cmds), rest)
    else
      let (cmds, rest) ← stages p n cs
      return (ofStages cmds, rest)
where
  ofStages : List Command → Command
    | [c] => c
    | cmds => .pipeline cmds

def stages (p : Page) : Nat → List Char → Except Fault (List Command × List Char)
  | 0, cs => .error (faultAt none cs)
  | n + 1, cs => do
    let (c, rest) ← command p n cs
    let rest := skip rest
    match rest with
    | '|' :: '|' :: _ => return ([c], rest)
    | '|' :: rest =>
      let (cmds, rest) ← stages p n (skipLines rest)
      return (c :: cmds, rest)
    | _ => return ([c], rest)

def command (p : Page) : Nat → List Char → Except Fault (Command × List Char)
  | 0, cs => .error (faultAt none cs)
  | n + 1, cs =>
    match p.unaliased cs with
    | '(' :: cs => do
      let (c, rest) ← list p n true cs
      redirections p n (.subshell c []) [] (← expect ")" rest)
    | cs => do
      match wordAhead cs with
      | "\x7b" =>
        let (c, rest) ← list p n true (cs.drop 1)
        redirections p n c [] (← expect "\x7d" rest)
      | "if" =>
        let (c, rest) ← conditional p n (cs.drop 2)
        redirections p n c [] rest
      | "while" => looping p n false (cs.drop 5)
      | "until" => looping p n true (cs.drop 5)
      | "for" => each p n (skip (cs.drop 3))
      | "case" => choice p n (skip (cs.drop 4))
      | other =>
        if reserved.contains other then .error (faultAt none cs)
        else simple p n { line := p.lines + 1 - newlines cs } cs

def redirections (p : Page) :
    Nat → Command → List Redirection → List Char → Except Fault (Command × List Char)
  | 0, _, _, cs => .error (faultAt none cs)
  | n + 1, c, rs, cs =>
    match arrow? (skip cs) with
    | some (arrow, cs) => do
      let (r, rest) ← redirection p n arrow cs
      redirections p n c (rs ++ [r]) rest
    | none => .ok (c.under rs, skip cs)

/-- Reads what a redirection leads to. A document is cut out of the lines that follow. -/
def redirection (p : Page) :
    Nat → Arrow → List Char → Except Fault (Redirection × List Char)
  | 0, _, cs => .error (faultAt none cs)
  | n + 1, arrow, cs => do
    let cs := skip cs
    if arrow.opening = .here then
      let (mark, quoted, rest) ← delimiter none cs
      if (mark = [] && !quoted) || (arrow? cs).isSome then .error (faultAt none cs)
      else
        let line := rest.takeWhile (· ≠ '\n')
        let (text, after) := document mark arrow.cuts (rest.length + 1)
          (rest.drop (line.length + 1))
        let rest := line ++ '\n' :: after
        if quoted then return (.leads arrow.descriptor .here [.text true text], rest)
        else
          let (body, _) ← leaving after (parts (commands p n) (text.length + 1) .document text)
          return (.leads arrow.descriptor .here body, rest)
    else
      let (word, rest) ← parts (commands p n) (cs.length + 1) .bare cs
      if word.isEmpty || (arrow? cs).isSome then .error (faultAt none cs)
      else return (.leads arrow.descriptor arrow.opening word, rest)

def conditional (p : Page) : Nat → List Char → Except Fault (Command × List Char)
  | 0, cs => .error (faultAt none cs)
  | n + 1, cs => do
    let (test, rest) ← list p n true cs
    let (body, rest) ← list p n true (← expect "then" rest)
    match wordAhead rest with
    | "elif" =>
      let (otherwise, rest) ← conditional p n (rest.drop 4)
      return (.conditional test body otherwise, rest)
    | "else" =>
      let (otherwise, rest) ← list p n true (rest.drop 4)
      return (.conditional test body otherwise, ← expect "fi" rest)
    | _ => return (.conditional test body .nothing, ← expect "fi" rest)

def looping (p : Page) : Nat → Bool → List Char → Except Fault (Command × List Char)
  | 0, _, cs => .error (faultAt none cs)
  | n + 1, until_, cs => do
    let (test, rest) ← list p n true cs
    let (body, rest) ← list p n true (← expect "do" rest)
    redirections p n (.loop until_ test body) [] (← expect "done" rest)

def each (p : Page) : Nat → List Char → Except Fault (Command × List Char)
  | 0, cs => .error (faultAt none cs)
  | n + 1, cs => do
    let name := wordAhead cs
    if !isName name then Fault.before .variable (((token cs).map (·.2)).getD [])
    else
      let cs := skipLines (cs.drop name.length)
      let (words, cs) ←
        if wordAhead cs = "in" then
          let (words, rest) ← wordList p n (cs.drop 2)
          match rest with
          | ';' :: rest => pure (some words, rest)
          | '\n' :: rest => pure (some words, rest)
          | rest => throw (faultAt none rest)
        else pure (none, match cs with
          | ';' :: rest => rest
          | cs => cs)
      let (body, rest) ← list p n true (← expect "do" (skipLines cs))
      redirections p n (.each name words body) [] (← expect "done" rest)

def wordList (p : Page) : Nat → List Char → Except Fault (List Word × List Char)
  | 0, cs => .error (faultAt none cs)
  | n + 1, cs => do
    let cs := skip cs
    let (word, rest) ← parts (commands p n) (cs.length + 1) .bare cs
    if word.isEmpty then return ([], rest)
    else
      let (words, rest) ← wordList p n rest
      return (word :: words, rest)

def choice (p : Page) : Nat → List Char → Except Fault (Command × List Char)
  | 0, cs => .error (faultAt none cs)
  | n + 1, cs => do
    let (word, rest) ← parts (commands p n) (cs.length + 1) .bare cs
    if word.isEmpty then .error (faultAt (some "word") cs)
    else
      let (branches, rest) ← branches p n (← expect "in" (skipLines rest))
      redirections p n (.choice word branches) [] rest

def branches (p : Page) :
    Nat → List Char → Except Fault (List (List Word × Command) × List Char)
  | 0, cs => .error (faultAt none cs)
  | n + 1, cs => do
    let cs := skipLines cs
    if wordAhead cs = "esac" then return ([], cs.drop 4)
    else
      let (patterns, rest) ← alternatives p n (match cs with
        | '(' :: cs => skip cs
        | cs => cs)
      let rest := skipLines rest
      let (body, rest) ←
        if endsAhead rest then pure (Command.nothing, rest) else list p n true rest
      match rest with
      | ';' :: ';' :: rest =>
        let (more, rest) ← branches p n rest
        return ((patterns, body) :: more, rest)
      | rest =>
        if wordAhead rest = "esac" then return ([(patterns, body)], rest.drop 4)
        else .error (faultAt (some (shown ";;")) rest)

def alternatives (p : Page) : Nat → List Char → Except Fault (List Word × List Char)
  | 0, cs => .error (faultAt none cs)
  | n + 1, cs => do
    let cs := skip cs
    let (word, rest) ← if (arrow? cs).isSome then pure ([], cs)
      else parts (commands p n) (cs.length + 1) .bare cs
    let rest := if word.isEmpty then ((token rest).map (·.2)).getD [] else rest
    match skip rest with
    | '|' :: rest =>
      let (words, rest) ← alternatives p n rest
      return (word :: words, rest)
    | rest => return ([word], ← parenthesis rest)

/-- Reads a simple command. An alias may stand in front of it, and behind one
whose text ends in a blank. -/
def simple (p : Page) :
    Nat → Simple → List Char → Except Fault (Command × List Char)
  | 0, _, cs => .error (faultAt none cs)
  | n + 1, s, cs => do
    let start := cs
    let cs := skip cs
    let cs := if s.words.isEmpty || endedBlank start cs then p.unaliased cs else cs
    match arrow? cs with
    | some (arrow, rest) =>
      let (r, rest) ← redirection p n arrow rest
      simple p n { s with redirections := s.redirections ++ [r] } rest
    | none =>
      match cs, s.onlyWord? with
      | '(' :: rest, some name =>
        let rest ← parenthesis (skip rest)
        match bareText? name with
        | some name =>
          if isName name && !specialCommands.contains name then
            let (body, rest) ← command p n (skipLines rest)
            return (.define name body, rest)
          else Fault.before .name rest
        | none => Fault.before .name rest
      | cs, _ =>
        let (word, rest) ← parts (commands p n) (cs.length + 1) .bare cs
        if !word.isEmpty then
          let line := if s.isEmpty then p.lines + 1 - newlines rest else s.line
          simple p n ({ s with line }.add word) rest
        else if s.isEmpty then .error (faultAt none cs)
        else return (.simple s.line s.assignments s.words s.redirections, cs)

/-- Reads commands behind the sign of a substitution: up to the parenthesis
that closes them, or as far as they go. -/
def commands (p : Page) : Nat → Bool → List Char → Except Fault (Command × List Char)
  | 0, _, cs => .error (faultAt none cs)
  | n + 1, closed, cs => do
    let cs := skipLines cs
    let (c, rest) ← if endsAhead cs then pure (Command.nothing, cs) else list p n true cs
    match rest, closed with
    | rest, false => return (c, rest)
    | ')' :: rest, true => return (c, rest)
    | rest, true => .error (faultAt (some (shown ")")) rest)
end

def completeLine (p : Page) (cs : List Char) : Except Fault (Command × List Char) :=
  match skip cs with
  | [] => .ok (.nothing, [])
  | '\n' :: rest => .ok (.nothing, rest)
  | cs => do
    let length := cs.length + (p.aliases.map (·.2.length)).foldl (· + ·) 0
    let (c, rest) ← list p (16 * length + 64) false cs
    match rest with
    | [] => return (c, [])
    | '\n' :: rest => return (c, rest)
    | rest => .error (faultAt none rest)

end WindowsListing.Unix.Script
