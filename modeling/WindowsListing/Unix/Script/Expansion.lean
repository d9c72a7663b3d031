import WindowsListing.Unix.Script.Arithmetic
import WindowsListing.Unix.Script.Jobs

/-!
# Expansion

The values that the parts of words stand for. What they need of the running
of commands is handed in.
-/

set_option autoImplicit false

namespace WindowsListing.Unix.Script
open Activity

namespace Expansion

def argument : Purpose := { fields := true }

def single : Purpose := { fields := false }

def assigned : Purpose := { fields := false, colons := true }

def literal : Purpose := { fields := false, tilde := false }

def separators : Activity (List Char) := return ((← valueOf? "IFS").getD " \t\n").toList

/-- The letters of the options in force, in the order in which they are shown. -/
def optionLetters (options : List Char) : String :=
  String.ofList ("ubaCEVvxsnmiIfe".toList.filter options.contains)

def lineNumber (m : Machine) : Activity (Option String) :=
  if m.dialect = .rich then return some (toString m.line) else valueOf? "LINENO"

def parameter? (name : String) : Activity (Option String) := do
  let m ← get
  match name with
  | "?" => return some (toString m.status)
  | "#" => return some (toString m.arguments.length)
  | "$" => return some (toString m.owner)
  | "!" => return m.lastJob.map toString
  | "-" => return some (optionLetters m.options)
  | "0" => return some m.name
  | "LINENO" => lineNumber m
  | name =>
    match name.toNat? with
    | some 0 => return some m.name
    | some n => return m.arguments[n - 1]?
    | none => valueOf? name

def joint (p : Purpose) (quoted : Bool) (name : String) : Activity String := do
  let first := fun (text : String) => (text.take 1).toString
  match ← valueOf? "IFS" with
  | none => return if p.fields && quoted && name = "@" then String.singleton gap else " "
  | some text =>
    if p.fields && (!quoted || name = "@") then return String.singleton gap
    else return first text

def allArguments (p : Purpose) (quoted : Bool) (name : String) : Activity (List Fragment) := do
  let arguments := (← get).arguments
  let cs := ((← joint p quoted name).intercalate arguments).toList
  if !quoted then return [.region false (marked false cs)]
  else if name = "@" && p.fields then
    return if arguments = [] then [] else [.region true (marked true cs)]
  else return [.text true cs]

def result (quoted : Bool) (value : String) : List Fragment :=
  if quoted then [.text true value.toList] else [.region false (marked false value.toList)]

def standIn (quoted : Bool) (fragments : List Fragment) : List Fragment :=
  if quoted then fragments
  else fragments.map fun
    | .text false cs => .region false (marked false cs)
    | f => f

def upToGap (cs : List Char) : List Char := cs.takeWhile (· ≠ gap)

/-- A text without what a pattern matches of its front or its back. Of arguments
that are shown together a pattern sees one at a time: a front or a longest back
is the first one's, and a longest front that is all of it takes the others along. -/
def trimmed (use : Use) (pattern : Marked) (value : String) : String :=
  let ws := Wildcard.ofChars (Wildcard.escaped pattern)
  let cs := value.toList
  let first := upToGap cs
  match use with
  | .withoutFront longest =>
    if longest && Wildcard.covers ws first then ""
    else String.ofList (cs.drop ((Wildcard.front? longest ws first).getD 0))
  | .withoutBack true =>
    match Wildcard.back? true ws first with
    | some length => String.ofList (first.take (first.length - length))
    | none => value
  | .withoutBack false =>
    let backs := List.range (cs.length + 1)
    let length? := backs.find? fun n => Wildcard.covers ws (upToGap (cs.drop (cs.length - n)))
    String.ofList (cs.take (cs.length - length?.getD 0))
  | _ => value

def isAbsent (colon : Bool) : Option String → Bool
  | none => true
  | some value => colon && value = ""

def unset (name : String) : Activity Unit := do
  if (← get).options.contains 'u' then fail (name ++ ": parameter not set")

def parameter (i : Interpreter) (p : Purpose) (quoted : Bool) (name : String) (use : Use)
    (word : Word) : Activity (List Fragment) := do
  let all := name = "@" || name = "*"
  let value? ←
    if all then pure (some ((← joint p quoted name).intercalate (← get).arguments))
    else parameter? name
  let shown : Activity (List Fragment) :=
    if all then allArguments p quoted name else return result quoted (value?.getD "")
  let inner := { p with tilde := true }
  match use with
  | .faulty => fail "Bad substitution"
  | .plain =>
    if value? = none then unset name
    shown
  | .length =>
    if value? = none then unset name
    let value ←
      if all then do pure ((← joint single quoted name).intercalate (← get).arguments)
      else pure (value?.getD "")
    return result quoted (toString value.length)
  | .orElse colon =>
    if isAbsent colon value? then return standIn quoted (← i.expand inner word) else shown
  | .ifSet colon =>
    if isAbsent colon value? then return []
    else return standIn quoted (← i.expand inner word)
  | .orAssign colon =>
    if isAbsent colon value? then
      let value := plainText (joined (← i.expand single word))
      if isName name then
        assign name value
        return result quoted value
      else fail (name ++ ": bad variable name")
    else shown
  | .orFail colon =>
    if isAbsent colon value? then
      let message := plainText (joined (← i.expand single word))
      fail (name ++ ": " ++ (if !word.isEmpty then message
        else if colon then "parameter not set or null" else "parameter not set"))
    else shown
  | use =>
    match value? with
    | none => do
      unset name
      return result quoted ""
    | some value => do
      let text := trimmed use (joined (← i.expand single word)) value
      if quoted && p.fields && name = "@" then return [.region true (marked true text.toList)]
      else return result quoted text

def substitution (i : Interpreter) (c : Command) : Activity String := do
  match c with
  | .nothing => return ""
  | c =>
    let (source, target) ← Task.pipe
    let child ← i.branch do
      Task.close source
      if target ≠ 1 then
        let _ ← Task.duplicate target 1
        Task.close target
      i.run { last := true } c
    Task.close target
    let text := (← Task.readAll source).toOption.getD ""
    Task.close source
    let status ← Jobs.finish [child]
    modify fun m => { m with substituted := status }
    let kept := text.toList.filter (· ≠ Char.ofNat 0)
    return String.ofList ((kept.reverse.dropWhile (· = '\n')).reverse)

def numberIn (m : Machine) (name : String) : Except Trouble Int :=
  match (m.bindings.lookup name).bind (·.value) with
  | none => .ok 0
  | some text => Sum.held text

def shown (text : String) : String := "\"" ++ text ++ "\""

def calculation (text : String) : Activity Int := do
  let m ← get
  let fault : Trouble → Activity Int := fun
    | .expecting what =>
      fail ("arithmetic expression: expecting " ++ what ++ ": " ++ shown text)
    | .zeroDivision => fail ("arithmetic expression: division by zero: " ++ shown text)
    | .overflow => do
      let _ ← Task.kill (← Task.self) 8
      raise .ended
    | .illegal word => fail ("Illegal number: " ++ word)
  match Sum.ofText text with
  | .error t => fault t
  | .ok e =>
    match e.value (numberIn m) [] with
    | .error t => fault t
    | .ok (n, assigned) =>
      for (name, value) in assigned.reverse do
        assign name (toString value)
      return n

/-- Quotation marks count where they are empty, unless they hold the arguments and no more. -/
def quotation (i : Interpreter) (p : Purpose) (inner : List Part) : Activity (List Fragment) := do
  let fragments ← i.expand { p with tilde := false } inner
  match inner with
  | [.parameter _ "@" .plain _] => return fragments
  | _ => return .mark :: fragments

def part (i : Interpreter) (p : Purpose) : Part → Activity (List Fragment)
  | .text quoted cs => return [.text quoted cs]
  | .quotation inner => quotation i p inner
  | .parameter quoted name use word => parameter i p quoted name use word
  | .command quoted c => return result quoted (← substitution i c)
  | .arithmetic quoted expression => do
    let n ← calculation (plainText (joined (← i.expand literal expression)))
    return result quoted (toString n)

def homeOf? (users : String) (user : String) : Option String :=
  (users.splitOn "\n").findSome? fun line =>
    match line.splitOn ":" with
    | name :: _ :: _ :: _ :: _ :: directory :: _ => if name = user then some directory else none
    | _ => none

/-- A text with directories in place of tildes: of one in front, if asked, and
of those behind colons. Nothing follows the last text of a word. -/
def tildedText (home? : String → Option String) (colons last : Bool) :
    Nat → Bool → List Char → List Part
  | 0, _, cs => [.text false cs]
  | _, _, [] => []
  | n + 1, start, cs =>
    let plain := fun (_ : Unit) =>
      if colons then
        let front := cs.takeWhile (· ≠ ':')
        match cs.drop front.length with
        | _ :: behind =>
          .text false (front ++ [':']) :: tildedText home? colons last n true behind
        | [] => [.text false cs]
      else [.text false cs]
    match start, cs with
    | true, '~' :: more =>
      let user := more.takeWhile fun c => c ≠ '/' && !(colons && c = ':')
      let behind := more.drop user.length
      match if behind = [] && !last then none else home? (String.ofList user) with
      | some directory =>
        .text true directory.toList :: tildedText home? colons last n false behind
      | none => plain ()
    | _, _ => plain ()

def tilded (home? : String → Option String) (colons : Bool) : Bool → Word → Word
  | _, [] => []
  | start, .text false cs :: rest =>
    tildedText home? colons rest.isEmpty (cs.length + 1) start cs ++
      tilded home? colons (colons && cs.getLast? = some ':') rest
  | _, part :: rest => part :: tilded home? colons false rest

def hasTilde (word : Word) : Bool :=
  word.any fun
    | .text false cs => cs.contains '~'
    | _ => false

def withHome (p : Purpose) (word : Word) : Activity Word := do
  if p.tilde && hasTilde word then
    let home ← valueOf? "HOME"
    let users ← Task.inspect fun w =>
      match w.files.find 0 "/etc/passwd" true with
      | .ok n => World.textOf w.files n
      | .error _ => ""
    return tilded (fun user => if user = "" then home else homeOf? users user) p.colons true word
  else return word

def expand (i : Interpreter) (p : Purpose) (word : Word) : Activity (List Fragment) := do
  return (← (← withHome p word).mapM (part i p)).flatten

def arguments (i : Interpreter) (word : Word) : Activity (List String) := do
  let fragments ← i.expand argument word
  let made := fields (← separators) fragments
  if (← get).options.contains 'f' || !made.any hasSigns then return made.map plainText
  else
    let (files, directory) ← Task.inspect fun w => (w.files, w.directory)
    return made.flatMap (expandNames files directory)

def text (i : Interpreter) (p : Purpose) (word : Word) : Activity String :=
  return plainText (joined (← i.expand p word))

def pattern (i : Interpreter) (word : Word) : Activity (List Wildcard) :=
  return Wildcard.ofChars (Wildcard.escaped (joined (← i.expand single word)))

end Expansion

end WindowsListing.Unix.Script
