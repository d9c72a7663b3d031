import WindowsListing.Unix.Sight
import WindowsListing.Unix.Utility.Options

/-!
# Facts about a host

The programs that tell who is at work and on what machine: the main user is
the only one who is.
-/

set_option autoImplicit false

namespace WindowsListing.Unix.Utility

/-- The text of a fact that nothing may be asked about. -/
def fact (name text : String) : Utility := fun words _ =>
  let o := Options.read {} words
  o.checked name 1 <|
  match o.operands with
  | [] => { output := text ++ "\n" }
  | extra :: _ => misuse name ("extra operand " ++ inMarks extra) 1

def whoami : Utility := fact "whoami" "root"

def arch : Utility := fact "arch" "x86_64"

def logname : Utility := fun words w =>
  let e := fact "logname" "" words w
  if e.status = 0 then complaint "logname" "no login name" 1 else e

def sync : Utility := fun words _ =>
  let o := Options.read { plain := "df", long := [("data", 'd'), ("file-system", 'f')] } words
  o.checked "sync" 1 {}

def tty : Utility := fun words _ =>
  let o := Options.read
    { plain := "s", long := [("silent", 's'), ("quiet", 's')] } words
  o.checked "tty" 2 <|
  match o.operands with
  | [] => { output := if o.has 's' then "" else "not a tty\n", status := 1 }
  | extra :: _ => misuse "tty" ("extra operand " ++ inMarks extra) 2

def hostname : Utility := fun words w =>
  if words.all fun word => ["-s", "-f", "--short", "--fqdn"].contains word then
    { output := ((w.find "/etc/hostname" true).toOption.map (World.textOf w.files)).getD "" }
  else complaint "hostname" "you must be root to change the host name" 1

/-- What is told of a machine, by the letters that ask for it. -/
def machineFacts : List (Char × String) :=
  [('s', "Linux"), ('n', "plain"), ('r', "6.1.0"), ('v', "#1 SMP"), ('m', "x86_64"),
   ('p', "x86_64"), ('i', "x86_64"), ('o', "GNU/Linux")]

def uname : Utility := fun words _ =>
  let o := Options.read
    { plain := "asnrvmpio"
      long := [("all", 'a'), ("kernel-name", 's'), ("nodename", 'n'), ("kernel-release", 'r'),
        ("kernel-version", 'v'), ("machine", 'm'), ("processor", 'p'),
        ("hardware-platform", 'i'), ("operating-system", 'o')] } words
  o.checked "uname" 1 <|
  match o.operands with
  | [] =>
    let asked := machineFacts.filter fun f =>
      o.has 'a' || o.has f.1 || (o.given = [] && f.1 = 's')
    { output := " ".intercalate (asked.map (·.2)) ++ "\n" }
  | extra :: _ => misuse "uname" ("extra operand " ++ inMarks extra) 1

def isMainUser (name : String) : Bool := name = "root" || name = "0" || name = "+0"

def id_ : Utility := fun words _ =>
  let o := Options.read
    { plain := "agGnruzZ"
      long := [("group", 'g'), ("groups", 'G'), ("name", 'n'), ("real", 'r'), ("user", 'u'),
        ("zero", 'z')] } words
  let asked := "ugG".toList.filter o.has
  let strangers := o.operands.filter fun name => !isMainUser name
  let answer := if asked = [] then "uid=0(root) gid=0(root) groups=0(root)"
    else if o.has 'n' then "root" else "0"
  let close := if o.has 'z' then String.singleton (Char.ofNat 0) else "\n"
  o.checked "id" 1 <|
  if asked.length > 1 then complaint "id" "cannot print \"only\" of more than one choice" 1
  else if asked = [] && (o.has 'n' || o.has 'r') then
    complaint "id" "cannot print only names or real IDs in default format" 1
  else if asked = [] && o.has 'z' then
    complaint "id" "option --zero not permitted in default format" 1
  else
    { output := String.join (List.replicate
        (if o.operands = [] then 1 else o.operands.length - strangers.length) (answer ++ close))
      errors := unlines (strangers.map fun name =>
        "id: " ++ inMarks name ++ ": no such user")
      status := if strangers = [] then 0 else 1 }

def groups : Utility := fun words _ =>
  let o := Options.read {} words
  let strangers := o.operands.filter fun name => !isMainUser name
  o.checked "groups" 1
    { output := if o.operands = [] then "root\n"
        else unlines ((o.operands.filter isMainUser).map (· ++ " : root"))
      errors := unlines (strangers.map fun name => "groups: " ++ inMarks name ++ ": no such user")
      status := if strangers = [] then 0 else 1 }

end WindowsListing.Unix.Utility
