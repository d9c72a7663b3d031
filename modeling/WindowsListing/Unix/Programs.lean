import WindowsListing.Unix.Script.Shell
import WindowsListing.Unix.Utility.Calculation
import WindowsListing.Unix.Utility.Changes
import WindowsListing.Unix.Utility.Characters
import WindowsListing.Unix.Utility.Dump
import WindowsListing.Unix.Utility.Editing
import WindowsListing.Unix.Utility.Facts
import WindowsListing.Unix.Utility.Names
import WindowsListing.Unix.Utility.Order
import WindowsListing.Unix.Utility.Sequence
import WindowsListing.Unix.Utility.Starting

/-!
# The programs of a host

The names of the programs that a host has, and what they do.
-/

set_option autoImplicit false

namespace WindowsListing.Unix
open WindowsListing.Unix.Script

namespace Program

def looking : List (String × Utility) :=
  [("true", Utility.outcome 0), ("false", Utility.outcome 1), ("echo", Utility.echo),
   ("printf", Utility.printf .full), ("test", Utility.test .program "test"),
   ("[", Utility.test .program "["), ("expr", Utility.expr), ("seq", Utility.seq),
   ("basename", Utility.basename), ("dirname", Utility.dirname),
   ("realpath", Utility.realpath), ("readlink", Utility.readlink), ("ls", Utility.ls),
   ("stat", Utility.stat), ("whoami", Utility.whoami), ("arch", Utility.arch),
   ("logname", Utility.logname), ("sync", Utility.sync), ("tty", Utility.tty),
   ("hostname", Utility.hostname), ("uname", Utility.uname), ("id", Utility.id_),
   ("groups", Utility.groups)]

def acting : List (String × Program) :=
  [("cat", Utility.cat), ("tac", Utility.tac), ("rev", Utility.rev), ("tee", Utility.tee),
   ("head", Utility.head), ("tail", Utility.tail), ("wc", Utility.wc), ("tr", Utility.tr),
   ("cut", Utility.cut), ("paste", Utility.paste), ("fold", Utility.fold),
   ("expand", Utility.expand), ("unexpand", Utility.unexpand), ("nl", Utility.nl),
   ("sort", Utility.sort), ("uniq", Utility.uniq), ("comm", Utility.comm),
   ("join", Utility.join), ("factor", Utility.factor), ("grep", Utility.grep),
   ("egrep", Utility.egrep), ("fgrep", Utility.fgrep), ("sed", Utility.sed),
   ("od", Utility.od), ("base64", Utility.base64), ("cmp", Utility.cmp),
   ("chmod", Utility.chmod), ("chown", Utility.chown "chown"),
   ("chgrp", Utility.chown "chgrp"), ("mkdir", Utility.mkdir), ("rmdir", Utility.rmdir),
   ("rm", Utility.rm), ("unlink", Utility.unlink), ("touch", Utility.touch),
   ("mkfifo", Utility.mkfifo), ("mktemp", Utility.mktemp), ("truncate", Utility.truncate),
   ("cp", Utility.cp), ("mv", Utility.mv), ("ln", Utility.ln), ("pwd", Utility.pwd),
   ("env", Utility.env), ("printenv", Utility.printenv), ("nice", Utility.nice),
   ("nohup", Utility.nohup), ("setsid", Utility.setsid), ("stdbuf", Utility.stdbuf),
   ("sleep", Utility.sleep), ("timeout", Utility.timeout), ("yes", Utility.yes),
   ("xargs", Utility.xargs), ("which", Utility.which), ("kill", Utility.kill),
   ("sh", shell .plain), ("dash", shell .plain), ("bash", shell .rich)]

def all : List (String × Program) := (looking.map fun u => (u.1, ofUtility u.2)) ++ acting

def named (name : String) : Program := (all.lookup name).getD fun _ _ => return 127

end Program

/-- The programs, as far as they may become each other so many times. -/
def programs : Nat → Programs
  | 0 => { task := fun _ _ => Task.finish (.killed 9) }
  | n + 1 => { task := fun name s => Program.named name (programs n) s }

end WindowsListing.Unix
