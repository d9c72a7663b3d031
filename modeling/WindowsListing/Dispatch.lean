import WindowsListing.Cheatsheet
import WindowsListing.Commands
import WindowsListing.Console
import WindowsListing.Manual
import WindowsListing.Runner

/-!
# Dispatch

What becomes of one request: the text it prints, the commands it hands to the
runner, the records it logs and how it ends. Text printed before a failure
stays printed.
-/

set_option autoImplicit false

namespace WindowsListing

inductive Failure where
  | launch (e : LaunchError)
  | interrupted
  | crashed (text : String)
  | missing (entry : Entry)
  | noPath
  deriving DecidableEq

structure Trace where
  output : String := ""
  calls : List ProcessCommand := []
  records : List Record := []
  result : Except Failure Int

namespace Trace

def printed (text : String) : Trace := { output := text, result := .ok 0 }

def failed (f : Failure) : Trace := { result := .error f }

def after (text : String) (t : Trace) : Trace := { t with output := text ++ t.output }

def noted (r : Record) (t : Trace) : Trace := { t with records := r :: t.records }

end Trace

def info (message : String) : Record := ⟨.dispatcher, .info, message⟩

def failing (message : String) : Record := ⟨.dispatcher, .error, message⟩

/-- Runs a command in a shell. A failure of the system itself is reported as
one to launch the shell. -/
def runIn (run : Runner) (shell : Shell) (command : NativeCommand) : Trace :=
  let handed := shell.handOver command.render
  let reply := run handed
  let ended (records : List Record) (result : Except Failure Int) : Trace :=
    { output := reply.output, calls := [handed], records := reply.records ++ records, result }
  match reply.finish with
  | .exited code =>
    ended
      (if code = 0 then []
        else [info (command.program ++ " exited with status " ++ toString code)])
      (.ok code)
  | .launchFailed e => ended [] (.error (.launch e))
  | .systemFailed e =>
    ended [failing ("Error running " ++ shell.executable ++ ": " ++ e.message)]
      (.error (.launch ⟨shell.executable, e.message⟩))
  | .interrupted => ended [] (.error .interrupted)
  | .crashed text => ended [] (.error (.crashed text))

def treeCommand (path : String) : NativeCommand :=
  { program := "tree", arguments := ["/F", Path.argument path] }

def runTree (run : Runner) (r : Request) : Trace :=
  match r.paths with
  | [] => .failed .noPath
  | path :: _ => runIn run .cmd (treeCommand path)

section
variable (console : Console)

def explanation (settings : ConsoleSettings) (c : Commands) : String :=
  console.print settings (labelled .bold "Command (cmd.exe):    " c.dir.render) ++
  console.print settings (labelled .bold "Command (PowerShell): " c.powershell.render) ++
  console.print settings [] ++
  console.print settings (labelled .bold "Description: " c.description)

def announcement (settings : ConsoleSettings) (shell : Shell) (line : String) : String :=
  console.print settings (labelled .boldGreen ("Executing (" ++ shell.name ++ "): ") line) ++
  console.print settings (bare "---")

/-- Shows or runs the commands of a request, as its mode says. -/
def carryOut (run : Runner) (r : Request) (c : Commands) : Trace :=
  let settings := ConsoleSettings.ofChoice r.flags.color
  let command := c.command r.shell
  match r.mode with
  | .explain => .printed (explanation console settings c)
  | .native => .printed (command.render ++ "\n")
  | .teach =>
    (runIn run r.shell command).after
      (explanation console settings c ++ announcement console settings r.shell command.render)
  | _ => runIn run r.shell command

/-- Puts the commands together, logs the one of the chosen shell, and carries on. -/
def runListing (run : Runner) (r : Request) : Trace :=
  match Fragments.standard.commands r.flags r.paths with
  | .error entry => .failed (.missing entry)
  | .ok c =>
    (carryOut console run r c).noted
      (info ("Translated to (" ++ r.shell.name ++ "): " ++ (c.command r.shell).render))

def runMode (run : Runner) (r : Request) : Trace :=
  match r.mode with
  | .rosetta => .printed Cheatsheet.text
  | .help => .printed Manual.text
  | .version => .printed Manual.versionLine
  | .tree => runTree run r
  | _ => runListing console run r

def execute (run : Runner) (r : Request) : Trace :=
  (runMode console run r).noted (info ("Running in " ++ r.mode.name ++ " mode"))

end

end WindowsListing
