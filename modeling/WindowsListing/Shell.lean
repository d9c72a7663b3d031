/-!
# Shells and native commands

The two shells that can list a directory, the command lines they are given,
and the form in which such a line is handed over to be run.
-/

set_option autoImplicit false

namespace WindowsListing

/-- A command as it is handed to whatever runs it: a line that is passed on
as it stands, or a program with its arguments. -/
inductive ProcessCommand where
  | line (text : String)
  | words (program : String) (arguments : List String)
  deriving DecidableEq

def ProcessCommand.ofWords? : List String → Option ProcessCommand
  | [] => none
  | program :: arguments => some (.words program arguments)

/-- The name a command's program goes by in messages. In a line it ends at the first space. -/
def ProcessCommand.program : ProcessCommand → String
  | .line text => String.ofList (text.toList.takeWhile (· ≠ ' '))
  | .words program _ => program

inductive Shell where
  | cmd
  | powershell
  deriving DecidableEq

namespace Shell

def name : Shell → String
  | .cmd => "cmd.exe"
  | .powershell => "PowerShell"

def executable : Shell → String
  | .cmd => "cmd.exe"
  | .powershell => "powershell.exe"

/-- Hands a command line to the shell. The line of cmd.exe must not be quoted
again, so it stays part of one text. -/
def handOver : Shell → String → ProcessCommand
  | .cmd, line => .line (executable .cmd ++ " /C " ++ line)
  | .powershell, line => .words (executable .powershell) ["-NoProfile", "-Command", line]

/-- Either form of a command names the executable of its shell. -/
theorem handOver_program (shell : Shell) (line : String) :
    (shell.handOver line).program = shell.executable := by
  cases shell with
  | cmd => simp [handOver, ProcessCommand.program, executable]
  | powershell => rfl

end Shell

/-- A native command: a program, its arguments, and the stages its output is piped through. -/
structure NativeCommand where
  program : String
  arguments : List String := []
  stages : List String := []
  deriving DecidableEq

def NativeCommand.render (c : NativeCommand) : String :=
  " ".intercalate (c.program :: c.arguments) ++ String.join (c.stages.map (" | " ++ ·))

theorem render_toList (c : NativeCommand) :
    c.render.toList =
      [' '].intercalate ((c.program :: c.arguments).map String.toList) ++
        c.stages.flatMap fun stage => ' ' :: '|' :: ' ' :: stage.toList := by
  simp [NativeCommand.render, String.toList_intercalate, List.flatMap_map]

end WindowsListing
