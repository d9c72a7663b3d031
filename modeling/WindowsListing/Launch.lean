import WindowsListing.Runner

/-!
# Launching

The runner that starts programs on a host. What a host is stays open: it is
known by what comes of the commands that it is handed. Only messages shorten
a line to its first word.
-/

set_option autoImplicit false

namespace WindowsListing

/-- What comes of a command on a host. The status of a process that was killed
is minus the signal. A command that no system can be asked for is rejected
before any system is asked. -/
inductive Attempt where
  | ran (output : String) (status : Int)
  | refused (e : SystemError)
  | rejected (text : String)
  deriving DecidableEq

structure Host where
  start : ProcessCommand → Attempt

def ProcessCommand.shown : ProcessCommand → String
  | .line text => text
  | .words program arguments => Text.quotedList (program :: arguments)

def exitCode (status : Int) : Int := if status < 0 then 128 - status else status

def launch (host : Host) : Runner := fun command =>
  let spawning : Record := ⟨.launcher, .debug, "Spawning: " ++ command.shown⟩
  match host.start command with
  | .ran output status =>
    { output
      records := [spawning, ⟨.launcher, .debug,
        command.program ++ " exited with " ++ toString (exitCode status)⟩]
      finish := .exited (exitCode status) }
  | .refused e =>
    { records := [spawning, ⟨.launcher, .error,
        "Failed to launch " ++ command.program ++ ": " ++ e.message⟩]
      finish := .launchFailed ⟨command.program, e.reason⟩ }
  | .rejected text => { records := [spawning], finish := .crashed text }

end WindowsListing
