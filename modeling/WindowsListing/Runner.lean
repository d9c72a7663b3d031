import WindowsListing.Log
import WindowsListing.Shell
import WindowsListing.Text.Quoted

/-!
# Runners

A runner is handed a command and replies. It is known by its replies alone.
-/

set_option autoImplicit false

namespace WindowsListing

structure LaunchError where
  program : String
  reason : String
  deriving DecidableEq

def LaunchError.message (e : LaunchError) : String :=
  "failed to run " ++ e.program ++ ": " ++ e.reason

/-- A failure of the operating system, with as much as is known of it. -/
inductive SystemError where
  | unexplained
  | explained (text : String)
  | numbered (number : Int) (text : String)
  | onFile (number : Int) (text file : String)
  deriving DecidableEq

def SystemError.message : SystemError → String
  | .unexplained => ""
  | .explained text => text
  | .numbered number text => "[Errno " ++ toString number ++ "] " ++ text
  | .onFile number text file =>
    "[Errno " ++ toString number ++ "] " ++ text ++ ": " ++ Text.quoted file

/-- What the system itself says of a failure, which may be nothing. -/
def SystemError.text : SystemError → String
  | .numbered _ text => text
  | .onFile _ text _ => text
  | _ => ""

/-- A failure is put down to what the system says, or else to the whole message. -/
def SystemError.reason (e : SystemError) : String := if e.text = "" then e.message else e.text

inductive Finish where
  | exited (code : Int)
  | launchFailed (e : LaunchError)
  | systemFailed (e : SystemError)
  | interrupted
  | crashed (text : String)
  deriving DecidableEq

structure Reply where
  output : String := ""
  records : List Record := []
  finish : Finish

abbrev Runner := ProcessCommand → Reply

end WindowsListing
