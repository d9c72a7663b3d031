import WindowsListing.CommandLine
import WindowsListing.Dispatch
import WindowsListing.Request.Transcript

/-!
# Sessions

A session is a run of calls. What outlives a call is the verbosity of the
log, set by each call that can be read, and in force from that point on.
-/

set_option autoImplicit false

namespace WindowsListing

structure Call where
  argv : List String
  program : Option String := none
  runner : Runner

/-- A call by the words of a process, the first of which names the program
unless another name is given. -/
def Call.ofWords? (words : List String) (program : Option String) (runner : Runner) :
    Option Call :=
  match words, program with
  | [], none => none
  | [], some name => some { argv := [], program := some name, runner }
  | _ :: argv, some name => some { argv, program := some name, runner }
  | name :: argv, none => some { argv, program := some name, runner }

structure Report where
  output : String := ""
  complaint : String := ""
  calls : List ProcessCommand := []
  records : List Record := []
  verbosity : Verbosity
  result : Except Failure Int

def usageCode : Int := 2

def launchFailureCode : Int := 127

def interruptedCode : Int := 130

def complaintLine (message : String) : String := Manual.programName ++ ": " ++ message ++ "\n"

def hintLine : String := "Try 'ls --help' for more information.\n"

def transcriptMessage (r : Request) : String := "Parsed invocation: " ++ r.transcript

def readerRecords (program : Option String) (argv : List String) : List Record :=
  (match program, impliedOptions program with
    | some name, o :: os =>
      [⟨.reader, .debug, "Alias " ++ Text.quoted name ++ " implies flags " ++
        " ".intercalate (o :: os)⟩]
    | _, _ => []) ++
  (match parseAs program argv with
    | .ok r => [⟨.reader, .debug, transcriptMessage r⟩]
    | .error _ => [])

def Request.verbosity (r : Request) : Verbosity := if r.verbose then .verbose else .quiet

/-- The exit code of a request, and what is written about its failure. -/
def Call.settled : Except Failure Int → String × Except Failure Int
  | .ok code => ("", .ok code)
  | .error (.launch e) => (complaintLine e.message, .ok launchFailureCode)
  | .error .interrupted => ("", .ok interruptedCode)
  | .error f => ("", .error f)

def Call.run (console : Console) (before : Verbosity) (call : Call) : Report :=
  let read := (readerRecords call.program call.argv).filter before.passes
  match parseAs call.program call.argv with
  | .error e =>
    { complaint := complaintLine e.message ++ hintLine
      records := read
      verbosity := before
      result := .ok usageCode }
  | .ok r =>
    let trace := execute console call.runner r
    let sent := ⟨.session, .debug, transcriptMessage r⟩ :: trace.records
    { output := trace.output
      complaint := (Call.settled trace.result).1
      calls := trace.calls
      records := read ++ sent.filter r.verbosity.passes
      verbosity := r.verbosity
      result := (Call.settled trace.result).2 }

def Session.run (console : Console) : Verbosity → List Call → List Report
  | _, [] => []
  | before, call :: calls =>
    let report := call.run console before
    report :: Session.run console report.verbosity calls

theorem session_run_length (console : Console) (before : Verbosity) (calls : List Call) :
    (Session.run console before calls).length = calls.length := by
  induction calls generalizing before with
  | nil => rfl
  | cons call calls ih => simp [Session.run, ih]

end WindowsListing
