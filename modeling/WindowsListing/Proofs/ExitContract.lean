import WindowsListing.Console.Piped
import WindowsListing.Proofs.Dispatch
import WindowsListing.Session

/-!
# Exit codes

What a caller learns from one call: the exit code, the complaint, and whether
the runner was called. A call that cannot be read and a mode that prints run
nothing. A mode that runs makes one call and passes its exit code on. Nothing
but a crash of the runner leaves a call without an exit code: a request that
was read has a path, and the standard table lacks nothing.
-/

set_option autoImplicit false

namespace WindowsListing

variable (console : Console)

/-- Complaint and exit code of a call, by the way its command finished in a shell. -/
def Finish.reported (shell : Shell) : Finish → String × Except Failure Int
  | .exited code => ("", .ok code)
  | .launchFailed e =>
    ("ls-wrapper: failed to run " ++ e.program ++ ": " ++ e.reason ++ "\n", .ok 127)
  | .systemFailed e =>
    ("ls-wrapper: failed to run " ++ shell.executable ++ ": " ++ e.message ++ "\n", .ok 127)
  | .interrupted => ("", .ok 130)
  | .crashed text => ("", .error (.crashed text))

/-- What the report of a call says to its caller. -/
structure Contract (call : Call) (report : Report) : Prop where
  unread : ∀ e, parseAs call.program call.argv = .error e →
    report.result = .ok 2 ∧ report.output = "" ∧ report.calls = [] ∧
      report.complaint = "ls-wrapper: " ++ e.message ++ "\n" ++
        "Try 'ls --help' for more information.\n"
  printed : ∀ r, parseAs call.program call.argv = .ok r → r.mode.runs = false →
    report.result = .ok 0 ∧ report.complaint = "" ∧ report.calls = []
  ran : ∀ r, parseAs call.program call.argv = .ok r → r.mode.runs = true →
    report.calls = [r.handed] ∧
      (report.complaint, report.result) = (call.runner r.handed).finish.reported r.runShell
  escaped : ∀ f, report.result = .error f →
    ∃ handed text, report.calls = [handed] ∧ (call.runner handed).finish = .crashed text ∧
      f = .crashed text

theorem complaintLine_eq (message : String) :
    complaintLine message = "ls-wrapper: " ++ message ++ "\n" := by
  have hname : Manual.programName ++ ": " = "ls-wrapper: " := by decide
  rw [complaintLine, hname]

theorem launchError_message (e : LaunchError) :
    e.message = "failed to run " ++ e.program ++ ": " ++ e.reason := by
  delta LaunchError.message
  rfl

theorem complaintLine_launch (e : LaunchError) :
    complaintLine e.message =
      "ls-wrapper: failed to run " ++ e.program ++ ": " ++ e.reason ++ "\n" := by
  have hlead : "ls-wrapper: " ++ "failed to run " = "ls-wrapper: failed to run " := by decide
  rw [complaintLine_eq, launchError_message, ← hlead]
  simp only [String.append_assoc]

theorem settled_ended (shell : Shell) (finish : Finish) :
    Call.settled (finish.ended shell) = finish.reported shell := by
  cases finish with
  | launchFailed e => rw [Finish.ended, Call.settled, complaintLine_launch]; rfl
  | systemFailed e => rw [Finish.ended, Call.settled, complaintLine_launch]; rfl
  | exited code => rfl
  | interrupted => rfl
  | crashed text => rfl

theorem reported_eq_error (shell : Shell) (finish : Finish) (f : Failure)
    (h : (finish.reported shell).2 = .error f) :
    ∃ text, finish = .crashed text ∧ f = .crashed text := by
  cases finish with
  | crashed text => exact ⟨text, rfl, (Except.error.inj h).symm⟩
  | _ => cases h

theorem run_unread (before : Verbosity) (call : Call) (e : UsageError)
    (h : parseAs call.program call.argv = .error e) :
    (call.run console before).result = .ok 2 ∧ (call.run console before).output = "" ∧
      (call.run console before).calls = [] ∧
      (call.run console before).complaint = "ls-wrapper: " ++ e.message ++ "\n" ++
        "Try 'ls --help' for more information.\n" := by
  rw [Call.run, h]
  exact ⟨rfl, rfl, rfl, congrArg (· ++ hintLine) (complaintLine_eq e.message)⟩

theorem run_read (before : Verbosity) (call : Call) (r : Request)
    (h : parseAs call.program call.argv = .ok r) :
    (call.run console before).calls = (execute console call.runner r).calls ∧
      ((call.run console before).complaint, (call.run console before).result) =
        Call.settled (execute console call.runner r).result := by
  rw [Call.run, h]
  exact ⟨rfl, rfl⟩

theorem run_printed (before : Verbosity) (call : Call) (r : Request)
    (h : parseAs call.program call.argv = .ok r) (hm : r.mode.runs = false) :
    (call.run console before).result = .ok 0 ∧ (call.run console before).complaint = "" ∧
      (call.run console before).calls = [] := by
  obtain ⟨hcalls, hsettled⟩ := run_read console before call r h
  obtain ⟨hnone, hok⟩ := execute_printing console call.runner r hm
  rw [hok] at hsettled
  rw [hnone] at hcalls
  obtain ⟨hcomplaint, hresult⟩ := Prod.mk.inj hsettled
  exact ⟨hresult, hcomplaint, hcalls⟩

theorem run_ran (before : Verbosity) (call : Call) (r : Request)
    (h : parseAs call.program call.argv = .ok r) (hm : r.mode.runs = true) :
    (call.run console before).calls = [r.handed] ∧
      ((call.run console before).complaint, (call.run console before).result) =
        (call.runner r.handed).finish.reported r.runShell := by
  obtain ⟨hcalls, hsettled⟩ := run_read console before call r h
  obtain ⟨hone, hend⟩ := execute_running console call.runner r hm
    (parseAs_paths_ne_nil call.program call.argv r h)
  rw [hend, settled_ended] at hsettled
  exact ⟨hcalls.trans hone, hsettled⟩

theorem run_escaped (before : Verbosity) (call : Call) (f : Failure)
    (hf : (call.run console before).result = .error f) :
    ∃ handed text, (call.run console before).calls = [handed] ∧
      (call.runner handed).finish = .crashed text ∧ f = .crashed text := by
  cases h : parseAs call.program call.argv with
  | error e =>
    rw [(run_unread console before call e h).1] at hf
    cases hf
  | ok r =>
    cases hm : r.mode.runs with
    | false =>
      rw [(run_printed console before call r h hm).1] at hf
      cases hf
    | true =>
      obtain ⟨hcalls, hsettled⟩ := run_ran console before call r h hm
      have hsecond := congrArg Prod.snd hsettled
      rw [hf] at hsecond
      obtain ⟨text, hfinish, htext⟩ := reported_eq_error _ _ f hsecond.symm
      exact ⟨r.handed, text, hcalls, hfinish, htext⟩

/-- Every call keeps the contract, whether it is given its arguments or takes
them from the words of the process. -/
theorem contract_of_run (before : Verbosity) :
    (∀ call : Call, Contract call (call.run console before)) ∧
      ∀ name argv program runner, ∃ call : Call,
        Call.ofWords? (name :: argv) program runner = some call ∧
          call.argv = argv ∧ call.program = some (program.getD name) ∧ call.runner = runner ∧
          Contract call (call.run console before) := by
  have hkeep : ∀ call : Call, Contract call (call.run console before) := fun call =>
    { unread := run_unread console before call
      printed := run_printed console before call
      ran := run_ran console before call
      escaped := run_escaped console before call }
  refine ⟨hkeep, ?_⟩
  intro name argv program runner
  cases program with
  | none => exact ⟨_, rfl, rfl, rfl, rfl, hkeep _⟩
  | some p => exact ⟨_, rfl, rfl, rfl, rfl, hkeep _⟩

/-- A tree that PowerShell is asked for, a lesson in PowerShell that is taken
without permission, and a letter that stands for nothing. -/
theorem contract_of_run_failing :
    let denied : Runner := fun _ =>
      { output := "x", finish := .systemFailed (.numbered 13 "Permission denied") }
    let tree : Call := { argv := ["--tree", "--powershell", "--", "a b/c"], runner := denied }
    let taught : Call := { argv := ["--teach", "--ps"], program := some "la", runner := denied }
    let unknown : Call := { argv := ["-lx"], runner := denied }
    ((tree.run .piped .quiet).calls = [.line "cmd.exe /C tree /F \"a b\\c\""] ∧
      (tree.run .piped .quiet).complaint =
        "ls-wrapper: failed to run cmd.exe: [Errno 13] Permission denied\n" ∧
      (tree.run .piped .quiet).result = .ok 127) ∧
    ((taught.run .piped .quiet).calls = [.words "powershell.exe" ["-NoProfile", "-Command",
        "Get-ChildItem -Force -Path . | " ++
          "Format-Table Mode, LastWriteTime, Length, Name -AutoSize"]] ∧
      (taught.run .piped .quiet).complaint =
        "ls-wrapper: failed to run powershell.exe: [Errno 13] Permission denied\n" ∧
      (taught.run .piped .quiet).result = .ok 127) ∧
    (unknown.run .piped .quiet).complaint =
        "ls-wrapper: Unknown option: -x\nTry 'ls --help' for more information.\n" ∧
      (unknown.run .piped .quiet).result = .ok 2 := by
  intro denied tree taught unknown
  have hkeep := (contract_of_run .piped .quiet).1
  obtain ⟨htree, htreeEnd⟩ := (hkeep tree).ran _ rfl rfl
  obtain ⟨htaught, htaughtEnd⟩ := (hkeep taught).ran _ rfl rfl
  obtain ⟨hunknown, -, -, hcomplaint⟩ := (hkeep unknown).unread _ rfl
  obtain ⟨htreeComplaint, htreeCode⟩ := Prod.mk.inj htreeEnd
  obtain ⟨htaughtComplaint, htaughtCode⟩ := Prod.mk.inj htaughtEnd
  refine ⟨⟨htree.trans ?_, htreeComplaint.trans ?_, htreeCode⟩,
    ⟨htaught.trans ?_, htaughtComplaint.trans ?_, htaughtCode⟩, hcomplaint.trans ?_, hunknown⟩
  all_goals decide

end WindowsListing
