import WindowsListing.Launch
import WindowsListing.Proofs.ExitContract
import WindowsListing.Proofs.Showing

/-!
# Failures to launch

A command that cannot be launched is reported by the program it names. The
launcher takes that name from the command it was handed, the first word of a
line or the first of several words. Where a runner lets the failure of the
system pass, the dispatcher takes it from the shell it chose. Both are the
executable of that shell, whatever paths are in the line, so nobody who is
told of the failure can say which of the two has caught it.
-/

set_option autoImplicit false

namespace WindowsListing

variable (console : Console)

/-- How a request names the program that cannot be launched for it: as the
executable of one shell, in the command that is handed over, in the failure
caught by the launcher, in the one caught by the dispatcher, and in what a
call says about either. -/
structure NamesExecutable (r : Request) (shell : Shell) : Prop where
  derived : ∀ run, (execute console run r).calls = [r.handed] ∧ r.handed.program = shell.executable
  caught : ∀ host e, host.start r.handed = .refused e →
    (execute console (launch host) r).result = .error (.launch ⟨shell.executable, e.reason⟩)
  passed : ∀ run e, (run r.handed).finish = .systemFailed e →
    (execute console run r).result = .error (.launch ⟨shell.executable, e.message⟩)
  complained : ∀ before (call : Call) reason, parseAs call.program call.argv = .ok r →
    (execute console call.runner r).result = .error (.launch ⟨shell.executable, reason⟩) →
    (call.run console before).result = .ok 127 ∧
      (call.run console before).complaint =
        "ls-wrapper: failed to run " ++ shell.executable ++ ": " ++ reason ++ "\n"

theorem listing_of_runs (mode : Mode) (h : mode.runs = true) (ht : mode ≠ .tree) :
    mode = .teach ∨ mode = .execute := by
  cases mode with
  | tree => exact absurd rfl ht
  | teach => exact Or.inl rfl
  | execute => exact Or.inr rfl
  | _ => exact absurd h (by decide)

theorem execute_handed (run : Runner) (r : Request) (h : r.mode.runs = true)
    (hp : r.mode = .tree → r.paths ≠ []) :
    (execute console run r).calls = [r.handed] ∧
      (execute console run r).result = (run r.handed).finish.ended r.runShell := by
  by_cases ht : r.mode = .tree
  · exact execute_running console run r h (hp ht)
  · have hline : r.handed = r.shell.handOver r.line := by
      rw [Request.handed, Request.runShell, Request.nativeCommand, if_neg ht, if_neg ht,
        Request.line]
    rw [hline, Request.runShell, if_neg ht]
    rcases listing_of_runs r.mode h ht with hteach | hexecute
    · exact (execute_teach console run r hteach).2
    · exact execute_plain console run r hexecute

theorem handed_program (r : Request) : r.handed.program = r.runShell.executable :=
  Shell.handOver_program r.runShell r.nativeCommand.render

theorem launch_refused (host : Host) (command : ProcessCommand) (e : SystemError)
    (h : host.start command = .refused e) :
    (launch host command).finish = .launchFailed ⟨command.program, e.reason⟩ := by
  rw [launch, h]

theorem launch_rejected (host : Host) (command : ProcessCommand) (text : String)
    (h : host.start command = .rejected text) :
    (launch host command).finish = .crashed text := by
  rw [launch, h]

theorem settled_launch (program reason : String) :
    Call.settled (.error (.launch ⟨program, reason⟩)) =
      ("ls-wrapper: failed to run " ++ program ++ ": " ++ reason ++ "\n", .ok 127) :=
  congrArg (·, Except.ok launchFailureCode) (complaintLine_launch ⟨program, reason⟩)

/-- Launcher and dispatcher name the same program, the executable of the shell
that a request runs in, and so does what is written about the failure. For a
tree that shell is cmd.exe, whichever is asked for. -/
theorem launch_failures_named_alike (r : Request) (hm : r.mode.runs = true)
    (hp : r.mode = .tree → r.paths ≠ []) :
    NamesExecutable console r (if r.mode = .tree then .cmd else r.shell) := by
  have hrun (run : Runner) := execute_handed console run r hm hp
  have hprogram := handed_program r
  change NamesExecutable console r r.runShell
  constructor
  case derived =>
    intro run
    exact ⟨(hrun run).1, hprogram⟩
  case caught =>
    intro host e hrefused
    rw [(hrun (launch host)).2, launch_refused host r.handed e hrefused, Finish.ended, hprogram]
  case passed =>
    intro run e hfailed
    rw [(hrun run).2, hfailed, Finish.ended]
  case complained =>
    intro before call reason hread hfailed
    obtain ⟨-, hsettled⟩ := run_read console before call r hread
    rw [hfailed, settled_launch] at hsettled
    obtain ⟨hcomplaint, hresult⟩ := Prod.mk.inj hsettled
    exact ⟨hresult, hcomplaint⟩

/-- A command that is rejected before any system is asked fails in a way of
its own, for which no program is named. -/
theorem rejected_crashes (r : Request) (hm : r.mode.runs = true)
    (hp : r.mode = .tree → r.paths ≠ []) (host : Host) (text : String)
    (h : host.start r.handed = .rejected text) :
    (execute console (launch host) r).result = .error (.crashed text) := by
  rw [(execute_handed console (launch host) r hm hp).2, launch_rejected host r.handed text h,
    Finish.ended]

/-- A tree that PowerShell is asked for, whose failure the runner lets pass,
and a lesson in PowerShell on a host that has no program at all. -/
theorem launch_failures_named_alike_both :
    let tree : Request := { paths := ["a b/c"], tree := true, powershell := true }
    let taught : Request := { flags := { long := true }, paths := [], teach := true }
    let gone : Runner := fun _ => { finish := .systemFailed (.explained "gone") }
    let empty : Host :=
      { start := fun _ => .refused (.onFile 2 "No such file or directory" "powershell.exe") }
    let call : Call := { argv := ["--tree", "--powershell", "a b/c"], runner := gone }
    tree.mode.runs = true ∧ tree.paths ≠ [] ∧ taught.mode.runs = true ∧
      (execute .piped gone tree).result = .error (.launch ⟨"cmd.exe", "gone"⟩) ∧
      (call.run .piped .quiet).complaint = "ls-wrapper: failed to run cmd.exe: gone\n" ∧
      (execute .piped (launch empty) taught).result =
        .error (.launch ⟨"powershell.exe", "No such file or directory"⟩) := by
  intro tree taught gone empty call
  have htree := launch_failures_named_alike .piped tree rfl fun _ => List.cons_ne_nil _ _
  have htaught := launch_failures_named_alike .piped taught rfl fun h => absurd h (by decide)
  have hgone := htree.passed gone (.explained "gone") rfl
  have hread : parseAs call.program call.argv = .ok tree := rfl
  exact ⟨rfl, List.cons_ne_nil _ _, rfl, hgone, (htree.complained .quiet call _ hread hgone).2,
    htaught.caught empty _ rfl⟩

end WindowsListing
