import WindowsListing.Dispatch
import WindowsListing.Proofs.Commands.Standard

/-!
# What a request runs

A mode either prints and ends well, or hands exactly one command to the
runner and ends as the runner does. The command depends on the request
alone. Text and records around it change neither calls nor result. What is
logged on the way comes from the dispatcher or from the runner itself.
-/

set_option autoImplicit false

namespace WindowsListing

variable (console : Console)

def Mode.runs : Mode → Bool
  | .tree => true
  | .teach => true
  | .execute => true
  | _ => false

/-- The shell a request is run in. A tree is drawn by cmd.exe alone. -/
def Request.runShell (r : Request) : Shell := if r.mode = .tree then .cmd else r.shell

def Request.nativeCommand (r : Request) : NativeCommand :=
  if r.mode = .tree then treeCommand (r.paths.headD "")
  else (listings r.flags r.paths).command r.shell

def Request.handed (r : Request) : ProcessCommand := r.runShell.handOver r.nativeCommand.render

/-- How a run ends, by the way its command finished in a shell. -/
def Finish.ended (shell : Shell) : Finish → Except Failure Int
  | .exited code => .ok code
  | .launchFailed e => .error (.launch e)
  | .systemFailed e => .error (.launch ⟨shell.executable, e.message⟩)
  | .interrupted => .error .interrupted
  | .crashed text => .error (.crashed text)

theorem runIn_calls (run : Runner) (shell : Shell) (c : NativeCommand) :
    (runIn run shell c).calls = [shell.handOver c.render] := by
  cases h : (run (shell.handOver c.render)).finish <;> simp [runIn, h]

theorem runIn_result (run : Runner) (shell : Shell) (c : NativeCommand) :
    (runIn run shell c).result = (run (shell.handOver c.render)).finish.ended shell := by
  cases h : (run (shell.handOver c.render)).finish <;> simp [runIn, h, Finish.ended]

theorem runIn_output (run : Runner) (shell : Shell) (c : NativeCommand) :
    (runIn run shell c).output = (run (shell.handOver c.render)).output := by
  cases h : (run (shell.handOver c.render)).finish <;> simp [runIn, h]

theorem runTree_of_ne_nil (run : Runner) (r : Request) (hp : r.paths ≠ []) :
    runTree run r = runIn run .cmd (treeCommand (r.paths.headD "")) := by
  obtain ⟨p, ps, hps⟩ := List.exists_cons_of_ne_nil hp
  simp [runTree, hps]

theorem runListing_standard (run : Runner) (r : Request) :
    runListing console run r =
      (carryOut console run r (listings r.flags r.paths)).noted
        (info ("Translated to (" ++ r.shell.name ++ "): " ++
          ((listings r.flags r.paths).command r.shell).render)) := by
  rw [runListing, standard_commands]

theorem execute_printing (run : Runner) (r : Request) (h : r.mode.runs = false) :
    (execute console run r).calls = [] ∧ (execute console run r).result = .ok 0 := by
  cases hm : r.mode <;> rw [hm] at h
  case tree => exact absurd h (by decide)
  case teach => exact absurd h (by decide)
  case execute => exact absurd h (by decide)
  case explain | native =>
    rw [execute, runMode, hm, runListing_standard, carryOut, hm]
    exact ⟨rfl, rfl⟩
  all_goals
    rw [execute, runMode, hm]
    exact ⟨rfl, rfl⟩

theorem execute_running (run : Runner) (r : Request) (h : r.mode.runs = true)
    (hp : r.paths ≠ []) :
    (execute console run r).calls = [r.handed] ∧
      (execute console run r).result = (run r.handed).finish.ended r.runShell := by
  rw [Request.handed, ← runIn_calls run, ← runIn_result]
  cases hm : r.mode <;> rw [hm] at h
  case tree =>
    rw [execute, runMode, hm, runTree_of_ne_nil run r hp, Request.runShell,
      Request.nativeCommand, hm]
    exact ⟨rfl, rfl⟩
  case teach | execute =>
    rw [execute, runMode, hm, runListing_standard, carryOut, Request.runShell,
      Request.nativeCommand, hm]
    exact ⟨rfl, rfl⟩
  all_goals exact absurd h (by decide)

/-- Every record of a run was sent by the dispatcher, or by the runner when it was called. -/
def Trace.Sourced (run : Runner) (t : Trace) : Prop :=
  ∀ record ∈ t.records,
    record.sender = .dispatcher ∨ ∃ command ∈ t.calls, record ∈ (run command).records

theorem sourced_noted (run : Runner) (t : Trace) (message : String) (h : t.Sourced run) :
    (t.noted (info message)).Sourced run := by
  intro record hr
  rcases List.mem_cons.mp hr with rfl | hr
  · exact Or.inl rfl
  · exact h record hr

theorem sourced_runIn (run : Runner) (shell : Shell) (c : NativeCommand) :
    (runIn run shell c).Sourced run := by
  have hown : ∃ own, (runIn run shell c).records = (run (shell.handOver c.render)).records ++ own ∧
      ∀ record ∈ own, record.sender = .dispatcher := by
    cases h : (run (shell.handOver c.render)).finish with
    | exited code =>
      by_cases hc : code = 0
      · exact ⟨[], by simp [runIn, h, hc], by simp⟩
      · exact ⟨[info (c.program ++ " exited with status " ++ toString code)],
          by simp [runIn, h, hc], by simp [info]⟩
    | systemFailed e =>
      exact ⟨[failing ("Error running " ++ shell.executable ++ ": " ++ e.message)],
        by simp [runIn, h], by simp [failing]⟩
    | _ => exact ⟨[], by simp [runIn, h], by simp⟩
  obtain ⟨own, hrecords, hsender⟩ := hown
  intro record hr
  rw [hrecords] at hr
  rcases List.mem_append.mp hr with hr | hr
  · refine Or.inr ⟨_, ?_, hr⟩
    rw [runIn_calls]
    exact List.mem_singleton_self _
  · exact Or.inl (hsender record hr)

theorem sourced_execute (run : Runner) (r : Request) : (execute console run r).Sourced run := by
  apply sourced_noted
  have hlisting : (runListing console run r).Sourced run := by
    rw [runListing_standard]
    apply sourced_noted
    have hrun := sourced_runIn run r.shell ((listings r.flags r.paths).command r.shell)
    rw [carryOut]
    cases r.mode with
    | explain => intro record hr; cases hr
    | native => intro record hr; cases hr
    | _ => exact hrun
  rw [runMode]
  cases r.mode with
  | tree =>
    change (runTree run r).Sourced run
    cases hp : r.paths with
    | nil =>
      rw [runTree, hp]
      intro record hr
      cases hr
    | cons p ps =>
      rw [runTree, hp]
      exact sourced_runIn run .cmd (treeCommand p)
  | rosetta => intro record hr; cases hr
  | help => intro record hr; cases hr
  | version => intro record hr; cases hr
  | _ => exact hlisting

end WindowsListing
