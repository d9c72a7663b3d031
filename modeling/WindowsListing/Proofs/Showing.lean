import WindowsListing.Console.Piped
import WindowsListing.Proofs.Commands.LineEnds
import WindowsListing.Proofs.Console
import WindowsListing.Proofs.Dispatch

/-!
# Showing and running

A request for a listing can be explained, written out, taught or run. The
command line is put together before the ways part, so all four have the same
one for the same shell: what is shown is what is run. To teach is to explain,
to announce the line, and to run it.
-/

set_option autoImplicit false

namespace WindowsListing

variable (console : Console)

/-- The modes that put a command together from the flags. -/
def listingModes : List Mode := [.explain, .native, .teach, .execute]

/-- A request that asks for none of the modes that come before those of a listing. -/
structure Request.Listing (r : Request) : Prop where
  rosetta : r.rosetta = false
  help : r.help = false
  version : r.version = false
  tree : r.tree = false

/-- The request with one way of showing or running its command, and no other. -/
def Request.only (r : Request) (mode : Mode) : Request :=
  { r with explain := mode = .explain, native := mode = .native, teach := mode = .teach }

def Request.line (r : Request) : String := ((listings r.flags r.paths).command r.shell).render

def Shell.row : Shell → Nat
  | .cmd => 0
  | .powershell => 1

def Shell.label : Shell → String
  | .cmd => "Command (cmd.exe):    "
  | .powershell => "Command (PowerShell): "

/-- The four ways to show and run one line in one shell. -/
structure ShownAsRun (run : Runner) (r : Request) (shell : Shell) (line : String) : Prop where
  written : (execute console run (r.only .native)).output = line ++ "\n" ∧
    (execute console run (r.only .native)).calls = []
  explained : (execute console run (r.only .explain)).calls = []
  taught : (execute console run (r.only .teach)).calls = [shell.handOver line]
  executed : (execute console run (r.only .execute)).calls = [shell.handOver line]
  logged : ∀ mode ∈ listingModes, (execute console run (r.only mode)).records[1]? =
    some (info ("Translated to (" ++ shell.name ++ "): " ++ line))
  visible : console.KeepsText → r.flags.color ≠ .always → Plain line →
    (lines (execute console run (r.only .explain)).output)[shell.row]? =
      some (shell.label ++ line) ∧
    (lines (execute console run (r.only .teach)).output)[shell.row]? =
      some (shell.label ++ line) ∧
    (lines (execute console run (r.only .teach)).output)[4]? =
      some ("Executing (" ++ shell.name ++ "): " ++ line)

theorem runMode_listing (run : Runner) (r : Request) (h : r.mode ∈ listingModes) :
    runMode console run r = runListing console run r := by
  rw [runMode]
  cases hm : r.mode with
  | explain | native | teach | execute => rfl
  | _ =>
    rw [hm] at h
    exact absurd h (by decide)

theorem execute_listing (run : Runner) (r : Request) (h : r.mode ∈ listingModes) :
    execute console run r =
      ((carryOut console run r (listings r.flags r.paths)).noted
        (info ("Translated to (" ++ r.shell.name ++ "): " ++ r.line))).noted
        (info ("Running in " ++ r.mode.name ++ " mode")) := by
  rw [execute, runMode_listing console run r h, runListing_standard]
  rfl

theorem execute_explain (run : Runner) (r : Request) (h : r.mode = .explain) :
    (execute console run r).output =
        explanation console (.ofChoice r.flags.color) (listings r.flags r.paths) ∧
      (execute console run r).calls = [] := by
  rw [execute_listing console run r (by rw [h]; decide), carryOut, h]
  exact ⟨rfl, rfl⟩

theorem execute_native (run : Runner) (r : Request) (h : r.mode = .native) :
    (execute console run r).output = r.line ++ "\n" ∧ (execute console run r).calls = [] := by
  rw [execute_listing console run r (by rw [h]; decide), carryOut, h]
  exact ⟨rfl, rfl⟩

theorem execute_teach (run : Runner) (r : Request) (h : r.mode = .teach) :
    (execute console run r).output =
        explanation console (.ofChoice r.flags.color) (listings r.flags r.paths) ++
          (announcement console (.ofChoice r.flags.color) r.shell r.line ++
            (run (r.shell.handOver r.line)).output) ∧
      (execute console run r).calls = [r.shell.handOver r.line] ∧
      (execute console run r).result = (run (r.shell.handOver r.line)).finish.ended r.shell := by
  rw [execute_listing console run r (by rw [h]; decide), carryOut, h, ← String.append_assoc]
  exact ⟨congrArg (_ ++ ·) (runIn_output run r.shell _), runIn_calls run r.shell _,
    runIn_result run r.shell _⟩

theorem execute_plain (run : Runner) (r : Request) (h : r.mode = .execute) :
    (execute console run r).calls = [r.shell.handOver r.line] ∧
      (execute console run r).result = (run (r.shell.handOver r.line)).finish.ended r.shell := by
  rw [execute_listing console run r (by rw [h]; decide), carryOut, h]
  exact ⟨runIn_calls run r.shell _, runIn_result run r.shell _⟩

theorem newline_not_mem_lines (r : Request) (hplain : Plain r.line) (shell : Shell) :
    '\n' ∉ ((listings r.flags r.paths).command shell).render.toList := by
  have hline : '\n' ∉ ((listings r.flags r.paths).command r.shell).render.toList :=
    newline_not_mem_of_plain r.line hplain
  rw [newline_mem_render] at hline ⊢
  exact hline

section
variable (hc : console.KeepsText)
include hc

theorem explanation_row (r : Request) (rest : String) (hcolor : r.flags.color ≠ .always)
    (hplain : Plain r.line) :
    (lines (explanation console (.ofChoice r.flags.color) (listings r.flags r.paths) ++
      rest))[r.shell.row]? = some (r.shell.label ++ r.line) := by
  rw [lines_explanation console hc _ _ _ (newline_not_mem_lines r hplain .cmd)
    (newline_not_mem_lines r hplain .powershell) (newline_not_mem_description r.flags)]
  rw [Request.line] at hplain ⊢
  have hlabel : Plain r.shell.label := by cases r.shell <;> decide
  have hrow := Console.row_labelled console hc _ .bold _ _ hcolor hlabel hplain
  cases hs : r.shell <;> rw [hs] at hrow <;> exact congrArg some hrow

theorem announcement_row (r : Request) (rest : String) (hcolor : r.flags.color ≠ .always)
    (hplain : Plain r.line) :
    (lines (explanation console (.ofChoice r.flags.color) (listings r.flags r.paths) ++
      (announcement console (.ofChoice r.flags.color) r.shell r.line ++ rest)))[4]? =
      some ("Executing (" ++ r.shell.name ++ "): " ++ r.line) := by
  have hlabel : Plain ("Executing (" ++ r.shell.name ++ "): ") := by cases r.shell <;> decide
  rw [lines_explanation console hc _ _ _ (newline_not_mem_lines r hplain .cmd)
    (newline_not_mem_lines r hplain .powershell) (newline_not_mem_description r.flags),
    lines_announcement console hc _ _ _ _ (newline_not_mem_of_plain r.line hplain)]
  exact congrArg some (Console.row_labelled console hc _ .boldGreen _ _ hcolor hlabel hplain)

end

theorem only_mode (r : Request) (mode : Mode) (hr : r.Listing) (hm : mode ∈ listingModes) :
    (r.only mode).mode = mode := by
  rw [Request.mode, Request.only]
  simp only [hr.rosetta, hr.help, hr.version, hr.tree]
  cases mode with
  | explain | native | teach | execute => rfl
  | _ => exact absurd hm (by decide)

/-- Whatever a request asks to be done with its command, there is one line and
one shell for it: what is written out, explained and taught is what is run. -/
theorem shown_as_run (run : Runner) (r : Request) (hr : r.Listing) :
    ∃ c, Fragments.standard.commands r.flags r.paths = .ok c ∧
      ShownAsRun console run r r.shell (c.command r.shell).render := by
  have hexplain := execute_explain console run (r.only .explain) (only_mode r _ hr (by decide))
  have hnative := execute_native console run (r.only .native) (only_mode r _ hr (by decide))
  have hteach := execute_teach console run (r.only .teach) (only_mode r _ hr (by decide))
  have hplain := execute_plain console run (r.only .execute) (only_mode r _ hr (by decide))
  refine ⟨listings r.flags r.paths, standard_commands r.flags r.paths, ?_⟩
  constructor
  case written => exact hnative
  case explained => exact hexplain.2
  case taught => exact hteach.2.1
  case executed => exact hplain.1
  case logged =>
    intro mode hm
    rw [execute_listing console run (r.only mode) (by rw [only_mode r mode hr hm]; exact hm)]
    rfl
  case visible =>
    intro hc hcolor hline
    have hrow := explanation_row console hc r "" hcolor hline
    rw [String.append_empty] at hrow
    rw [hexplain.1, hteach.1]
    exact ⟨hrow, explanation_row console hc r _ hcolor hline,
      announcement_row console hc r _ hcolor hline⟩

theorem shown_as_run_spaced :
    let r : Request := { paths := ["a b/c"], explain := true, teach := true }
    let run : Runner := fun _ => { output := "3 files\n", finish := .exited 1 }
    r.Listing ∧ Console.piped.KeepsText ∧ r.flags.color ≠ .always ∧ Plain "dir \"a b\\c\"" ∧
      (execute .piped run (r.only .native)).output = "dir \"a b\\c\"\n" ∧
      (execute .piped run (r.only .teach)).calls = [.line "cmd.exe /C dir \"a b\\c\""] ∧
      (execute .piped run (r.only .execute)).calls = [.line "cmd.exe /C dir \"a b\\c\""] ∧
      (lines (execute .piped run (r.only .teach)).output)[0]? =
        some "Command (cmd.exe):    dir \"a b\\c\"" ∧
      (lines (execute .piped run (r.only .teach)).output)[4]? =
        some "Executing (cmd.exe): dir \"a b\\c\"" := by
  intro r run
  have hr : r.Listing := ⟨rfl, rfl, rfl, rfl⟩
  obtain ⟨c, hc, h⟩ := shown_as_run .piped run r hr
  have hline : (c.command r.shell).render = "dir \"a b\\c\"" := by
    rw [standard_commands] at hc
    rw [← Except.ok.inj hc]
    decide
  rw [hline] at h
  have hcolor : r.flags.color ≠ .always := by decide
  have hplain : Plain "dir \"a b\\c\"" := by decide
  obtain ⟨-, hrow, hannounced⟩ := h.visible piped_keepsText hcolor hplain
  exact ⟨hr, piped_keepsText, hcolor, hplain, h.written.1, h.taught, h.executed, hrow,
    hannounced⟩

theorem listing_of_mode (r : Request) (h : r.mode ∈ listingModes) : r.Listing := by
  rw [Request.mode] at h
  split at h
  · exact absurd h (by decide)
  split at h
  · exact absurd h (by decide)
  split at h
  · exact absurd h (by decide)
  split at h
  · exact absurd h (by decide)
  -- None of the four that come first is left to win.
  rename_i hrosetta hhelp hversion htree
  exact ⟨eq_false_of_ne_true hrosetta, eq_false_of_ne_true hhelp, eq_false_of_ne_true hversion,
    eq_false_of_ne_true htree⟩

theorem modes_of_teach (r : Request) (h : r.mode = .teach) :
    { r with explain := true }.mode = .explain ∧ { r with teach := false }.mode = .execute := by
  have hr := listing_of_mode r (by rw [h]; decide)
  rw [Request.mode] at h
  simp only [hr.rosetta, hr.help, hr.version, hr.tree] at h
  cases he : r.explain with
  | true => simp [he] at h
  | false =>
    cases hn : r.native with
    | true => simp [he, hn] at h
    | false =>
      constructor <;> simp [Request.mode, hr.rosetta, hr.help, hr.version, hr.tree]

/-- To teach is to explain, to announce the line, and to run it, whatever the
runner does. What is printed ahead of the run is there however the run ends. -/
theorem teach_eq_explain_run (hconsole : console.KeepsWords) (run : Runner) (r : Request)
    (h : r.mode = .teach) :
    ∃ c handed, Fragments.standard.commands r.flags r.paths = .ok c ∧
      (execute console run r).calls = [handed] ∧
      (execute console run r).output =
        (execute console run { r with explain := true }).output ++
          console.print (.ofChoice r.flags.color)
            (labelled .boldGreen ("Executing (" ++ r.shell.name ++ "): ")
              (c.command r.shell).render) ++
          "---\n" ++ (run handed).output ∧
      (execute console run r).result = (execute console run { r with teach := false }).result ∧
      (execute console run r).calls = (execute console run { r with teach := false }).calls := by
  obtain ⟨hexplain, hexecute⟩ := modes_of_teach r h
  obtain ⟨hexplained, -⟩ := execute_explain console run { r with explain := true } hexplain
  obtain ⟨htaught, hcalls, hresult⟩ := execute_teach console run r h
  obtain ⟨hsame, hend⟩ := execute_plain console run { r with teach := false } hexecute
  refine ⟨listings r.flags r.paths, r.shell.handOver r.line, standard_commands r.flags r.paths,
    hcalls, ?_, hresult.trans hend.symm, hcalls.trans hsame.symm⟩
  rw [htaught, hexplained, announcement, hconsole _ _ (by decide),
    ← String.append_assoc, ← String.append_assoc]
  rfl

theorem teach_eq_explain_run_failing :
    let r : Request := { flags := { color := .always }, paths := ["a\tb"], teach := true }
    let run : Runner := fun _ => { output := "x", finish := .systemFailed (.explained "gone") }
    Console.piped.KeepsWords ∧ r.mode = .teach ∧
      (execute .piped run r).output =
        (execute .piped run { r with explain := true }).output ++
          "\x1b[1;32mExecuting (cmd.exe): \x1b[0mdir a      b\n---\nx" ∧
      (execute .piped run r).result = .error (.launch ⟨"cmd.exe", "gone"⟩) := by
  intro r run
  have hmode : r.mode = .teach := by decide
  have hwords := Console.keepsWords_of_keepsText .piped piped_keepsText
  obtain ⟨c, handed, hc, -, houtput, hresult, -⟩ :=
    teach_eq_explain_run .piped hwords run r hmode
  have hrow : Console.piped.print (.ofChoice r.flags.color)
      (labelled .boldGreen ("Executing (" ++ r.shell.name ++ "): ") (c.command r.shell).render) =
        "\x1b[1;32mExecuting (cmd.exe): \x1b[0mdir a      b\n" := by
    rw [standard_commands] at hc
    rw [← Except.ok.inj hc]
    decide +kernel
  rw [hrow, String.append_assoc, String.append_assoc] at houtput
  exact ⟨hwords, hmode, houtput, hresult⟩

end WindowsListing
