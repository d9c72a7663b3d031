import WindowsListing.Proofs.Showing

/-!
# Color, sizes and verbosity

Color, the switch for sizes and verbosity take no part in what is run: with
any of them changed a request makes the same calls, ends in the same way and
logs the same records. What it prints is the same sequence of spans. Some of
them are labels of the program's own, and on a console that wraps labels color
alone says whether escape codes are put around those.
-/

set_option autoImplicit false

namespace WindowsListing

/-- The output that spans make up, with labels wrapped or bare. -/
def written (styled : Bool) (spans : List Span) : String :=
  String.join (spans.map (Span.written styled))

def Span.label? (span : Span) : Option (Style × String) :=
  span.style?.map fun style => (style, span.text)

def explanationLabels : List (Style × String) :=
  [(.bold, "Command (cmd.exe):    "), (.bold, "Command (PowerShell): "), (.bold, "Description: ")]

def Request.labels (r : Request) : List (Style × String) :=
  match r.mode with
  | .explain => explanationLabels
  | .teach => explanationLabels ++ [(.boldGreen, "Executing (" ++ r.shell.name ++ "): ")]
  | _ => []

/-- The request with another color, and with sizes and verbosity as told. -/
def Request.dressed (r : Request) (color : ColorChoice) (showSize verbose : Bool) : Request :=
  { r with flags := { r.flags with color := color, showSize := showSize }, verbose := verbose }

structure Trace.Agree (t u : Trace) : Prop where
  calls : t.calls = u.calls
  result : t.result = u.result
  records : t.records = u.records

variable (console : Console)

/-- Requests that do the same and print the same, up to the codes around labels. -/
structure RunAlike (run : Runner) (r r' : Request) : Prop where
  agree : (execute console run r).Agree (execute console run r')
  printed : ∃ spans, spans.filterMap Span.label? = r.labels ∧
    (execute console run r).output = written (r.flags.color = .always) spans ∧
    (execute console run r').output = written (r'.flags.color = .always) spans
  unlabelled : r.labels = [] → (execute console run r).output = (execute console run r').output

/-- A text for each color, in which these labels alone are dyed. -/
def Dyed (text : ColorChoice → String) (labels : List (Style × String)) : Prop :=
  ∃ spans, spans.filterMap Span.label? = labels ∧
    ∀ choice, text choice = written (choice = .always) spans

theorem written_append (styled : Bool) (xs ys : List Span) :
    written styled (xs ++ ys) = written styled xs ++ written styled ys := by
  simp [written]

theorem written_unlabelled (styled styled' : Bool) (spans : List Span)
    (h : spans.filterMap Span.label? = []) : written styled spans = written styled' spans := by
  have heach : ∀ span ∈ spans, span.written styled = span.written styled' := by
    intro span hm
    have hnone := Option.map_eq_none_iff.mp (List.filterMap_eq_nil_iff.mp h span hm)
    rw [Span.written, Span.written, hnone]
  rw [written, written, List.map_congr_left heach]

theorem dyed_plain (text : String) : Dyed (fun _ => text) [] :=
  ⟨bare text, rfl, fun _ => by simp [written, bare, Span.written]⟩

theorem dyed_append (s t : ColorChoice → String) (ls ms : List (Style × String))
    (hs : Dyed s ls) (ht : Dyed t ms) : Dyed (fun choice => s choice ++ t choice) (ls ++ ms) := by
  obtain ⟨xs, hxs, hs⟩ := hs
  obtain ⟨ys, hys, ht⟩ := ht
  refine ⟨xs ++ ys, by rw [List.filterMap_append, hxs, hys], ?_⟩
  intro choice
  rw [written_append, ← hs choice, ← ht choice]

section
variable (hc : console.WrapsLabels)
include hc

theorem dyed_labelled (style : Style) (label text : String) (hne : label ≠ "")
    (hl : Plain label) :
    Dyed (fun choice => console.print (.ofChoice choice) (labelled style label text))
      [(style, label)] := by
  obtain ⟨rest, hrest⟩ := hc.label style label text hne hl
  refine ⟨labelled style label rest, rfl, ?_⟩
  intro choice
  refine (hrest choice).trans ?_
  cases choice <;> simp [written, labelled, Span.written]

theorem dyed_unlabelled (spans : List Span) (h : ∀ span ∈ spans, span.style? = none) :
    Dyed (fun choice => console.print (.ofChoice choice) spans) [] := by
  obtain ⟨xs, hxs, htext⟩ := dyed_plain (console.print (.ofChoice .auto) spans)
  exact ⟨xs, hxs, fun choice => (hc.unlabelled spans h choice .auto).trans (htext choice)⟩

theorem dyed_explanation (c : Commands) :
    Dyed (fun choice => explanation console (.ofChoice choice) c) explanationLabels := by
  have hdir := dyed_labelled console hc .bold "Command (cmd.exe):    " c.dir.render
    (by decide) (by decide)
  have hps := dyed_labelled console hc .bold "Command (PowerShell): " c.powershell.render
    (by decide) (by decide)
  have hempty := dyed_unlabelled console hc [] (by simp)
  have hdesc := dyed_labelled console hc .bold "Description: " c.description
    (by decide) (by decide)
  exact dyed_append _ _ _ _ (dyed_append _ _ _ _ (dyed_append _ _ _ _ hdir hps) hempty) hdesc

theorem dyed_announcement (shell : Shell) (line : String) :
    Dyed (fun choice => announcement console (.ofChoice choice) shell line)
      [(.boldGreen, "Executing (" ++ shell.name ++ "): ")] := by
  have hne : "Executing (" ++ shell.name ++ "): " ≠ "" := by cases shell <;> decide
  have hlabel : Plain ("Executing (" ++ shell.name ++ "): ") := by cases shell <;> decide
  have hline := dyed_labelled console hc .boldGreen _ line hne hlabel
  have hrule := dyed_unlabelled console hc (bare "---") (by simp [bare])
  exact dyed_append _ _ _ _ hline hrule

end

section
variable (run : Runner) (r : Request) (color : ColorChoice) (showSize verbose : Bool)

theorem mode_dressed : (r.dressed color showSize verbose).mode = r.mode := rfl

theorem shell_dressed : (r.dressed color showSize verbose).shell = r.shell := rfl

theorem listings_dressed :
    listings (r.dressed color showSize verbose).flags (r.dressed color showSize verbose).paths =
      listings r.flags r.paths := rfl

theorem runTree_dressed : runTree run (r.dressed color showSize verbose) = runTree run r := rfl

theorem dressed_self : r.dressed r.flags.color r.flags.showSize r.verbose = r := rfl

theorem agree_noted (record : Record) (t u : Trace) (h : t.Agree u) :
    (t.noted record).Agree (u.noted record) :=
  ⟨h.calls, h.result, congrArg (record :: ·) h.records⟩

theorem carryOut_dressed (c : Commands) :
    (carryOut console run r c).Agree
      (carryOut console run (r.dressed color showSize verbose) c) := by
  rw [carryOut, carryOut, mode_dressed, shell_dressed]
  cases r.mode <;> exact ⟨rfl, rfl, rfl⟩

theorem execute_dressed :
    (execute console run r).Agree (execute console run (r.dressed color showSize verbose)) := by
  have hlisting : (runListing console run r).Agree
      (runListing console run (r.dressed color showSize verbose)) := by
    rw [runListing_standard, runListing_standard, shell_dressed, listings_dressed]
    exact agree_noted _ _ _ (carryOut_dressed console run r color showSize verbose _)
  rw [execute, execute, mode_dressed]
  apply agree_noted
  rw [runMode, runMode, mode_dressed, runTree_dressed]
  cases r.mode with
  | explain | native | teach | execute => exact hlisting
  | _ => exact ⟨rfl, rfl, rfl⟩

theorem execute_plain_output (h : r.mode = .execute) :
    (execute console run r).output = (run (r.shell.handOver r.line)).output := by
  rw [execute_listing console run r (by rw [h]; decide), carryOut, h]
  exact runIn_output run r.shell _

theorem exists_dyed (hc : console.WrapsLabels) :
    ∃ text, Dyed text r.labels ∧ ∀ color showSize verbose,
      (execute console run (r.dressed color showSize verbose)).output = text color := by
  rw [Request.labels]
  cases hm : r.mode with
  | explain =>
    exact ⟨_, dyed_explanation console hc (listings r.flags r.paths), fun color showSize verbose =>
      (execute_explain console run (r.dressed color showSize verbose) hm).1⟩
  | native =>
    exact ⟨_, dyed_plain (r.line ++ "\n"), fun color showSize verbose =>
      (execute_native console run (r.dressed color showSize verbose) hm).1⟩
  | teach =>
    have hexplained := dyed_explanation console hc (listings r.flags r.paths)
    have hannounced := dyed_announcement console hc r.shell r.line
    have hran := dyed_plain (run (r.shell.handOver r.line)).output
    refine ⟨_, dyed_append _ _ _ _ hexplained (dyed_append _ _ _ _ hannounced hran), ?_⟩
    intro color showSize verbose
    exact (execute_teach console run (r.dressed color showSize verbose) hm).1
  | execute =>
    exact ⟨_, dyed_plain (run (r.shell.handOver r.line)).output, fun color showSize verbose =>
      execute_plain_output console run (r.dressed color showSize verbose) hm⟩
  | _ =>
    refine ⟨_, dyed_plain (execute console run r).output, ?_⟩
    intro color showSize verbose
    rw [execute, execute, runMode, runMode, mode_dressed, runTree_dressed, hm]

/-- Whatever is said about color, sizes and verbosity, a request runs the same
and prints the same. Only the codes around its labels come and go with color. -/
theorem dressed_run_alike (hc : console.WrapsLabels) :
    RunAlike console run r (r.dressed color showSize verbose) := by
  obtain ⟨text, ⟨spans, hlabels, htext⟩, houtput⟩ := exists_dyed console run r hc
  have hown : (execute console run r).output = written (r.flags.color = .always) spans := by
    rw [← htext, ← houtput r.flags.color r.flags.showSize r.verbose, dressed_self]
  have hdressed := (houtput color showSize verbose).trans (htext color)
  refine ⟨execute_dressed console run r color showSize verbose,
    ⟨spans, hlabels, hown, hdressed⟩, ?_⟩
  intro hnone
  rw [hown, hdressed]
  exact written_unlabelled _ _ _ (hlabels.trans hnone)

end

theorem dressed_run_alike_taught :
    let r : Request := { paths := ["a\tb"], teach := true }
    let run : Runner := fun _ => { output := "x", finish := .interrupted }
    Console.piped.WrapsLabels ∧
      (execute .piped run (r.dressed .always true true)).calls = [.line "cmd.exe /C dir a\tb"] ∧
      ∃ spans, spans.filterMap Span.label? =
          explanationLabels ++ [(.boldGreen, "Executing (cmd.exe): ")] ∧
        (execute .piped run r).output = written false spans ∧
        (execute .piped run (r.dressed .always true true)).output = written true spans := by
  intro r run
  have hcalls : (execute .piped run r).calls = [.line "cmd.exe /C dir a\tb"] := by decide
  have halike := dressed_run_alike .piped run r .always true true piped_wrapsLabels
  exact ⟨piped_wrapsLabels, halike.agree.calls ▸ hcalls, halike.printed⟩

end WindowsListing
