import WindowsListing.Console.Piped
import WindowsListing.Proofs.CommandLine.Aliases
import WindowsListing.Proofs.ExitContract

/-!
# Precedence of modes

The options of a command line may ask for several modes. The first one in the
order of precedence decides what a call does, and all else that the command
line says is without effect on it. The cheatsheet, the manual and the version
are texts of their own. A tree is drawn by one command of cmd.exe that knows
of the first path alone, with either kind of slash. So two calls that agree on
the leading mode, and on the path of a tree, cannot be told apart.
-/

set_option autoImplicit false

namespace WindowsListing

variable (console : Console)

/-- The modes that can be asked for, each ahead of those it wins over. -/
def precedence : List Mode := [.rosetta, .help, .version, .tree, .explain, .native, .teach]

def Mode.names : Mode → List String
  | .rosetta => ["rosetta", "cheatsheet"]
  | .help => ["help"]
  | .version => ["version"]
  | .tree => ["tree"]
  | .explain => ["explain"]
  | .native => ["native"]
  | .teach => ["teach"]
  | .execute => []

def Mode.letters : Mode → List Char
  | .help => ['?']
  | _ => []

/-- Some option asks for the mode, by a long name or in a cluster. -/
def AsksFor (opts : List String) (mode : Mode) : Prop :=
  (∃ name ∈ mode.names, "--" ++ name ∈ opts) ∨ ∃ c ∈ mode.letters, Lettered opts c

/-- Options ask for the mode, and for none that wins over it. -/
def Leads (opts : List String) (mode : Mode) : Prop :=
  AsksFor opts mode ∧ ∀ other ∈ precedence.takeWhile (· ≠ mode), ¬ AsksFor opts other

/-- The first path of a command line, and the current directory if it has none. -/
def firstPath (argv : List String) : String :=
  ((optionPart argv).filter IsPath ++ pathPart argv).headD "."

def IsSlash (c : Char) : Prop := c = '/' ∨ c = '\\'

/-- Paths that differ at most in the kind of their slashes. -/
def SameButSlashes (p q : String) : Prop :=
  List.Forall₂ (fun c d => c = d ∨ (IsSlash c ∧ IsSlash d)) p.toList q.toList

def treeLine (path : String) : ProcessCommand :=
  .line ("cmd.exe /C tree /F " ++ Path.argument path)

def Mode.text : Mode → String
  | .rosetta => Cheatsheet.text
  | .help => Manual.text
  | .version => Manual.versionLine
  | _ => ""

/-- A call that prints a text, succeeds, and does nothing else. -/
structure Report.Prints (report : Report) (text : String) : Prop where
  output : report.output = text
  complaint : report.complaint = ""
  calls : report.calls = []
  result : report.result = .ok 0

/-- A call that runs one command of cmd.exe and adds nothing to its output. -/
structure Report.Runs (report : Report) (run : Runner) (command : ProcessCommand) : Prop where
  output : report.output = (run command).output
  calls : report.calls = [command]
  ended : (report.complaint, report.result) = (run command).finish.reported .cmd

def Mode.switch? : Mode → Option Switch
  | .rosetta => some .rosetta
  | .help => some .help
  | .version => some .version
  | .tree => some .tree
  | .explain => some .explain
  | .native => some .native
  | .teach => some .teach
  | .execute => none

def Request.asks (r : Request) : Mode → Bool
  | .rosetta => r.rosetta
  | .help => r.help
  | .version => r.version
  | .tree => r.tree
  | .explain => r.explain
  | .native => r.native
  | .teach => r.teach
  | .execute => false

theorem switch?_of_mem (mode : Mode) (h : mode ∈ precedence) : ∃ s, mode.switch? = some s := by
  cases mode with
  | execute => exact absurd h (by decide)
  | _ => exact ⟨_, rfl⟩

theorem field?_of_switch? (mode : Mode) (s : Switch) (h : mode.switch? = some s) :
    s.field? = some fun r => r.asks mode := by
  cases mode <;> cases h <;> rfl

theorem ofName?_iff_names (mode : Mode) (s : Switch) (h : mode.switch? = some s) (name : String) :
    Switch.ofName? name = some s ↔ name ∈ mode.names := by
  constructor
  · intro hn
    unfold Switch.ofName? at hn
    split at hn <;> cases hn <;> cases mode <;> cases h
    all_goals decide
  · intro hn
    have hall : ∀ name ∈ mode.names, Switch.ofName? name = some s := by
      cases mode <;> cases h <;> decide
    exact hall name hn

theorem ofLetter?_iff_letters (mode : Mode) (s : Switch) (h : mode.switch? = some s) (c : Char) :
    Switch.ofLetter? c = some s ↔ c ∈ mode.letters := by
  constructor
  · intro hc
    unfold Switch.ofLetter? at hc
    split at hc <;> cases hc <;> cases mode <;> cases h
    decide
  · intro hc
    have hall : ∀ c ∈ mode.letters, Switch.ofLetter? c = some s := by
      cases mode <;> cases h <;> simp [Mode.letters, Switch.ofLetter?]
    exact hall c hc

theorem equals_not_mem_names (mode : Mode) : ∀ name ∈ mode.names, '=' ∉ name.toList := by
  cases mode <;> decide

theorem exists_asks_iff_asksFor (opts : List String) (mode : Mode) (s : Switch)
    (h : mode.switch? = some s) : (∃ t ∈ opts, Asks t s) ↔ AsksFor opts mode := by
  constructor
  · rintro ⟨t, ht, form, hf, hn⟩
    cases form with
    | path => cases hn
    | color choice => cases hn
    | cluster letters =>
      obtain ⟨c, hc, hs⟩ := hn
      exact Or.inr ⟨c, (ofLetter?_iff_letters mode s h c).mp hs, t, ht, letters, hf, hc⟩
    | long name =>
      cases hf with
      | long htext =>
        exact Or.inl ⟨name, (ofName?_iff_names mode s h name).mp hn, htext ▸ ht⟩
  · rintro (⟨name, hname, ht⟩ | ⟨c, hc, t, ht, letters, hf, hl⟩)
    · have hs := (ofName?_iff_names mode s h name).mpr hname
      exact ⟨_, ht, .long name, .long rfl (equals_not_mem_names mode name hname) hs, hs⟩
    · exact ⟨t, ht, .cluster letters, hf, c, hl, (ofLetter?_iff_letters mode s h c).mpr hc⟩

theorem mode_eq_iff (r : Request) (mode : Mode) (h : mode ∈ precedence) :
    r.mode = mode ↔
      r.asks mode = true ∧ ∀ other ∈ precedence.takeWhile (· ≠ mode), r.asks other = false := by
  rw [Request.mode]
  cases mode with
  | execute => exact absurd h (by decide)
  | _ => simp [precedence, Request.asks]; grind

theorem described_of_parseAs (program : Option String) (argv : List String) (r : Request)
    (h : parseAs program argv = .ok r) :
    ∃ plain options, Describes (optionPart argv) (pathPart argv) plain ∧
      r = plain.forced options := by
  obtain ⟨plain, options, hplain, hr⟩ := exists_forced program argv r h
  obtain ⟨ws, hws, rfl⟩ := (parse_ok_iff argv plain).mp hplain
  exact ⟨_, options, describes_ofWords _ _ ws hws, hr⟩

theorem leads_iff_mode (program : Option String) (argv : List String) (r : Request)
    (h : parseAs program argv = .ok r) (mode : Mode) (hm : mode ∈ precedence) :
    Leads (optionPart argv) mode ↔ r.mode = mode := by
  obtain ⟨plain, options, hplain, rfl⟩ := described_of_parseAs program argv r h
  have hasks : ∀ other ∈ precedence, AsksFor (optionPart argv) other ↔ plain.asks other = true := by
    intro other ho
    obtain ⟨s, hs⟩ := switch?_of_mem other ho
    rw [← exists_asks_iff_asksFor _ other s hs]
    exact (hplain.fields s _ (field?_of_switch? other s hs)).symm
  have hmode : (plain.forced options).mode = plain.mode := rfl
  rw [hmode, mode_eq_iff plain mode hm, Leads, hasks mode hm]
  refine and_congr_right fun _ => forall₂_congr fun other ho => ?_
  rw [hasks other ((List.takeWhile_sublist _).subset ho), Bool.not_eq_true]

theorem firstPath_of_parseAs (program : Option String) (argv : List String) (r : Request)
    (h : parseAs program argv = .ok r) : r.paths.headD "" = firstPath argv := by
  obtain ⟨plain, options, hplain, rfl⟩ := described_of_parseAs program argv r h
  change plain.paths.headD "" = _
  rw [hplain.paths, firstPath]
  cases (optionPart argv).filter IsPath ++ pathPart argv <;> rfl

theorem run_output (before : Verbosity) (call : Call) (r : Request)
    (h : parseAs call.program call.argv = .ok r) :
    (call.run console before).output = (execute console call.runner r).output := by
  rw [Call.run, h]

theorem prints_of_leads (before : Verbosity) (call : Call)
    (h : ∃ r, parseAs call.program call.argv = .ok r) (mode : Mode)
    (hm : mode ∈ [Mode.rosetta, .help, .version]) (hl : Leads (optionPart call.argv) mode) :
    (call.run console before).Prints mode.text := by
  obtain ⟨r, hr⟩ := h
  simp only [List.mem_cons, List.not_mem_nil, or_false] at hm
  have hmode : r.mode = mode := by
    refine (leads_iff_mode call.program call.argv r hr mode ?_).mp hl
    rcases hm with rfl | rfl | rfl <;> decide
  have hruns : r.mode.runs = false := by
    rcases hm with rfl | rfl | rfl <;> rw [hmode] <;> rfl
  obtain ⟨hresult, hcomplaint, hcalls⟩ := run_printed console before call r hr hruns
  refine ⟨?_, hcomplaint, hcalls, hresult⟩
  rw [run_output console before call r hr, execute, runMode, hmode]
  rcases hm with rfl | rfl | rfl <;> rfl

theorem handOver_tree (path : String) :
    Shell.cmd.handOver (treeCommand path).render = treeLine path := by
  have hrender : (treeCommand path).render = "tree /F " ++ Path.argument path := by
    apply String.toList_inj.mp
    rw [render_toList, String.toList_append]
    simp [treeCommand]
  have hlead : Shell.executable .cmd ++ " /C " ++ "tree /F " = "cmd.exe /C tree /F " := by decide
  rw [Shell.handOver, hrender, treeLine, ← hlead, ← String.append_assoc]

theorem runs_of_leads (before : Verbosity) (call : Call)
    (h : ∃ r, parseAs call.program call.argv = .ok r)
    (hl : Leads (optionPart call.argv) .tree) :
    (call.run console before).Runs call.runner (treeLine (firstPath call.argv)) := by
  obtain ⟨r, hr⟩ := h
  have hmode := (leads_iff_mode call.program call.argv r hr .tree (by decide)).mp hl
  have hshell : r.runShell = .cmd := by rw [Request.runShell, if_pos hmode]
  have hhanded : r.handed = treeLine (firstPath call.argv) := by
    rw [Request.handed, hshell, Request.nativeCommand, if_pos hmode,
      firstPath_of_parseAs call.program call.argv r hr, handOver_tree]
  obtain ⟨hcalls, hended⟩ := run_ran console before call r hr (by rw [hmode]; rfl)
  rw [hhanded] at hcalls hended
  rw [hshell] at hended
  refine ⟨?_, hcalls, hended⟩
  have hpaths := parseAs_paths_ne_nil call.program call.argv r hr
  rw [run_output console before call r hr, execute, runMode, hmode]
  change (runTree call.runner r).output = _
  rw [runTree_of_ne_nil _ r hpaths, runIn_output,
    firstPath_of_parseAs call.program call.argv r hr, handOver_tree]

theorem backslashed_congr (cs ds : List Char)
    (h : List.Forall₂ (fun c d => c = d ∨ (IsSlash c ∧ IsSlash d)) cs ds) :
    Path.backslashed cs = Path.backslashed ds := by
  induction h with
  | nil => rfl
  | @cons c d cs ds hcd _ ih =>
    have hhead : (if c = '/' then '\\' else c) = if d = '/' then '\\' else d := by
      rcases hcd with rfl | ⟨rfl | rfl, rfl | rfl⟩ <;> rfl
    exact congrArg₂ List.cons hhead ih

theorem argument_congr (p q : String) (h : SameButSlashes p q) :
    Path.argument p = Path.argument q := by
  rw [Path.argument, Path.argument, Path.toWindows, Path.toWindows, backslashed_congr _ _ h]

/-- Two calls with the same leading mode do the same, whatever else they say
and whatever runner they are given; two that draw a tree must have the same
first path and the same runner for that. -/
theorem leading_mode_decides (v w : Verbosity) (a b : Call)
    (ha : ∃ r, parseAs a.program a.argv = .ok r) (hb : ∃ r, parseAs b.program b.argv = .ok r) :
    (∀ mode ∈ [Mode.rosetta, .help, .version],
      Leads (optionPart a.argv) mode → Leads (optionPart b.argv) mode →
        (a.run console v).Prints mode.text ∧ (b.run console w).Prints mode.text) ∧
    (Leads (optionPart a.argv) .tree → Leads (optionPart b.argv) .tree →
      SameButSlashes (firstPath a.argv) (firstPath b.argv) → a.runner = b.runner →
        (a.run console v).Runs a.runner (treeLine (firstPath a.argv)) ∧
          (b.run console w).Runs a.runner (treeLine (firstPath a.argv))) := by
  constructor
  · intro mode hm hla hlb
    exact ⟨prints_of_leads console v a ha mode hm hla, prints_of_leads console w b hb mode hm hlb⟩
  · intro hla hlb hpath hrunner
    have hline : treeLine (firstPath a.argv) = treeLine (firstPath b.argv) := by
      rw [treeLine, treeLine, argument_congr _ _ hpath]
    refine ⟨runs_of_leads console v a ha hla, ?_⟩
    rw [hrunner, hline]
    exact runs_of_leads console w b hb hlb

/-- A letter in a cluster and a long name for help, each among switches that
lose; and two trees of one path, written with either slash. -/
theorem leading_mode_decides_mixed :
    let drawn : Runner := fun _ => { output := "drawn", finish := .exited 1 }
    let stopped : Runner := fun _ => { finish := .interrupted }
    let letter : Call := { argv := ["-l?", "--version", "x"], runner := drawn }
    let word : Call :=
      { argv := ["--tree", "--help", "--", "-F"], program := some "la", runner := stopped }
    let plain : Call :=
      { argv := ["--tree", "-lR", "--color=always", "a b/c", "y"], runner := drawn }
    let taught : Call :=
      { argv := ["--ps", "--teach", "--tree", "--", "a b\\c"], program := some "ll",
        runner := drawn }
    (Leads (optionPart letter.argv) .help ∧ Leads (optionPart word.argv) .help ∧
      (letter.run .piped .quiet).Prints Manual.text ∧
      (word.run .piped .verbose).Prints Manual.text) ∧
    (Leads (optionPart plain.argv) .tree ∧ Leads (optionPart taught.argv) .tree ∧
      SameButSlashes (firstPath plain.argv) (firstPath taught.argv) ∧
      (plain.run .piped .quiet).Runs drawn (.line "cmd.exe /C tree /F \"a b\\c\"") ∧
      (taught.run .piped .verbose).Runs drawn (.line "cmd.exe /C tree /F \"a b\\c\"")) := by
  intro drawn stopped letter word plain taught
  have hlead (call : Call) (mode : Mode) (hm : mode ∈ precedence)
      (h : ∃ r, parseAs call.program call.argv = .ok r ∧ r.mode = mode) :
      (∃ r, parseAs call.program call.argv = .ok r) ∧ Leads (optionPart call.argv) mode := by
    obtain ⟨r, hr, hmode⟩ := h
    exact ⟨⟨r, hr⟩, (leads_iff_mode call.program call.argv r hr mode hm).mpr hmode⟩
  obtain ⟨hletter, hletterLeads⟩ := hlead letter .help (by decide) ⟨_, rfl, rfl⟩
  obtain ⟨hword, hwordLeads⟩ := hlead word .help (by decide) ⟨_, rfl, rfl⟩
  obtain ⟨hplain, hplainLeads⟩ := hlead plain .tree (by decide) ⟨_, rfl, rfl⟩
  obtain ⟨htaught, htaughtLeads⟩ := hlead taught .tree (by decide) ⟨_, rfl, rfl⟩
  have hslashes : SameButSlashes (firstPath plain.argv) (firstPath taught.argv) := by
    have hfirst : firstPath plain.argv = "a b/c" ∧ firstPath taught.argv = "a b\\c" := ⟨rfl, rfl⟩
    rw [hfirst.1, hfirst.2]
    simp [SameButSlashes, IsSlash]
  have hline : treeLine (firstPath plain.argv) = .line "cmd.exe /C tree /F \"a b\\c\"" := by
    decide
  have hhelp := (leading_mode_decides .piped .quiet .verbose letter word hletter hword).1 .help
    (by decide) hletterLeads hwordLeads
  have htree := (leading_mode_decides .piped .quiet .verbose plain taught hplain htaught).2
    hplainLeads htaughtLeads hslashes rfl
  rw [hline] at htree
  exact ⟨⟨hletterLeads, hwordLeads, hhelp⟩, hplainLeads, htaughtLeads, hslashes, htree⟩

theorem leading_mode_of_cut (before : Verbosity) (call : Call) (opts rest : List String)
    (hcut : Cut call.argv opts rest) (h : ∃ r, parseAs call.program call.argv = .ok r) :
    (∀ mode ∈ [Mode.rosetta, .help, .version], Leads opts mode →
      (call.run console before).Prints mode.text) ∧
    (Leads opts .tree →
      (call.run console before).Runs call.runner
        (treeLine ((opts.filter IsPath ++ rest).headD "."))) := by
  obtain ⟨rfl, rfl⟩ := parts_of_cut _ _ _ hcut
  exact ⟨prints_of_leads console before call h, runs_of_leads console before call h⟩

end WindowsListing
