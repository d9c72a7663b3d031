import WindowsListing.CommandLine
import WindowsListing.Proofs.Commands.PowerShellLine

/-!
# Dashes in a command of PowerShell

A parameter of PowerShell begins with a dash, and so may a path. The arguments
of `Get-ChildItem` that begin with one are the parameters selected, the one
for paths, and behind it every path that begins with a dash and holds no
space. A path with a space stands between quotation marks, and is no
parameter. Any other path that begins with a dash passes for one.
-/

set_option autoImplicit false

namespace WindowsListing

/-- The parameters that flags select, in the order of the line. -/
def Flags.selectedParameters (f : Flags) : List String :=
  ([("-Force", f.hidden), ("-Recurse", f.recursive), ("-Directory", f.directory)].filter
    (·.2)).map (·.1)

def Dashed (text : String) : Prop := text.toList.head? = some '-'

instance (text : String) : Decidable (Dashed text) := inferInstanceAs (Decidable (_ = _))

theorem selectedParameters_eq (f : Flags) :
    f.selectedParameters = f.parameters.map Parameter.text := by
  unfold Flags.selectedParameters Flags.parameters
  generalize f.hidden = a, f.recursive = b, f.directory = c
  revert a b c
  decide

theorem dashed_parameter (p : Parameter) : Dashed p.text := by
  cases p <;> decide

theorem dashed_toWindows (path : String) : Dashed (Path.toWindows path) ↔ Dashed path := by
  rw [Dashed, Dashed, Path.toList_toWindows]
  cases path.toList with
  | nil => rfl
  | cons c cs =>
    by_cases hc : c = '/'
    · simp [Path.backslashed, hc]
    · simp [Path.backslashed, hc]

theorem dashed_enclose (text : String) :
    Dashed (Path.enclose text) ↔ Dashed text ∧ ' ' ∉ text.toList := by
  by_cases hs : ' ' ∈ text.toList
  · have henclosed := Path.enclosed_enclose text ((Path.mem_enclose ' ' text (by decide)).mpr hs)
    simp [Dashed, henclosed.1, hs]
  · rw [Path.enclose_of_no_space text hs]
    simp [hs]

theorem dashed_argument (path : String) :
    Dashed (Path.argument path) ↔ Dashed path ∧ ' ' ∉ path.toList := by
  rw [Path.argument, dashed_enclose, dashed_toWindows,
    Path.mem_toWindows _ _ (by decide) (by decide)]

theorem dashed_comma (text : String) : Dashed (text ++ ",") ↔ Dashed text := by
  rw [Dashed, Dashed, String.toList_append]
  cases text.toList with
  | nil => decide
  | cons c cs => rfl

theorem filter_dashed_arguments (f : Flags) (paths : List String) (hp : paths ≠ []) :
    (psListing f paths).arguments.filter (fun a => Dashed a) =
      f.selectedParameters ++
        "-Path" :: (commaSeparated (paths.map Path.argument)).filter fun a => Dashed a := by
  have hparameters : (f.parameters.map Parameter.text).filter (fun a => Dashed a) =
      f.parameters.map Parameter.text := by
    apply List.filter_eq_self.mpr
    intro t ht
    obtain ⟨p, -, rfl⟩ := List.mem_map.mp ht
    exact decide_eq_true (dashed_parameter p)
  change (f.parameters.map Parameter.text ++ Fragments.standard.pathArguments paths).filter _ = _
  rw [List.filter_append, hparameters, Fragments.pathArguments, if_neg hp, selectedParameters_eq,
    List.filter_cons_of_pos (by decide)]
  rfl

theorem filter_dashed_paths (paths : List String) :
    (commaSeparated (paths.map Path.argument)).filter (fun a => Dashed a) = [] ↔
      ∀ p ∈ paths, Dashed p → ' ' ∈ p.toList := by
  have hsome := exists_mem_commaSeparated Dashed (paths.map Path.argument) dashed_comma
  rw [List.filter_eq_nil_iff]
  constructor
  · intro h p hp hd
    by_contra hs
    have hargument := (dashed_argument p).mpr ⟨hd, hs⟩
    obtain ⟨w, hw, hdashed⟩ := hsome.mpr ⟨_, List.mem_map_of_mem hp, hargument⟩
    exact h w hw (decide_eq_true hdashed)
  · intro h w hw hdashed
    obtain ⟨a, ha, hargument⟩ := hsome.mp ⟨w, hw, of_decide_eq_true hdashed⟩
    obtain ⟨p, hp, rfl⟩ := List.mem_map.mp ha
    obtain ⟨hd, hs⟩ := (dashed_argument p).mp hargument
    exact hs (h p hp hd)

/-- The arguments that begin with a dash are the parameters selected and the
one for paths exactly if every path that begins with a dash holds a space. -/
theorem dashed_arguments_iff (f : Flags) (paths : List String) (hp : paths ≠ []) :
    ∃ c, powershellCommand .standard f paths = .ok c ∧
      c.arguments.filter (fun a => Dashed a) =
        f.selectedParameters ++
          "-Path" :: (commaSeparated (paths.map Path.argument)).filter (fun a => Dashed a) ∧
      (c.arguments.filter (fun a => Dashed a) = f.selectedParameters ++ ["-Path"] ↔
        ∀ p ∈ paths, Dashed p → ' ' ∈ p.toList) := by
  have hfilter := filter_dashed_arguments f paths hp
  refine ⟨_, powershellCommand_standard f paths, hfilter, ?_⟩
  rw [hfilter, ← filter_dashed_paths paths]
  simp

theorem dashed_arguments_iff_spaced :
    ["/-x", "-a b"] ≠ [] ∧
      ∃ c, powershellCommand .standard { all := true } ["/-x", "-a b"] = .ok c ∧
        c.arguments.filter (fun a => Dashed a) = ["-Force", "-Path"] := by
  obtain ⟨c, hc, -, hiff⟩ :=
    dashed_arguments_iff { all := true } ["/-x", "-a b"] (List.cons_ne_nil _ _)
  exact ⟨List.cons_ne_nil _ _, c, hc, hiff.mpr (by decide)⟩

/-- A path behind `--` that is the name of a parameter is handed over as one,
and a lone dash as the beginning of one. -/
theorem path_passes_for_parameter :
    (∃ r c, parseAs none ["--powershell", "--", "-Recurse"] = .ok r ∧
      powershellCommand .standard r.flags r.paths = .ok c ∧
      c.arguments = ["-Path", "-Recurse"] ∧
      c.arguments.filter (fun a => Dashed a) ≠ r.flags.selectedParameters ++ ["-Path"]) ∧
    ∃ r c, parseAs none ["-l", "-"] = .ok r ∧
      powershellCommand .standard r.flags r.paths = .ok c ∧
      c.arguments = ["-Path", "-"] ∧
      c.arguments.filter (fun a => Dashed a) ≠ r.flags.selectedParameters ++ ["-Path"] := by
  exact ⟨⟨_, _, rfl, rfl, rfl, by decide⟩, _, _, rfl, rfl, rfl, by decide⟩

end WindowsListing
