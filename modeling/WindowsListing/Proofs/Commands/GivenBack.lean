import WindowsListing.Dispatch

/-!
# Paths given back

A path as it is written into a command can be given back as a path. Its
separators are turned already, and marks are not put around it twice, however
many of its own it has. So the commands for it are the same, under any table
of fragments, and a request does the same in every mode.
-/

set_option autoImplicit false

namespace WindowsListing

namespace Path

theorem toWindows_toWindows (path : String) : toWindows (toWindows path) = toWindows path := by
  apply String.toList_inj.mp
  rw [toList_toWindows, toList_toWindows]
  exact backslashed_of_not_mem _ (slash_not_mem_backslashed path.toList)

theorem enclosed_backslashed (cs : List Char) : Enclosed (backslashed cs) ↔ Enclosed cs := by
  have hmark (edge : Option Char) :
      edge.map (fun c => if c = '/' then '\\' else c) = some '"' ↔ edge = some '"' := by
    cases edge with
    | none => simp
    | some c =>
      by_cases hc : c = '/'
      · simp [hc]
      · simp [hc]
  rw [Enclosed, Enclosed, backslashed, List.head?_map, List.getLast?_map, hmark, hmark]

theorem toWindows_enclose (path : String) :
    toWindows (enclose path) = enclose (toWindows path) := by
  have hmarks : (' ' ∈ (toWindows path).toList ∧ ¬ Enclosed (toWindows path).toList) ↔
      (' ' ∈ path.toList ∧ ¬ Enclosed path.toList) := by
    rw [mem_toWindows _ _ (by decide) (by decide), toList_toWindows, enclosed_backslashed]
  by_cases h : ' ' ∈ path.toList ∧ ¬ Enclosed path.toList
  · rw [enclose, enclose, if_pos h, if_pos (hmarks.mpr h)]
    apply String.toList_inj.mp
    simp [toList_toWindows, backslashed]
  · rw [enclose, enclose, if_neg h, if_neg (mt hmarks.mp h)]

theorem enclose_enclose (text : String) : enclose (enclose text) = enclose text := by
  by_cases hs : ' ' ∈ (enclose text).toList
  · have henclosed := enclosed_enclose text hs
    rw [enclose, if_neg fun h => h.2 henclosed]
  · exact enclose_of_no_space _ hs

theorem argument_argument (path : String) : argument (argument path) = argument path := by
  rw [argument, argument, toWindows_enclose, toWindows_toWindows, enclose_enclose]

end Path

section
variable {paths others : List String} (h : others.map Path.argument = paths.map Path.argument)
include h

theorem pathArguments_congr_paths (t : Fragments) :
    t.pathArguments others = t.pathArguments paths := by
  have hnil : others = [] ↔ paths = [] := by
    rw [← List.map_eq_nil_iff (f := Path.argument), h, List.map_eq_nil_iff]
  rw [Fragments.pathArguments, Fragments.pathArguments, h]
  simp only [hnil]

theorem commands_congr_paths (t : Fragments) (f : Flags) :
    t.commands f others = t.commands f paths := by
  have hdir : dirCommand t f others = dirCommand t f paths := by
    rw [dirCommand, dirCommand, h]
  have hpowershell : powershellCommand t f others = powershellCommand t f paths := by
    rw [powershellCommand, powershellCommand, pathArguments_congr_paths h]
  rw [Fragments.commands, Fragments.commands, hdir, hpowershell]

end

variable (console : Console)

theorem treeCommand_congr (path other : String) (h : Path.argument other = Path.argument path) :
    treeCommand other = treeCommand path := by
  rw [treeCommand, treeCommand, h]

theorem execute_congr_paths (run : Runner) (r : Request) (others : List String)
    (h : others.map Path.argument = r.paths.map Path.argument) :
    execute console run { r with paths := others } = execute console run r := by
  have htree : runTree run { r with paths := others } = runTree run r := by
    cases others with
    | nil =>
      have hnil := List.map_eq_nil_iff.mp h.symm
      rw [runTree, runTree, hnil]
    | cons other rest =>
      cases hp : r.paths with
      | nil => simp [hp] at h
      | cons path paths =>
        rw [hp] at h
        rw [runTree, runTree, hp]
        exact congrArg (runIn run .cmd) (treeCommand_congr path other (List.cons.inj h).1)
  have hlisting : runListing console run { r with paths := others } = runListing console run r := by
    rw [runListing, runListing, commands_congr_paths h]
    rfl
  have hmode : runMode console run { r with paths := others } = runMode console run r := by
    rw [runMode, runMode, htree, hlisting]
    rfl
  rw [execute, execute, hmode]
  rfl

/-- To write a path for a command is done once and for all, and the marks may
come first. Commands and requests do not tell a path from what is written for
it, be it all paths or the first, by which a tree is drawn. -/
theorem written_paths_stable :
    (∀ path, Path.argument (Path.argument path) = Path.argument path ∧
      Path.argument path = Path.toWindows (Path.enclose path)) ∧
    (∀ (t : Fragments) (f : Flags) (paths : List String),
      t.commands f (paths.map Path.argument) = t.commands f paths) ∧
    ∀ (run : Runner) (r : Request),
      execute console run { r with paths := r.paths.map Path.argument } = execute console run r ∧
      execute console run { r with paths := r.paths.modifyHead Path.argument } =
        execute console run r := by
  have htwice : Path.argument ∘ Path.argument = Path.argument := by
    funext p
    rw [Function.comp, Path.argument_argument]
  have hall (paths : List String) :
      (paths.map Path.argument).map Path.argument = paths.map Path.argument := by
    rw [List.map_map, htwice]
  have hfirst (paths : List String) :
      (paths.modifyHead Path.argument).map Path.argument = paths.map Path.argument := by
    cases paths with
    | nil => rfl
    | cons p ps => rw [List.modifyHead_cons, List.map_cons, List.map_cons, Path.argument_argument]
  refine ⟨fun path => ⟨Path.argument_argument path, (Path.toWindows_enclose path).symm⟩, ?_, ?_⟩
  · intro t f paths
    exact commands_congr_paths (hall paths) t f
  · intro run r
    exact ⟨execute_congr_paths console run r _ (hall r.paths),
      execute_congr_paths console run r _ (hfirst r.paths)⟩

end WindowsListing
