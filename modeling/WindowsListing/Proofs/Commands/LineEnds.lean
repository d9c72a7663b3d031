import WindowsListing.Proofs.Commands.DirLine
import WindowsListing.Proofs.Commands.PowerShellLine

/-!
# Line ends in a command

Every text that a command is put together from stands on one line, but for
the paths. So the line of a command holds a line end exactly when one of its
paths does, and the lines for the two shells hold one both or neither. The
description of a command, which names no path, never does.
-/

set_option autoImplicit false

namespace WindowsListing
open WindowsListing.Shell

theorem mem_intercalate {α : Type} (a : α) (sep : List α) (ts : List (List α)) (hs : a ∉ sep) :
    a ∈ sep.intercalate ts ↔ ∃ t ∈ ts, a ∈ t := by
  induction ts with
  | nil => simp
  | cons t ts ih =>
    cases ts with
    | nil => simp
    | cons u us =>
      rw [List.intercalate_cons_cons, List.mem_append, List.mem_append, ih]
      simp [hs]

theorem newline_mem_joined (ws : List String) :
    '\n' ∈ joined ws ↔ ∃ w ∈ ws, '\n' ∈ w.toList := by
  rw [joined, mem_intercalate _ _ _ (by decide)]
  simp

theorem newline_mem_argument (path : String) :
    '\n' ∈ (Path.argument path).toList ↔ '\n' ∈ path.toList :=
  Path.mem_argument _ path (by decide) (by decide) (by decide)

theorem newline_mem_pathArguments (paths : List String) :
    (∃ w ∈ Fragments.standard.pathArguments paths, '\n' ∈ w.toList) ↔
      ∃ p ∈ paths, '\n' ∈ p.toList := by
  by_cases hn : paths = []
  · simp [Fragments.pathArguments, hn]
  · have hp : '\n' ∉ Fragments.standard.psPathParameter.toList := by decide
    rw [Fragments.pathArguments, if_neg hn, List.exists_mem_cons_iff,
      exists_mem_commaSeparated (fun w => '\n' ∈ w.toList) _ (by simp)]
    simp [hp, newline_mem_argument]

theorem newline_not_mem_dirTexts (f : Flags) : ∀ t ∈ f.dirTexts, '\n' ∉ t.toList := by
  apply forall_dirTexts
  · intro s
    cases s <;> decide
  · rintro ⟨k, r⟩
    cases k <;> cases r <;> decide

theorem newline_not_mem_parameters (f : Flags) :
    ∀ t ∈ f.parameters.map Parameter.text, '\n' ∉ t.toList := by
  intro t ht
  obtain ⟨p, -, rfl⟩ := List.mem_map.mp ht
  cases p <;> decide

theorem newline_not_mem_layout (l : Layout) : '\n' ∉ l.text.toList := by
  cases l
  all_goals simp only [Layout.text, Fragments.standard, Option.getD_some, String.toList_append]
  all_goals decide +kernel

theorem newline_not_mem_stageWords (f : Flags) :
    ∀ w ∈ stageWords f.stages, '\n' ∉ w.toList := by
  intro w hw
  obtain ⟨s, hs, hw⟩ := List.mem_flatMap.mp hw
  rcases List.mem_cons.mp hw with rfl | hw
  · decide
  rw [List.mem_singleton.mp hw]
  rcases List.mem_append.mp hs with ho | hl
  · obtain ⟨⟨k, r⟩, -, rfl⟩ := Option.map_eq_some_iff.mp (Option.mem_toList.mp ho)
    cases k <;> cases r <;> decide
  · obtain ⟨l, -, rfl⟩ := List.mem_map.mp hl
    exact newline_not_mem_layout l

theorem newline_mem_dirWords (f : Flags) (paths : List String) :
    (∃ w ∈ dirWords f paths, '\n' ∈ w.toList) ↔ ∃ p ∈ paths, '\n' ∈ p.toList := by
  constructor
  · rintro ⟨w, hw, hn⟩
    rcases List.mem_cons.mp hw with rfl | hw
    · exact absurd hn (by decide)
    rcases List.mem_append.mp hw with ht | ha
    · exact absurd hn (newline_not_mem_dirTexts f w ht)
    · obtain ⟨p, hp, rfl⟩ := List.mem_map.mp ha
      exact ⟨p, hp, (newline_mem_argument p).mp hn⟩
  · rintro ⟨p, hp, hn⟩
    have ha : Path.argument p ∈ paths.map Path.argument := List.mem_map_of_mem hp
    exact ⟨_, List.mem_cons_of_mem _ (List.mem_append_right _ ha), (newline_mem_argument p).mpr hn⟩

theorem newline_mem_psWords (f : Flags) (paths : List String) :
    (∃ w ∈ psWords f paths ++ stageWords f.stages, '\n' ∈ w.toList) ↔
      ∃ p ∈ paths, '\n' ∈ p.toList := by
  rw [← newline_mem_pathArguments paths]
  constructor
  · rintro ⟨w, hw, hn⟩
    rcases List.mem_append.mp hw with hw | hs
    · rcases List.mem_cons.mp hw with rfl | hw
      · exact absurd hn (by decide)
      rcases List.mem_append.mp hw with hp | ha
      · exact absurd hn (newline_not_mem_parameters f w hp)
      · exact ⟨w, ha, hn⟩
    · exact absurd hn (newline_not_mem_stageWords f w hs)
  · rintro ⟨w, hw, hn⟩
    exact ⟨w, List.mem_append_left _ (List.mem_cons_of_mem _ (List.mem_append_right _ hw)), hn⟩

theorem newline_mem_render (f : Flags) (paths : List String) (shell : Shell) :
    '\n' ∈ ((listings f paths).command shell).render.toList ↔ ∃ p ∈ paths, '\n' ∈ p.toList := by
  cases shell with
  | cmd =>
    change '\n' ∈ (dirListing f paths).render.toList ↔ _
    rw [dirListing_render, newline_mem_joined, newline_mem_dirWords]
  | powershell =>
    change '\n' ∈ (psListing f paths).render.toList ↔ _
    rw [psListing_render, newline_mem_joined, newline_mem_psWords]

def labelNames : List String :=
  ["show hidden files", "show hidden files except . and ..", "long format", "recursive",
    "directories only", "sort by time", "sort by size", "unsorted", "reverse order",
    "human-readable sizes", "classify entries"]

theorem mem_labelNames (f : Flags) : ∀ label ∈ f.labels, label ∈ labelNames := by
  intro label hl
  obtain ⟨named, hn, rfl⟩ := List.mem_map.mp hl
  exact List.mem_map_of_mem (f := Prod.fst) (List.mem_filter.mp hn).1

theorem newline_not_mem_description (f : Flags) : '\n' ∉ f.description.toList := by
  have hlabels : '\n' ∉ (", ".intercalate f.labels).toList := by
    rw [String.toList_intercalate, mem_intercalate _ _ _ (by decide)]
    rintro ⟨t, ht, hn⟩
    obtain ⟨label, hl, rfl⟩ := List.mem_map.mp ht
    have hnames : ∀ name ∈ labelNames, '\n' ∉ name.toList := by decide +kernel
    exact hnames label (mem_labelNames f label hl) hn
  unfold Flags.description
  rw [String.toList_append, List.mem_append, not_or]
  refine ⟨by decide, ?_⟩
  split
  · decide
  · simpa using hlabels

end WindowsListing
