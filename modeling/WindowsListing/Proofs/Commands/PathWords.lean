import WindowsListing.Proofs.Commands.Slashes

/-!
# Words of a line for cmd.exe

Taken apart at the spaces outside quotation marks, the line of `dir` gives
back what it was put together from: the program, the switches selected, and
each path as one word, with its spaces and without the marks around it. Only a
path that is empty leaves no word, since it gets no marks.
-/

set_option autoImplicit false

namespace WindowsListing
open WindowsListing.Shell

theorem toWindows_eq_empty_iff (path : String) : Path.toWindows path = "" ↔ path = "" := by
  rw [← String.toList_eq_nil_iff, Path.toList_toWindows, Path.backslashed, List.map_eq_nil_iff,
    String.toList_eq_nil_iff]

theorem words_argument (path : String) (hq : '"' ∉ path.toList) :
    words (Path.argument path) = if path = "" then [] else [Path.toWindows path] := by
  rw [Path.argument, words_enclose _ (quote_not_mem_toWindows path hq)]
  simp only [toWindows_eq_empty_iff]

theorem words_arguments (paths : List String) (hp : Unmarked paths) :
    (paths.map Path.argument).flatMap words = (paths.filter (· ≠ "")).map Path.toWindows := by
  induction paths with
  | nil => rfl
  | cons p ps ih =>
    have htail := ih fun q hq => hp q (by simp [hq])
    rw [List.map_cons, List.flatMap_cons, words_argument p (hp p (by simp)), htail]
    by_cases he : p = "" <;> simp [he]

theorem words_dirTexts (f : Flags) : f.dirTexts.flatMap words = f.dirTexts := by
  have hword : ∀ t ∈ f.dirTexts, words t = [t] := by
    intro t ht
    obtain ⟨hspace, hquote, hslash⟩ := dirTexts_bare f t ht
    have hne : t ≠ "" := by
      rintro rfl
      exact absurd hslash (by decide)
    rw [words_bare t hspace hquote, if_neg hne]
  rw [List.flatMap_def, List.map_congr_left hword, ← List.flatMap_def, List.flatMap_singleton']

theorem words_dirListing (f : Flags) (paths : List String) (hp : Unmarked paths) :
    words (dirListing f paths).render =
      "dir" :: (f.dirTexts ++ (paths.filter (· ≠ "")).map Path.toWindows) := by
  have hprogram : words "dir" = ["dir"] := by decide
  rw [words, dirListing_render, words_joined _ (insideAfter_dirWords f paths hp), dirWords,
    List.flatMap_cons, List.flatMap_append, hprogram, words_dirTexts, words_arguments paths hp]
  rfl

/-- The words of the line of `dir` are the program, the switches selected and
the paths that are not empty, so all paths exactly if none is. -/
theorem words_kept_iff (f : Flags) (paths : List String) (hp : Unmarked paths) :
    ∃ c, dirCommand .standard f paths = .ok c ∧
      words c.render =
        "dir" :: (f.selected ++ (paths.filter (· ≠ "")).map Path.toWindows) ∧
      (words c.render = "dir" :: (f.selected ++ paths.map Path.toWindows) ↔ "" ∉ paths) := by
  have hwords := words_dirListing f paths hp
  refine ⟨_, dirCommand_standard f paths, ?_⟩
  rw [selected_eq]
  refine ⟨hwords, ?_⟩
  rw [hwords]
  constructor
  · intro h he
    have hlengths := congrArg List.length (List.append_cancel_left (List.cons.inj h).2)
    rw [List.length_map, List.length_map, List.length_filter_eq_length_iff] at hlengths
    simpa using hlengths "" he
  · intro h
    have hall : paths.filter (· ≠ "") = paths := by
      apply List.filter_eq_self.mpr
      intro p hm
      exact decide_eq_true fun he => h (he ▸ hm)
    rw [hall]

/-- A path that is all spaces, one with a slash and spaces at both ends, and a bare one. -/
theorem words_kept_iff_spaces :
    Unmarked ["  ", " a b/c ", "-x"] ∧ "" ∉ ["  ", " a b/c ", "-x"] ∧
      ∃ c, dirCommand .standard { recursive := true } ["  ", " a b/c ", "-x"] = .ok c ∧
        words c.render = ["dir", "/S", "  ", " a b\\c ", "-x"] := by
  have hp : Unmarked ["  ", " a b/c ", "-x"] := by unfold Unmarked; decide
  obtain ⟨c, hc, -, hiff⟩ := words_kept_iff { recursive := true } ["  ", " a b/c ", "-x"] hp
  have hne : "" ∉ ["  ", " a b/c ", "-x"] := by decide
  exact ⟨hp, hne, c, hc, hiff.mpr hne⟩

/-- An empty path in front of another leaves two spaces in a row, and no word between them. -/
theorem empty_path_lost :
    ∃ r c, parseAs none ["", "a"] = .ok r ∧ Unmarked r.paths ∧
      dirCommand .standard r.flags r.paths = .ok c ∧ c.render = "dir  a" ∧
      words c.render = ["dir", "a"] ∧
      words c.render ≠ "dir" :: (r.flags.selected ++ r.paths.map Path.toWindows) := by
  refine ⟨_, _, rfl, by unfold Unmarked; decide, rfl, by decide, by decide, by decide⟩

end WindowsListing
