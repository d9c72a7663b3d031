import WindowsListing.CommandLine
import WindowsListing.Proofs.Commands.DirLine

/-!
# Operators in a line for cmd.exe

A few characters end a command of cmd.exe or lead its input and output
elsewhere, unless they stand between two quotation marks. No switch holds one,
but a path may. A path with a space stands between marks as a whole. Of any
other path the operators stand outside, and the line goes on behind them as
cmd.exe likes. So the operators outside marks are those of the paths without a
space, and the line is one command exactly if none of these has any.
-/

set_option autoImplicit false

namespace WindowsListing
open WindowsListing.Shell

/-- The characters by which cmd.exe joins commands and redirects what they read and write. -/
def Shell.operators : List Char := ['&', '|', '<', '>']

/-- Every operator stands between an opening and a closing mark, counted from the left. -/
def Sheltered (line : String) : Prop :=
  ∀ before c after, line.toList = before ++ c :: after → c ∈ operators →
    before.count '"' % 2 = 1 ∧ '"' ∈ after

def bareOperators (path : String) : List Char :=
  if ' ' ∈ path.toList then [] else path.toList.filter (· ∈ operators)

theorem operator_ne_quote (c : Char) (h : c ∈ operators) : c ≠ '"' := by
  rintro rfl
  exact absurd h (by decide)

theorem sheltered_iff (line : String) (hclosed : insideAfter false line.toList = false) :
    Sheltered line ↔ (unquoted line).filter (· ∈ operators) = [] := by
  rw [List.filter_eq_nil_iff]
  constructor
  · intro h c hc hop
    have hop := of_decide_eq_true hop
    obtain ⟨before, after, hline, houtside⟩ :=
      (mem_unquotedFrom false _ c (operator_ne_quote c hop)).mp hc
    have hodd := (h before c after hline hop).1
    rw [insideAfter_eq_odd] at houtside
    simp [hodd] at houtside
  · intro h before c after hline hop
    have hne := operator_ne_quote c hop
    have hinside : insideAfter false before = true := by
      by_contra hn
      have hc := (mem_unquotedFrom false _ c hne).mpr
        ⟨before, after, hline, eq_false_of_ne_true hn⟩
      exact h c hc (decide_eq_true hop)
    refine ⟨by simpa [insideAfter_eq_odd] using hinside, ?_⟩
    -- Without a mark behind the operator the line would end inside.
    by_contra hq
    have htail : '"' ∉ c :: after := by simp [Ne.symm hne, hq]
    rw [hline, insideAfter_append, hinside, insideAfter_of_not_mem true _ htail] at hclosed
    exact absurd hclosed (by decide)

theorem filter_operators_toWindows (path : String) :
    (Path.toWindows path).toList.filter (· ∈ operators) = path.toList.filter (· ∈ operators) := by
  rw [Path.toList_toWindows]
  induction path.toList with
  | nil => rfl
  | cons c cs ih =>
    by_cases hc : c = '/'
    · have hslash : '/' ∉ operators ∧ '\\' ∉ operators := by decide
      simpa [Path.backslashed, hc, hslash] using ih
    · rw [Path.backslashed, List.map_cons, if_neg hc, List.filter_cons, List.filter_cons, ← ih]
      rfl

theorem operators_argument (path : String) (hq : '"' ∉ path.toList) :
    (unquoted (Path.argument path)).filter (· ∈ operators) = bareOperators path := by
  have hspace := Path.mem_toWindows ' ' path (by decide) (by decide)
  rw [Path.argument, unquoted_enclose _ (quote_not_mem_toWindows path hq), bareOperators]
  by_cases hs : ' ' ∈ path.toList
  · rw [if_pos (hspace.mpr hs), if_pos hs]
    rfl
  · rw [if_neg (mt hspace.mp hs), if_neg hs]
    exact filter_operators_toWindows path

theorem operators_dirTexts (f : Flags) :
    ∀ t ∈ f.dirTexts, (unquoted t).filter (· ∈ operators) = [] := by
  apply forall_dirTexts
  · intro s
    cases s <;> decide
  · rintro ⟨k, r⟩
    cases k <;> cases r <;> decide

theorem operators_dirListing (f : Flags) (paths : List String) (hp : Unmarked paths) :
    (unquoted (dirListing f paths).render).filter (· ∈ operators) =
      paths.flatMap bareOperators := by
  have hprogram : (unquoted "dir").filter (· ∈ operators) = [] := by decide
  have htexts : f.dirTexts.flatMap (fun w => (unquoted w).filter (· ∈ operators)) = [] :=
    List.flatMap_eq_nil_iff.mpr (operators_dirTexts f)
  have hpaths : paths.flatMap (fun p => (unquoted (Path.argument p)).filter (· ∈ operators)) =
      paths.flatMap bareOperators := by
    rw [List.flatMap_def, List.flatMap_def,
      List.map_congr_left fun p hm => operators_argument p (hp p hm)]
  rw [unquoted, dirListing_render,
    filter_unquoted_joined _ (by decide) _ (insideAfter_dirWords f paths hp), dirWords,
    List.flatMap_cons, List.flatMap_append, List.flatMap_map, hprogram, htexts, hpaths]
  rfl

theorem bareOperators_eq_nil_iff (path : String) :
    bareOperators path = [] ↔ ((∃ o ∈ operators, o ∈ path.toList) → ' ' ∈ path.toList) := by
  rw [bareOperators]
  by_cases hs : ' ' ∈ path.toList
  · simp [hs]
  · rw [if_neg hs, List.filter_eq_nil_iff]
    constructor
    · rintro h ⟨o, hop, hm⟩
      exact absurd (decide_eq_true hop) (h o hm)
    · intro h c hc hop
      exact hs (h ⟨c, of_decide_eq_true hop, hc⟩)

/-- The line of `dir` shelters every operator exactly if each path that holds
one holds a space. Outside marks it has the operators of all other paths. -/
theorem operators_sheltered_iff (f : Flags) (paths : List String) (hp : Unmarked paths) :
    ∃ c, dirCommand .standard f paths = .ok c ∧
      (unquoted c.render).filter (· ∈ operators) = paths.flatMap bareOperators ∧
      (Sheltered c.render ↔
        ∀ p ∈ paths, (∃ o ∈ operators, o ∈ p.toList) → ' ' ∈ p.toList) := by
  have hclosed : insideAfter false (dirListing f paths).render.toList = false := by
    rw [dirListing_render]
    exact insideAfter_joined _ (insideAfter_dirWords f paths hp)
  have hoperators := operators_dirListing f paths hp
  refine ⟨_, dirCommand_standard f paths, hoperators, ?_⟩
  rw [sheltered_iff _ hclosed, hoperators, List.flatMap_eq_nil_iff]
  exact forall₂_congr fun p _ => bareOperators_eq_nil_iff p

theorem operators_sheltered_iff_spaced :
    Unmarked ["R & D/<old>", "| >", "a/b"] ∧
      ∃ c, dirCommand .standard { all := true, sortBy := .size } ["R & D/<old>", "| >", "a/b"] =
          .ok c ∧
        c.render = "dir /A /O-S \"R & D\\<old>\" \"| >\" a\\b" ∧ Sheltered c.render := by
  have hp : Unmarked ["R & D/<old>", "| >", "a/b"] := by unfold Unmarked; decide
  obtain ⟨c, hc, -, hiff⟩ :=
    operators_sheltered_iff { all := true, sortBy := .size } ["R & D/<old>", "| >", "a/b"] hp
  have hrender : c.render = "dir /A /O-S \"R & D\\<old>\" \"| >\" a\\b" := by
    rw [dirCommand_standard] at hc
    rw [← Except.ok.inj hc]
    decide
  have hnone : ∀ p ∈ ["R & D/<old>", "| >", "a/b"], bareOperators p = [] := by decide
  exact ⟨hp, c, hc, hrender, hiff.mpr fun p hm => (bareOperators_eq_nil_iff p).mp (hnone p hm)⟩

theorem path_ends_command :
    ∃ r c, parseAs none ["R&D"] = .ok r ∧ Unmarked r.paths ∧
      dirCommand .standard r.flags r.paths = .ok c ∧ c.render = "dir R&D" ∧
      ¬ Sheltered c.render := by
  refine ⟨_, _, rfl, by unfold Unmarked; decide, rfl, by decide, ?_⟩
  intro h
  have hodd := (h "dir R".toList '&' "D".toList (by decide) (by decide)).1
  exact absurd hodd (by decide)

end WindowsListing
