import WindowsListing.Console.Piped
import WindowsListing.Proofs.Commands.DirLine
import WindowsListing.Proofs.Precedence

/-!
# Slashes in a line for cmd.exe

A slash begins a switch and is nothing else: the slashes of paths are turned.
So a path is never taken for a switch, whatever it looks like. In the
arguments of `dir` the switches are those that hold a slash, and in its line
each slash is where one of them begins. The line that draws a tree has one
slash, that of its one switch.
-/

set_option autoImplicit false

namespace WindowsListing
open WindowsListing.Shell

/-- The switches that flags select, in the order of the line. -/
def Flags.selected (f : Flags) : List String :=
  ([("/A", f.hidden),
    ("/S", f.recursive),
    ("/AD", f.directory),
    ("/B", f.onePerLine && !f.long),
    ("/O-D", !f.unsorted && f.sortBy = .time && !f.reverse),
    ("/OD", !f.unsorted && f.sortBy = .time && f.reverse),
    ("/O-S", !f.unsorted && f.sortBy = .size && !f.reverse),
    ("/OS", !f.unsorted && f.sortBy = .size && f.reverse),
    ("/O-N", !f.unsorted && f.sortBy = .name && f.reverse)].filter (·.2)).map (·.1)

def spaced (ws : List String) : List Char := ws.flatMap fun w => w.toList ++ [' ']

theorem eq_nil_of_not_mem_tail {α : Type} (a : α) (before after l : List α) (h : a ∉ l.tail)
    (hl : l = before ++ a :: after) : before = [] := by
  cases before with
  | nil => rfl
  | cons b bs =>
    rw [hl] at h
    exact absurd (by simp) h

theorem exists_word_of_joined (c : Char) (hc : c ≠ ' ') (ws : List String)
    (hw : ∀ w ∈ ws, c ∉ w.toList.tail) (before after : List Char)
    (h : joined ws = before ++ c :: after) :
    ∃ left w right, ws = left ++ w :: right ∧ w.toList.head? = some c ∧ before = spaced left ∧
      c :: after = joined (w :: right) := by
  induction ws generalizing before with
  | nil => simp [joined] at h
  | cons w ws ih =>
    have htail := hw w (by simp)
    cases ws with
    | nil =>
      have hword : w.toList = before ++ c :: after := by simpa [joined] using h
      have hnil := eq_nil_of_not_mem_tail c before after _ htail hword
      rw [hnil, List.nil_append] at hword h
      exact ⟨[], w, [], rfl, by rw [hword]; rfl, hnil, h.symm⟩
    | cons v vs =>
      rw [joined_cons_cons] at h
      rcases List.append_eq_append_iff.mp h with ⟨rest, hbefore, hrest⟩ | ⟨rest, hword, hrest⟩
      · -- The character stands behind the word, so behind the space as well.
        cases rest with
        | nil => exact absurd (List.cons.inj hrest).1.symm hc
        | cons d ds =>
          obtain ⟨hspace, hds⟩ := List.cons.inj hrest
          obtain ⟨left, u, right, hws, hhead, hleft, hright⟩ :=
            ih (fun x hx => hw x (by simp [hx])) ds hds
          refine ⟨w :: left, u, right, by rw [hws]; rfl, hhead, ?_, hright⟩
          rw [hbefore, hleft, ← hspace]
          simp [spaced]
      · cases rest with
        | nil => exact absurd (List.cons.inj hrest).1 hc
        | cons d ds =>
          rw [← (List.cons.inj hrest).1] at hword
          have hnil := eq_nil_of_not_mem_tail c before ds _ htail hword
          rw [hnil, List.nil_append] at hword h
          exact ⟨[], w, v :: vs, rfl, by rw [hword]; rfl, hnil, by rw [joined_cons_cons, h]⟩

theorem selected_eq (f : Flags) : f.selected = f.dirTexts := by
  unfold Flags.selected Flags.dirTexts Flags.dirSwitches Flags.order?
  generalize f.hidden = a, f.recursive = b, f.directory = c, (f.onePerLine && !f.long) = d,
    f.unsorted = e, f.reverse = g, f.sortBy = k
  cases k <;> revert a b c d e g <;> decide

theorem slash_begins_dirTexts (f : Flags) : ∀ t ∈ f.dirTexts, '/' ∉ t.toList.tail := by
  apply forall_dirTexts
  · intro s
    cases s <;> decide
  · rintro ⟨k, r⟩
    cases k <;> cases r <;> decide

theorem slash_begins_dirWords (f : Flags) (paths : List String) :
    ∀ w ∈ dirWords f paths, '/' ∉ w.toList.tail := by
  intro w hw
  rcases List.mem_cons.mp hw with rfl | hw
  · decide
  rcases List.mem_append.mp hw with ht | ha
  · exact slash_begins_dirTexts f w ht
  · obtain ⟨p, -, rfl⟩ := List.mem_map.mp ha
    exact fun h => slash_not_mem_argument p (List.mem_of_mem_tail h)

theorem filter_slash_arguments (f : Flags) (paths : List String) :
    (dirListing f paths).arguments.filter (fun a => '/' ∈ a.toList) = f.dirTexts := by
  have hswitches : f.dirTexts.filter (fun a => '/' ∈ a.toList) = f.dirTexts :=
    List.filter_eq_self.mpr fun t ht => decide_eq_true (dirTexts_bare f t ht).2.2
  have hpaths : (paths.map Path.argument).filter (fun a => '/' ∈ a.toList) = [] := by
    apply List.filter_eq_nil_iff.mpr
    intro a ha
    obtain ⟨p, -, rfl⟩ := List.mem_map.mp ha
    simpa using slash_not_mem_argument p
  change (f.dirTexts ++ paths.map Path.argument).filter _ = _
  rw [List.filter_append, hswitches, hpaths, List.append_nil]

theorem switch_of_word (f : Flags) (paths left right : List String) (w : String)
    (h : dirWords f paths = left ++ w :: right) (hw : '/' ∈ w.toList) :
    ∃ before after, f.dirTexts = before ++ w :: after ∧ left = "dir" :: before ∧
      right = after ++ paths.map Path.argument := by
  have hpath : w ∉ paths.map Path.argument := by
    intro hm
    obtain ⟨p, -, rfl⟩ := List.mem_map.mp hm
    exact slash_not_mem_argument p hw
  cases left with
  | nil =>
    rw [← (List.cons.inj h).1] at hw
    exact absurd hw (by decide)
  | cons d before =>
    obtain ⟨hd, hrest⟩ := List.cons.inj h
    rcases List.append_eq_append_iff.mp hrest with ⟨rest, -, hp⟩ | ⟨rest, ht, hr⟩
    · exact absurd (hp ▸ by simp) hpath
    · cases rest with
      | nil =>
        rw [List.nil_append] at hr
        exact absurd (hr ▸ List.mem_cons_self) hpath
      | cons u after =>
        obtain ⟨rfl, hafter⟩ := List.cons.inj hr
        exact ⟨before, after, ht, by rw [hd], hafter⟩

theorem switch_at_slash (f : Flags) (paths : List String) (before after : List Char)
    (h : (dirListing f paths).render.toList = before ++ '/' :: after) :
    ∃ left switch right, f.dirTexts = left ++ switch :: right ∧
      before = "dir ".toList ++ spaced left ∧
      '/' :: after = joined (switch :: right ++ paths.map Path.argument) := by
  rw [dirListing_render] at h
  obtain ⟨words, w, rest, hwords, hhead, hbefore, hafter⟩ :=
    exists_word_of_joined '/' (by decide) _ (slash_begins_dirWords f paths) before after h
  obtain ⟨left, right, htexts, rfl, rfl⟩ :=
    switch_of_word f paths words rest w hwords (List.mem_of_mem_head? hhead)
  exact ⟨left, w, right, htexts, hbefore, hafter⟩

theorem handed_tree (r : Request) (h : r.mode = .tree) :
    r.handed = treeLine (r.paths.headD "") := by
  rw [Request.handed, Request.runShell, Request.nativeCommand, if_pos h, if_pos h, handOver_tree]

theorem count_slash_tree (path : String) :
    ("tree /F " ++ Path.argument path).toList.count '/' = 1 := by
  have hlead : "tree /F ".toList.count '/' = 1 := by decide
  rw [String.toList_append, List.count_append, hlead,
    List.count_eq_zero.mpr (slash_not_mem_argument path)]

/-- Of the arguments of `dir` those with a slash are the switches selected,
ahead of one argument for each path, and in its line each slash begins one of
them. The line that a tree is drawn by has no slash but that of `/F`. -/
theorem slashes_are_switches (console : Console) (run : Runner) (r : Request) :
    (∃ c, dirCommand .standard r.flags r.paths = .ok c ∧
      c.arguments = r.flags.selected ++ r.paths.map Path.argument ∧
      c.arguments.filter (fun a => '/' ∈ a.toList) = r.flags.selected ∧
      ∀ before after, c.render.toList = before ++ '/' :: after →
        ∃ left switch right, r.flags.selected = left ++ switch :: right ∧
          before = "dir ".toList ++ spaced left ∧
          '/' :: after = joined (switch :: right ++ r.paths.map Path.argument)) ∧
    (r.mode = .tree → r.paths ≠ [] →
      ∃ line, (execute console run r).calls = [.line ("cmd.exe /C " ++ line)] ∧
        "tree /F ".toList <+: line.toList ∧ line.toList.count '/' = 1) := by
  constructor
  · refine ⟨_, dirCommand_standard r.flags r.paths, ?_⟩
    rw [selected_eq]
    exact ⟨rfl, filter_slash_arguments r.flags r.paths, switch_at_slash r.flags r.paths⟩
  · intro hmode hpaths
    have hcalls := (execute_running console run r (by rw [hmode]; rfl) hpaths).1
    rw [handed_tree r hmode, treeLine] at hcalls
    refine ⟨"tree /F " ++ Path.argument (r.paths.headD ""), ?_, ?_, count_slash_tree _⟩
    · have hlead : "cmd.exe /C tree /F " = "cmd.exe /C " ++ "tree /F " := by decide
      rw [hcalls, hlead, String.append_assoc]
    · rw [String.toList_append]
      exact List.prefix_append _ _

theorem slashes_are_switches_dressed :
    let r : Request :=
      { flags := { all := true, sortBy := .time }, paths := ["/S", "a /S", "\"/B"], tree := true }
    let run : Runner := fun _ => { finish := .exited 0 }
    (∃ c, dirCommand .standard r.flags r.paths = .ok c ∧
      c.arguments = ["/A", "/O-D", "\\S", "\"a \\S\"", "\"\\B"] ∧
      c.arguments.filter (fun a => '/' ∈ a.toList) = ["/A", "/O-D"]) ∧
    r.mode = .tree ∧ r.paths ≠ [] ∧
      ∃ line, (execute .piped run r).calls = [.line ("cmd.exe /C " ++ line)] ∧
        "tree /F ".toList <+: line.toList ∧ line.toList.count '/' = 1 := by
  intro r run
  obtain ⟨⟨c, hc, harguments, hfilter, -⟩, htree⟩ := slashes_are_switches .piped run r
  have hselected : r.flags.selected = ["/A", "/O-D"] := by decide
  have hpaths : r.paths.map Path.argument = ["\\S", "\"a \\S\"", "\"\\B"] := by decide
  have hnonempty : r.paths ≠ [] := List.cons_ne_nil _ _
  rw [hselected] at harguments hfilter
  rw [hpaths] at harguments
  exact ⟨⟨c, hc, harguments, hfilter⟩, rfl, hnonempty, htree rfl hnonempty⟩

end WindowsListing
