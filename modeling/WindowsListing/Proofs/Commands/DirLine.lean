import WindowsListing.Proofs.Commands.Standard
import WindowsListing.Proofs.Shell.Marks

/-!
# The line for cmd.exe

The rendered line of `dir` shows all that the command says. Its fields are
the program, the switches and the paths; switches hold a slash and paths do
not, so two lines agree only where switches and paths do.
-/

set_option autoImplicit false

namespace WindowsListing
open WindowsListing.Shell

def Flags.dirTexts (f : Flags) : List String :=
  f.dirSwitches.map DirSwitch.text ++ (f.order?.map dirOrderText).toList

theorem forall_dirTexts (p : String → Prop) (hs : ∀ s : DirSwitch, p s.text)
    (ho : ∀ o, p (dirOrderText o)) (f : Flags) : ∀ t ∈ f.dirTexts, p t := by
  intro t ht
  rcases List.mem_append.mp ht with hm | hm
  · obtain ⟨s, -, rfl⟩ := List.mem_map.mp hm
    exact hs s
  · obtain ⟨o, -, rfl⟩ := Option.map_eq_some_iff.mp (Option.mem_toList.mp hm)
    exact ho o

theorem dirText_bare (s : DirSwitch) :
    ' ' ∉ s.text.toList ∧ '"' ∉ s.text.toList ∧ '/' ∈ s.text.toList := by
  cases s <;> decide

theorem dirOrderText_bare (o : SortKey × Bool) (h : o ≠ (.name, false)) :
    ' ' ∉ (dirOrderText o).toList ∧ '"' ∉ (dirOrderText o).toList ∧
      '/' ∈ (dirOrderText o).toList := by
  obtain ⟨k, r⟩ := o
  cases k <;> cases r
  case name.false => exact absurd rfl h
  all_goals decide

theorem dirTexts_bare (f : Flags) (t : String) (ht : t ∈ f.dirTexts) :
    ' ' ∉ t.toList ∧ '"' ∉ t.toList ∧ '/' ∈ t.toList := by
  rcases List.mem_append.mp ht with hs | ho
  · obtain ⟨s, -, rfl⟩ := List.mem_map.mp hs
    exact dirText_bare s
  · obtain ⟨o, hf, rfl⟩ := Option.map_eq_some_iff.mp (Option.mem_toList.mp ho)
    exact dirOrderText_bare o fun hn => order?_ne_plain f (hn ▸ hf)

theorem dirText_inj (s t : DirSwitch) (h : s.text = t.text) : s = t := by
  cases s <;> cases t <;> revert h <;> decide

theorem dirOrderText_inj (o p : SortKey × Bool) (h : dirOrderText o = dirOrderText p) :
    o = p := by
  obtain ⟨k, r⟩ := o
  obtain ⟨l, s⟩ := p
  cases k <;> cases r <;> cases l <;> cases s <;> revert h <;> decide

theorem dirOrderText_ne (o : SortKey × Bool) (s : DirSwitch) : dirOrderText o ≠ s.text := by
  obtain ⟨k, r⟩ := o
  cases k <;> cases r <;> cases s <;> decide

theorem dirSwitches_eq_iff (f g : Flags) :
    f.dirSwitches = g.dirSwitches ↔
      f.hidden = g.hidden ∧ f.recursive = g.recursive ∧ f.directory = g.directory ∧
        (f.onePerLine && !f.long) = (g.onePerLine && !g.long) := by
  unfold Flags.dirSwitches
  generalize f.hidden = a, f.recursive = b, f.directory = c, (f.onePerLine && !f.long) = d,
    g.hidden = a', g.recursive = b', g.directory = c', (g.onePerLine && !g.long) = d'
  revert a b c d a' b' c' d'
  decide

theorem dirTexts_eq_iff (f g : Flags) :
    f.dirTexts = g.dirTexts ↔ f.dirSwitches = g.dirSwitches ∧ f.order? = g.order? := by
  constructor
  · intro h
    have hswitch (l : Flags) : ∀ t ∈ l.dirSwitches.map DirSwitch.text,
        ∃ s, t = DirSwitch.text s := by
      intro t ht
      obtain ⟨s, -, rfl⟩ := List.mem_map.mp ht
      exact ⟨s, rfl⟩
    have horder (l : Flags) : ∀ t ∈ (l.order?.map dirOrderText).toList.head?,
        ¬ ∃ s, t = DirSwitch.text s := by
      rintro t ht ⟨s, rfl⟩
      have hm := Option.mem_toList.mp (List.mem_of_mem_head? ht)
      obtain ⟨o, -, ho⟩ := Option.map_eq_some_iff.mp hm
      exact dirOrderText_ne o s ho
    obtain ⟨hs, ho⟩ := leading_inj (fun t => ∃ s, t = DirSwitch.text s) _ _ _ _
      (hswitch f) (hswitch g) (horder f) (horder g) h
    have hm : f.order?.map dirOrderText = g.order?.map dirOrderText := by
      simpa using congrArg List.head? ho
    exact ⟨List.map_injective_iff.mpr dirText_inj hs, Option.map_injective dirOrderText_inj hm⟩
  · rintro ⟨hs, ho⟩
    rw [Flags.dirTexts, Flags.dirTexts, hs, ho]

def dirWords (f : Flags) (paths : List String) : List String :=
  "dir" :: (f.dirTexts ++ paths.map Path.argument)

theorem dirWords_solid (f : Flags) (paths : List String) (hp : Unmarked paths) :
    ∀ w ∈ dirWords f paths, Solid w.toList := by
  intro w hw
  rcases List.mem_cons.mp hw with rfl | hw
  · exact solid_bare _ (by decide) (by decide)
  rcases List.mem_append.mp hw with hs | ha
  · obtain ⟨hspace, hquote, -⟩ := dirTexts_bare f w hs
    exact solid_bare _ hspace hquote
  · obtain ⟨p, hmem, rfl⟩ := List.mem_map.mp ha
    exact solid_argument p (hp p hmem)

theorem insideAfter_dirWords (f : Flags) (paths : List String) (hp : Unmarked paths) :
    ∀ w ∈ dirWords f paths, insideAfter false w.toList = false := by
  intro w hw
  rcases List.mem_cons.mp hw with rfl | hw
  · rfl
  rcases List.mem_append.mp hw with hs | ha
  · exact insideAfter_of_not_mem false _ (dirTexts_bare f w hs).2.1
  · obtain ⟨p, hmem, rfl⟩ := List.mem_map.mp ha
    exact insideAfter_argument p (hp p hmem)

theorem dirListing_render (f : Flags) (paths : List String) :
    (dirListing f paths).render.toList = joined (dirWords f paths) := by
  rw [render_toList, dirListing, List.flatMap_nil, List.append_nil]
  rfl

theorem slash_not_mem_argument (path : String) : '/' ∉ (Path.argument path).toList := by
  rw [Path.argument, Path.mem_enclose _ _ (by decide), Path.toList_toWindows]
  exact Path.slash_not_mem_backslashed path.toList

theorem dirWords_eq_iff (f g : Flags) (paths others : List String) :
    dirWords f paths = dirWords g others ↔
      f.dirTexts = g.dirTexts ∧ paths.map Path.argument = others.map Path.argument := by
  constructor
  · intro h
    have hpath (ps : List String) : ∀ t ∈ (ps.map Path.argument).head?, '/' ∉ t.toList := by
      intro t ht
      obtain ⟨p, -, rfl⟩ := List.mem_map.mp (List.mem_of_mem_head? ht)
      exact slash_not_mem_argument p
    exact leading_inj (fun t => '/' ∈ t.toList) _ _ _ _
      (fun t ht => (dirTexts_bare f t ht).2.2) (fun t ht => (dirTexts_bare g t ht).2.2)
      (hpath paths) (hpath others) (List.cons.inj h).2
  · rintro ⟨ht, hp⟩
    rw [dirWords, dirWords, ht, hp]

theorem fields_dirWords (f : Flags) (paths : List String) (hp : Unmarked paths) :
    fields (joined (dirWords f paths)) = (dirWords f paths).map String.toList := by
  have hs := dirWords_solid f paths hp
  rw [← flatMap_fields_solid _ hs]
  exact fields_joined _ _ fun w hw => closed_of_solid w.toList (hs w hw)

theorem joined_dirWords_eq_iff (f g : Flags) (paths others : List String)
    (hp : Unmarked paths) (ho : Unmarked others) :
    joined (dirWords f paths) = joined (dirWords g others) ↔
      dirWords f paths = dirWords g others := by
  constructor
  · intro h
    have hf := congrArg fields h
    rw [fields_dirWords f paths hp, fields_dirWords g others ho] at hf
    exact List.map_injective_iff.mpr (fun _ _ => String.toList_injective) hf
  · intro h
    rw [h]

/-- Two lines of cmd.exe are the same only for the same paths, up to the
separators, and for flags that mean the same to `dir`. -/
theorem dir_line_eq_iff (f g : Flags) (paths others : List String)
    (hp : Unmarked paths) (ho : Unmarked others) :
    ∃ c d, dirCommand .standard f paths = .ok c ∧ dirCommand .standard g others = .ok d ∧
      (c.render = d.render ↔
        paths.map Path.toWindows = others.map Path.toWindows ∧
        f.hidden = g.hidden ∧ f.recursive = g.recursive ∧ f.directory = g.directory ∧
        (f.onePerLine && !f.long) = (g.onePerLine && !g.long) ∧ f.order? = g.order?) := by
  refine ⟨_, _, dirCommand_standard f paths, dirCommand_standard g others, ?_⟩
  rw [← String.toList_inj, dirListing_render, dirListing_render,
    joined_dirWords_eq_iff f g paths others hp ho, dirWords_eq_iff, dirTexts_eq_iff,
    dirSwitches_eq_iff, arguments_eq_iff paths others hp ho]
  tauto

theorem dir_line_eq_iff_empty_switch :
    Unmarked ["", "a b", "/A"] ∧ Unmarked ["", "a b", "\\A"] ∧
      ∃ c d, dirCommand .standard { all := true } ["", "a b", "/A"] = .ok c ∧
        dirCommand .standard { almostAll := true, sortBy := .time, unsorted := true }
          ["", "a b", "\\A"] = .ok d ∧ c.render = d.render := by
  have hp : Unmarked ["", "a b", "/A"] := by unfold Unmarked; decide
  have ho : Unmarked ["", "a b", "\\A"] := by unfold Unmarked; decide
  obtain ⟨c, d, hc, hd, h⟩ := dir_line_eq_iff { all := true }
    { almostAll := true, sortBy := .time, unsorted := true } _ _ hp ho
  exact ⟨hp, ho, c, d, hc, hd, h.mpr (by decide)⟩

end WindowsListing
