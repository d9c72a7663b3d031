import WindowsListing.Commands

/-!
# Commands of the standard table

The standard table of fragments lacks no entry that flags can demand, so both
commands are always put together. What they hold is written out here, with
the order of a listing as one value for both shells.
-/

set_option autoImplicit false

namespace WindowsListing

/-- The order flags ask for, if they ask for any: a key, and whether it is
turned round. Plain order by name is what a shell does unasked. -/
def Flags.order? (f : Flags) : Option (SortKey × Bool) :=
  if f.unsorted = true ∨ (f.sortBy = .name ∧ f.reverse = false) then none
  else some (f.sortBy, f.reverse)

theorem order?_ne_plain (f : Flags) : f.order? ≠ some (.name, false) := by
  intro h
  by_cases hn : f.unsorted = true ∨ (f.sortBy = .name ∧ f.reverse = false)
  · simp [Flags.order?, hn] at h
  · rw [Flags.order?, if_neg hn] at h
    have ho := Option.some.inj h
    exact hn (Or.inr ⟨congrArg Prod.fst ho, congrArg Prod.snd ho⟩)

def DirSwitch.text (s : DirSwitch) : String := (Fragments.standard.dirSwitch s).getD ""

def Parameter.text (p : Parameter) : String := (Fragments.standard.psParameter p).getD ""

def Layout.text (l : Layout) : String := (Fragments.standard.psLayout l).getD ""

def dirOrderText (o : SortKey × Bool) : String := (Fragments.standard.dirOrder o.1 o.2).getD ""

def sortText (o : SortKey × Bool) : String :=
  match Fragments.standard.psProperty o.1 with
  | some property => "Sort-Object " ++ property ++ (if o.2 then "" else " -Descending")
  | none => Fragments.standard.psNameReversed

theorem demandAll_total {α : Type} (table : α → Option String) (entry : α → Entry)
    (text : α → String) (h : ∀ a, table a = some (text a)) (as : List α) :
    demandAll table entry as = .ok (as.map text) := by
  rw [demandAll_ok, List.map_map]
  exact List.map_congr_left fun a _ => h a

theorem standard_dirSwitch (s : DirSwitch) : Fragments.standard.dirSwitch s = some s.text := by
  cases s <;> rfl

theorem standard_psParameter (p : Parameter) :
    Fragments.standard.psParameter p = some p.text := by
  cases p <;> rfl

theorem standard_psLayout (l : Layout) : Fragments.standard.psLayout l = some l.text := by
  cases l <;> rfl

theorem standard_dirOrder? (f : Flags) :
    Fragments.standard.dirOrder? f = f.order?.map dirOrderText := by
  cases hu : f.unsorted with
  | true => simp [Fragments.dirOrder?, Flags.order?, hu]
  | false =>
    simp only [Fragments.dirOrder?, Flags.order?, hu]
    cases f.sortBy <;> cases f.reverse <;> rfl

theorem standard_sortStage? (f : Flags) :
    Fragments.standard.sortStage? f = f.order?.map sortText := by
  cases hu : f.unsorted with
  | true => simp [Fragments.sortStage?, Flags.order?, hu]
  | false =>
    simp only [Fragments.sortStage?, Flags.order?, hu]
    cases f.sortBy <;> cases f.reverse <;> rfl

def dirListing (f : Flags) (paths : List String) : NativeCommand where
  program := "dir"
  arguments := f.dirSwitches.map DirSwitch.text ++ (f.order?.map dirOrderText).toList ++
    paths.map Path.argument

def psListing (f : Flags) (paths : List String) : NativeCommand where
  program := "Get-ChildItem"
  arguments := f.parameters.map Parameter.text ++ Fragments.standard.pathArguments paths
  stages := (f.order?.map sortText).toList ++ f.layout?.toList.map Layout.text

def listings (f : Flags) (paths : List String) : Commands where
  dir := dirListing f paths
  powershell := psListing f paths
  description := f.description

theorem dirCommand_standard (f : Flags) (paths : List String) :
    dirCommand .standard f paths = .ok (dirListing f paths) := by
  rw [dirCommand, demandAll_total _ _ _ standard_dirSwitch, standard_dirOrder?]
  rfl

theorem powershellCommand_standard (f : Flags) (paths : List String) :
    powershellCommand .standard f paths = .ok (psListing f paths) := by
  rw [powershellCommand, demandAll_total _ _ _ standard_psParameter,
    demandAll_total _ _ _ standard_psLayout, standard_sortStage?]
  rfl

theorem standard_commands (f : Flags) (paths : List String) :
    Fragments.standard.commands f paths = .ok (listings f paths) := by
  rw [Fragments.commands, dirCommand_standard, powershellCommand_standard]
  rfl

end WindowsListing
