import WindowsListing.Commands
import Mathlib.Data.List.Find

/-!
# What flags demand of a table

The commands are put together from a table of fragments, any table. They
cannot be where the table lacks an entry that the flags demand, and the first
such entry is named. Of all other entries the commands read the order that is
asked for, where an empty one counts as absent, and the parameter for paths,
where there are any. So tables that agree on these give the same commands, or
the same complaint.
-/

set_option autoImplicit false

namespace WindowsListing

/-- The entries that flags demand, in the order in which they are looked up. -/
def Flags.demands (f : Flags) : List Entry :=
  ([(.dirSwitch .hidden, f.hidden),
    (.dirSwitch .recursive, f.recursive),
    (.dirSwitch .directory, f.directory),
    (.dirSwitch .bare, f.onePerLine && !f.long),
    (.parameter .hidden, f.hidden),
    (.parameter .recursive, f.recursive),
    (.parameter .directory, f.directory),
    (.layout .humanReadable, f.long && f.humanReadable),
    (.layout .long, f.long && !f.humanReadable),
    (.layout .onePerLine, !f.long && f.onePerLine),
    (.layout .classify, !f.long && !f.onePerLine && f.classify)].filter (·.2)).map (·.1)

namespace Fragments

def entry? (t : Fragments) : Entry → Option String
  | .dirSwitch s => t.dirSwitch s
  | .parameter p => t.psParameter p
  | .layout l => t.psLayout l

def text (t : Fragments) (e : Entry) : String := (t.entry? e).getD ""

def absent? (t : Fragments) (es : List Entry) : Option Entry :=
  es.find? fun e => (t.entry? e).isNone

def FirstAbsent (t : Fragments) (f : Flags) (e : Entry) : Prop :=
  ∃ before after, f.demands = before ++ e :: after ∧ (∀ d ∈ before, t.entry? d ≠ none) ∧
    t.entry? e = none

/-- Both commands, with an empty text for each entry that is absent. -/
def filled (t : Fragments) (f : Flags) (paths : List String) : Commands where
  dir :=
    { program := t.dirProgram
      arguments := f.dirSwitches.map (fun s => t.text (.dirSwitch s)) ++
        (t.dirOrder? f).toList ++ paths.map Path.argument }
  powershell :=
    { program := t.psProgram
      arguments := f.parameters.map (fun p => t.text (.parameter p)) ++ t.pathArguments paths
      stages := (t.sortStage? f).toList ++ f.layout?.toList.map (fun l => t.text (.layout l)) }
  description := f.description

end Fragments

def Blank (fragment : Option String) : Prop := fragment = none ∨ fragment = some ""

def SameOrder (a b : Option String) : Prop := a = b ∨ (Blank a ∧ Blank b)

/-- Two tables with the same fragments wherever flags and paths ask for one. -/
structure AgreeFor (f : Flags) (paths : List String) (t u : Fragments) : Prop where
  dirProgram : t.dirProgram = u.dirProgram
  psProgram : t.psProgram = u.psProgram
  demanded : ∀ e ∈ f.demands, t.entry? e = u.entry? e
  dirOrder : f.unsorted = false →
    SameOrder (t.dirOrder f.sortBy f.reverse) (u.dirOrder f.sortBy f.reverse)
  psProperty : f.unsorted = false → SameOrder (t.psProperty f.sortBy) (u.psProperty f.sortBy)
  psNameReversed : f.unsorted = false → f.reverse = true → Blank (t.psProperty f.sortBy) →
    t.psNameReversed = u.psNameReversed
  psPathParameter : paths ≠ [] → t.psPathParameter = u.psPathParameter

theorem demands_eq (f : Flags) :
    f.demands = f.dirSwitches.map .dirSwitch ++
      (f.parameters.map .parameter ++ f.layout?.toList.map .layout) := by
  unfold Flags.demands Flags.dirSwitches Flags.parameters Flags.layout?
  generalize f.hidden = a, f.recursive = b, f.directory = c, f.onePerLine = d, f.long = e,
    f.humanReadable = g, f.classify = h
  revert a b c d e g h
  decide

theorem absent?_append (t : Fragments) (ds es : List Entry) :
    t.absent? (ds ++ es) = (t.absent? ds).or (t.absent? es) :=
  List.find?_append

theorem demandAll_entries {α : Type} (t : Fragments) (entry : α → Entry) (as : List α) :
    demandAll (fun a => t.entry? (entry a)) entry as =
      match t.absent? (as.map entry) with
      | some e => .error e
      | none => .ok (as.map fun a => t.text (entry a)) := by
  induction as with
  | nil => rfl
  | cons a as ih =>
    cases ha : t.entry? (entry a) with
    | none => simp [demandAll, demand, ha, Fragments.absent?]
    | some fragment =>
      have hskip : t.absent? ((a :: as).map entry) = t.absent? (as.map entry) := by
        simp [Fragments.absent?, ha]
      rw [demandAll, demand, ha, ih, hskip]
      cases t.absent? (as.map entry) <;> simp [Fragments.text, ha, Except.map]

theorem dirCommand_eq (t : Fragments) (f : Flags) (paths : List String) :
    dirCommand t f paths =
      match t.absent? (f.dirSwitches.map .dirSwitch) with
      | some e => .error e
      | none => .ok (t.filled f paths).dir := by
  have h := demandAll_entries t Entry.dirSwitch f.dirSwitches
  change demandAll t.dirSwitch _ _ = _ at h
  rw [dirCommand, h]
  cases t.absent? (f.dirSwitches.map .dirSwitch) <;> rfl

theorem powershellCommand_eq (t : Fragments) (f : Flags) (paths : List String) :
    powershellCommand t f paths =
      match t.absent? (f.parameters.map .parameter ++ f.layout?.toList.map .layout) with
      | some e => .error e
      | none => .ok (t.filled f paths).powershell := by
  have hp := demandAll_entries t Entry.parameter f.parameters
  have hl := demandAll_entries t Entry.layout f.layout?.toList
  change demandAll t.psParameter _ _ = _ at hp
  change demandAll t.psLayout _ _ = _ at hl
  rw [powershellCommand, hp, hl, absent?_append]
  cases t.absent? (f.parameters.map .parameter) with
  | some e => rfl
  | none => cases t.absent? (f.layout?.toList.map .layout) <;> rfl

theorem commands_eq (t : Fragments) (f : Flags) (paths : List String) :
    t.commands f paths =
      match t.absent? f.demands with
      | some e => .error e
      | none => .ok (t.filled f paths) := by
  rw [Fragments.commands, dirCommand_eq, powershellCommand_eq, demands_eq,
    absent?_append t (f.dirSwitches.map .dirSwitch)]
  cases t.absent? (f.dirSwitches.map .dirSwitch) with
  | some e => rfl
  | none =>
    cases t.absent? (f.parameters.map .parameter ++ f.layout?.toList.map .layout) <;> rfl

theorem commands_error_iff (t : Fragments) (f : Flags) (paths : List String) (e : Entry) :
    t.commands f paths = .error e ↔ t.absent? f.demands = some e := by
  rw [commands_eq]
  cases t.absent? f.demands <;> simp

theorem absent?_eq_some_iff (t : Fragments) (f : Flags) (e : Entry) :
    t.absent? f.demands = some e ↔ t.FirstAbsent f e := by
  rw [Fragments.absent?, List.find?_eq_some_iff_append]
  constructor
  · rintro ⟨he, before, after, hf, hb⟩
    exact ⟨before, after, hf, fun d hd hn => by simpa [hn] using hb d hd, by simpa using he⟩
  · rintro ⟨before, after, hf, hb, he⟩
    refine ⟨by simp [he], before, after, hf, fun d hd => ?_⟩
    simpa [Option.isSome_iff_ne_none] using hb d hd

theorem nonempty?_of_blank (a : Option String) (h : Blank a) : nonempty? a = none := by
  rcases h with rfl | rfl <;> rfl

theorem blank_of_nonempty? (a : Option String) (h : nonempty? a = none) : Blank a := by
  cases a with
  | none => exact Or.inl rfl
  | some fragment => exact Or.inr (by simpa [nonempty?] using h)

theorem nonempty?_congr (a b : Option String) (h : SameOrder a b) :
    nonempty? a = nonempty? b := by
  rcases h with rfl | ⟨ha, hb⟩
  · rfl
  · rw [nonempty?_of_blank a ha, nonempty?_of_blank b hb]

section
variable {f : Flags} {paths : List String} {t u : Fragments}

theorem text_congr (h : AgreeFor f paths t u) {α : Type} (entry : α → Entry) (as : List α)
    (hm : ∀ a ∈ as, entry a ∈ f.demands) :
    as.map (fun a => t.text (entry a)) = as.map fun a => u.text (entry a) := by
  apply List.map_congr_left
  intro a ha
  rw [Fragments.text, Fragments.text, h.demanded _ (hm a ha)]

theorem dirOrder?_congr (h : AgreeFor f paths t u) : t.dirOrder? f = u.dirOrder? f := by
  cases hu : f.unsorted with
  | true => simp [Fragments.dirOrder?, hu]
  | false => simp [Fragments.dirOrder?, hu, nonempty?_congr _ _ (h.dirOrder hu)]

theorem sortStage?_congr (h : AgreeFor f paths t u) : t.sortStage? f = u.sortStage? f := by
  cases hu : f.unsorted with
  | true => simp [Fragments.sortStage?, hu]
  | false =>
    have hproperty := nonempty?_congr _ _ (h.psProperty hu)
    rw [Fragments.sortStage?, Fragments.sortStage?, hu, ← hproperty]
    cases hn : nonempty? (t.psProperty f.sortBy) with
    | some property => rfl
    | none =>
      cases hr : f.reverse with
      | false => rfl
      | true => simp [h.psNameReversed hu hr (blank_of_nonempty? _ hn)]

theorem pathArguments_congr (h : AgreeFor f paths t u) :
    t.pathArguments paths = u.pathArguments paths := by
  by_cases hp : paths = []
  · simp [Fragments.pathArguments, hp]
  · simp [Fragments.pathArguments, hp, h.psPathParameter hp]

theorem filled_congr (h : AgreeFor f paths t u) : t.filled f paths = u.filled f paths := by
  have hswitches := text_congr h Entry.dirSwitch f.dirSwitches fun s hs => by
    simp [demands_eq, hs]
  have hparameters := text_congr h Entry.parameter f.parameters fun p hp => by
    simp [demands_eq, hp]
  have hlayouts := text_congr h Entry.layout f.layout?.toList fun l hl => by
    simpa [demands_eq] using hl
  rw [Fragments.filled, Fragments.filled, hswitches, hparameters, hlayouts, dirOrder?_congr h,
    sortStage?_congr h, pathArguments_congr h, h.dirProgram, h.psProgram]

theorem absent?_congr (h : AgreeFor f paths t u) : t.absent? f.demands = u.absent? f.demands :=
  List.find?_congr fun e he => by rw [h.demanded e he]

end

/-- Commands fail for an absent entry exactly if flags demand it, the first of
several, and never for an order. Tables that agree on what is asked for give
the same commands or name the same entry. -/
theorem demands_decide (t : Fragments) (f : Flags) (paths : List String) :
    (∀ e, t.commands f paths = .error e ↔ t.FirstAbsent f e) ∧
    ((∃ e, t.commands f paths = .error e) ↔ ∃ e ∈ f.demands, t.entry? e = none) ∧
    (∀ orders properties e,
      { t with dirOrder := orders, psProperty := properties }.commands f paths = .error e ↔
        t.commands f paths = .error e) ∧
    ∀ u, AgreeFor f paths t u → t.commands f paths = u.commands f paths := by
  refine ⟨?_, ?_, ?_, ?_⟩
  · intro e
    rw [commands_error_iff, absent?_eq_some_iff]
  · simp only [commands_error_iff, ← Option.isSome_iff_exists]
    rw [Fragments.absent?, List.find?_isSome]
    simp
  · intro orders properties e
    rw [commands_error_iff, commands_error_iff]
    rfl
  · intro u h
    rw [commands_eq, commands_eq, absent?_congr h, filled_congr h]

/-- A table without a bare listing or any parameter, and one that has next to
nothing but what a reversed listing without paths asks for. -/
theorem demands_decide_bare :
    let spoken : Flags := { all := true, onePerLine := true }
    let reversed : Flags := { reverse := true }
    let bareless : Fragments :=
      { Fragments.standard with
        dirSwitch := fun s => if s = .bare then none else Fragments.standard.dirSwitch s
        psParameter := fun _ => none }
    let sparse : Fragments :=
      { Fragments.standard with
        dirSwitch := fun _ => none
        psParameter := fun _ => none
        psPathParameter := ""
        psProperty := fun _ => some ""
        psLayout := fun _ => none }
    bareless.FirstAbsent spoken (.dirSwitch .bare) ∧
      bareless.commands spoken ["x"] = .error (.dirSwitch .bare) ∧
      AgreeFor reversed [] Fragments.standard sparse ∧
      Fragments.standard.commands reversed [] = sparse.commands reversed [] := by
  intro spoken reversed bareless sparse
  have hfirst : bareless.FirstAbsent spoken (.dirSwitch .bare) := by
    refine ⟨[.dirSwitch .hidden], [.parameter .hidden, .layout .onePerLine], by decide, ?_, rfl⟩
    intro d hd
    rw [List.mem_singleton.mp hd]
    exact Option.some_ne_none "/A"
  have hagree : AgreeFor reversed [] Fragments.standard sparse :=
    { dirProgram := rfl
      psProgram := rfl
      demanded := fun e he => absurd he (by decide +revert)
      dirOrder := fun _ => Or.inl rfl
      psProperty := fun _ => Or.inr ⟨Or.inl rfl, Or.inr rfl⟩
      psNameReversed := fun _ _ _ => rfl
      psPathParameter := fun h => absurd rfl h }
  exact ⟨hfirst, ((demands_decide bareless spoken ["x"]).1 _).mpr hfirst, hagree,
    (demands_decide Fragments.standard reversed []).2.2.2 sparse hagree⟩

end WindowsListing
