import WindowsListing.CommandLine.Canonical
import WindowsListing.Proofs.CommandLine.Reading

/-!
# Requests that can be asked for

The canonical command line of a request has a switch for every field that is
on and for no other, one for the order unless it is plain, and one for the
color. Read back, it restores all of them. The paths stand behind `--`, where
no word is an option, whatever it looks like. No command line asks for an
empty list of paths, so the requests that can be asked for are those with a path.
-/

set_option autoImplicit false

namespace WindowsListing

theorem mem_when (on : Bool) (s t : Switch) : t ∈ when on s ↔ on = true ∧ t = s := by
  cases on <;> simp [when]

theorem mem_sortSwitches (k : SortKey) (t : Switch) :
    t ∈ k.switches ↔ (k = .time ∧ t = .sortByTime) ∨ (k = .size ∧ t = .sortBySize) := by
  cases k <;> simp [SortKey.switches]

theorem mem_switches_field (r : Request) (s : Switch) (field : Request → Bool)
    (h : s.field? = some field) : s ∈ r.switches ↔ field r = true := by
  cases s <;> cases h <;> simp [Request.switches, Flags.switches, mem_when, mem_sortSwitches]

theorem sortByTime_mem_switches (r : Request) :
    .sortByTime ∈ r.switches ↔ r.flags.sortBy = .time := by
  simp [Request.switches, Flags.switches, mem_when, mem_sortSwitches]

theorem sortBySize_mem_switches (r : Request) :
    .sortBySize ∈ r.switches ↔ r.flags.sortBy = .size := by
  simp [Request.switches, Flags.switches, mem_when, mem_sortSwitches]

theorem colors_when (on : Bool) (s : Switch) :
    (when on s).filterMap Switch.color? = if on then s.color?.toList else [] := by
  cases on <;> cases hs : s.color? <;> simp [when, hs]

theorem colors_sortSwitches (k : SortKey) : k.switches.filterMap Switch.color? = [] := by
  cases k <;> rfl

theorem colors_switches (r : Request) :
    r.switches.filterMap Switch.color? = [r.flags.color] := by
  simp [Request.switches, Flags.switches, colors_when, colors_sortSwitches, Switch.color?]

theorem flags_ofParts (ss : List Switch) (paths : List String) :
    (Request.ofParts ss paths).flags = (Request.turnOnAll {} ss).flags := rfl

theorem field_ofParts (ss : List Switch) (paths : List String) (s : Switch)
    (field : Request → Bool) (h : s.field? = some field) :
    field (Request.ofParts ss paths) = true ↔ s ∈ ss := by
  rw [Request.ofParts, field_paths _ _ s field h, turnOnAll_field _ s ss field h,
    field_plain s field h]
  simp

theorem sortBy_ofParts (r : Request) (paths : List String) :
    (Request.ofParts r.switches paths).flags.sortBy = r.flags.sortBy := by
  have htime := turnOnAll_time {} r.switches
  have hname := turnOnAll_name {} r.switches
  rw [sortByTime_mem_switches] at htime hname
  rw [sortBySize_mem_switches] at hname
  rw [flags_ofParts]
  cases hk : r.flags.sortBy with
  | time => exact htime.mpr (Or.inr hk)
  | name => exact hname.mpr ⟨rfl, by simp [hk]⟩
  | size =>
    -- Neither of the other two orders is left behind.
    cases hl : (Request.turnOnAll {} r.switches).flags.sortBy with
    | size => rfl
    | time => simpa [hk] using htime.mp hl
    | name => exact absurd hk (hname.mp hl).2.2

theorem ofParts_switches (r : Request) (h : r.paths ≠ []) :
    Request.ofParts r.switches r.paths = r := by
  apply request_ext
  · intro s field hs
    rw [Bool.eq_iff_iff, field_ofParts _ _ s field hs, mem_switches_field r s field hs]
  · exact sortBy_ofParts r r.paths
  · rw [flags_ofParts, turnOnAll_color, colors_switches]
    rfl
  · exact if_neg h

theorem options_ne_dashes (ss : List Switch) :
    ∀ t ∈ ss.map Switch.option, decide (t ≠ "--") = true := by
  intro t ht
  obtain ⟨s, -, rfl⟩ := List.mem_map.mp ht
  exact decide_eq_true (option_ne_dashes s)

theorem optionPart_canonical (r : Request) :
    optionPart r.canonical = r.switches.map Switch.option := by
  rw [optionPart, Request.canonical, List.takeWhile_append_of_pos (options_ne_dashes r.switches)]
  simp

theorem pathPart_canonical (r : Request) : pathPart r.canonical = r.paths := by
  rw [pathPart, Request.canonical, List.dropWhile_append_of_pos (options_ne_dashes r.switches)]
  simp

theorem ofWords_options (ss : List Switch) (rest : List String) :
    Request.ofWords (ss.map fun s => .options [s]) rest = Request.ofParts ss rest := by
  have hswitches : (ss.map fun s => Word.options [s]).flatMap Word.switches = ss := by
    simp [List.flatMap_map, Word.switches]
  have hpaths : (ss.map fun s => Word.options [s]).flatMap Word.paths = [] := by
    simp [List.flatMap_map, Word.paths]
  rw [Request.ofWords, hswitches, hpaths, List.nil_append]

theorem parse_canonical (r : Request) :
    parse r.canonical = .ok (Request.ofParts r.switches r.paths) := by
  rw [parse, optionPart_canonical, pathPart_canonical, ofTokens_options, Except.map,
    ofWords_options]

/-- A request is read back from its canonical command line exactly when it has
a path, and no other request is read from any command line, under any name. -/
theorem asked_iff_has_path (r : Request) :
    (parseAs none r.canonical = .ok r ↔ r.paths ≠ []) ∧
      ((∃ program argv, parseAs program argv = .ok r) ↔ r.paths ≠ []) := by
  have hback : r.paths ≠ [] → parseAs none r.canonical = .ok r := by
    intro h
    rw [parseAs_none, parse_canonical, ofParts_switches r h]
  refine ⟨⟨parseAs_paths_ne_nil none r.canonical r, hback⟩, ?_, fun h => ⟨none, _, hback h⟩⟩
  rintro ⟨program, argv, h⟩
  exact parseAs_paths_ne_nil program argv r h

example : Request.canonical
    { flags := { long := true, sortBy := .time }, paths := ["--", "-S"], native := true } =
      ["-l", "-t", "--color=auto", "--native", "--", "--", "-S"] := by
  decide

end WindowsListing
