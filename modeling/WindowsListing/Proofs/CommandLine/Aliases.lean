import WindowsListing.Proofs.CommandLine.Reading

/-!
# Aliases only add

The options of an alias stand in front of all others. What they turn on is a
field, and a field that is turned on before a run of switches is as good as
one turned on behind it: no switch asks what is on already, and none turns a
field off. So a call under an alias is the call without it, and then the
fields of the alias on top.
-/

set_option autoImplicit false

namespace WindowsListing

def Alias.switches : Alias → List Switch
  | .ll => [.long]
  | .la => [.long, .all]
  | .l => [.classify]

/-- A request with the fields on that the options of an alias stand for. -/
def Request.forced (options : List String) (r : Request) : Request :=
  { r with
    flags := { r.flags with
      long := r.flags.long || options = ["-l"] || options = ["-la"]
      all := r.flags.all || options = ["-la"]
      classify := r.flags.classify || options = ["-F"] } }

theorem ne_order_of_field? (s : Switch) (field : Request → Bool)
    (h : s.field? = some field) : s ≠ .sortByTime ∧ s ≠ .sortBySize := by
  constructor
  · rintro rfl
    cases h
  · rintro rfl
    cases h

theorem turnOn_comm (r : Request) (s t : Switch) (field : Request → Bool)
    (h : s.field? = some field) : (r.turnOn s).turnOn t = (r.turnOn t).turnOn s := by
  obtain ⟨htime, hsize⟩ := ne_order_of_field? s field h
  have hcolor := color?_eq_none_of_field? s field h
  apply request_ext
  · intro u f hu
    simp only [turnOn_field _ u _ f hu]
    exact Bool.or_left_comm _ _ _
  · simp [turnOn_sortBy, htime, hsize]
  · simp [turnOn_color, hcolor]
  · simp [turnOn_paths]

theorem turnOnAll_turnOn (r : Request) (s : Switch) (ss : List Switch) (field : Request → Bool)
    (h : s.field? = some field) : (r.turnOn s).turnOnAll ss = (r.turnOnAll ss).turnOn s := by
  induction ss generalizing r with
  | nil => rfl
  | cons t ts ih =>
    change ((r.turnOn s).turnOn t).turnOnAll ts = ((r.turnOn t).turnOnAll ts).turnOn s
    rw [turnOn_comm r s t field h, ih]

theorem turnOnAll_comm (r : Request) (first ss : List Switch)
    (h : ∀ s ∈ first, ∃ field, s.field? = some field) :
    (r.turnOnAll first).turnOnAll ss = (r.turnOnAll ss).turnOnAll first := by
  induction first generalizing r with
  | nil => rfl
  | cons s first ih =>
    obtain ⟨field, hs⟩ := h s (by simp)
    change ((r.turnOn s).turnOnAll first).turnOnAll ss = ((r.turnOnAll ss).turnOn s).turnOnAll first
    rw [ih _ fun t ht => h t (by simp [ht]), turnOnAll_turnOn r s ss field hs]

theorem turnOnAll_withPaths (r : Request) (ss : List Switch) (paths : List String) :
    { r with paths := paths }.turnOnAll ss = { r.turnOnAll ss with paths := paths } := by
  have hstep (r : Request) (s : Switch) :
      { r with paths := paths }.turnOn s = { r.turnOn s with paths := paths } := by
    cases s <;> rfl
  induction ss generalizing r with
  | nil => rfl
  | cons s ss ih =>
    change ({ r with paths := paths }.turnOn s).turnOnAll ss = _
    rw [hstep, ih]
    rfl

theorem switches_field (a : Alias) : ∀ s ∈ a.switches, ∃ field, s.field? = some field := by
  intro s hs
  cases a <;> simp only [Alias.switches, List.mem_cons, List.not_mem_nil, or_false] at hs
  case ll => exact hs ▸ ⟨_, rfl⟩
  case la => rcases hs with rfl | rfl <;> exact ⟨_, rfl⟩
  case l => exact hs ▸ ⟨_, rfl⟩

theorem turnOnAll_switches (a : Alias) (r : Request) :
    r.turnOnAll a.switches = r.forced a.options := by
  cases a <;>
    simp [Request.turnOnAll, Request.turnOn, Flags.turnOn, Request.forced, Alias.switches,
      Alias.options]

theorem ofTokens_aliasOptions (a : Alias) :
    Word.ofTokens a.options = .ok [.options a.switches] := by
  cases a <;> rfl

theorem aliasOptions_ne_dashes (a : Alias) : ∀ t ∈ a.options, decide (t ≠ "--") = true := by
  cases a <;> decide

theorem ofWords_alias (a : Alias) (ws : List Word) (rest : List String) :
    Request.ofWords (.options a.switches :: ws) rest =
      (Request.ofWords ws rest).forced a.options := by
  rw [← turnOnAll_switches, Request.ofWords, Request.ofWords, Request.ofParts, Request.ofParts,
    turnOnAll_withPaths, ← turnOnAll_comm _ _ _ (switches_field a), ← turnOnAll_append]
  rfl

theorem parse_alias (a : Alias) (argv : List String) :
    parse (a.options ++ argv) = (parse argv).map (Request.forced a.options) := by
  have ho : optionPart (a.options ++ argv) = a.options ++ optionPart argv :=
    List.takeWhile_append_of_pos (aliasOptions_ne_dashes a)
  have hp : pathPart (a.options ++ argv) = pathPart argv := by
    rw [pathPart, List.dropWhile_append_of_pos (aliasOptions_ne_dashes a)]
    rfl
  rw [parse, parse, ho, hp, Word.ofTokens_append, ofTokens_aliasOptions]
  cases Word.ofTokens (optionPart argv) with
  | error e => rfl
  | ok ws => exact congrArg Except.ok (ofWords_alias a ws (pathPart argv))

theorem parseAs_cases (program : Option String) (argv : List String) :
    parseAs program argv = parse argv ∨
      ∃ a : Alias, parseAs program argv = (parse argv).map (Request.forced a.options) := by
  rw [parseAs, impliedOptions]
  cases program.bind Alias.ofProgram? with
  | none => exact Or.inl rfl
  | some a => exact Or.inr ⟨a, parse_alias a argv⟩

theorem parseAs_error_iff (program : Option String) (argv : List String) (e : UsageError) :
    parseAs program argv = .error e ↔ parse argv = .error e := by
  rcases parseAs_cases program argv with h | ⟨a, h⟩
  · rw [h]
  · rw [h, map_eq_error_iff]

theorem forced_nil (r : Request) : r.forced [] = r := by
  simp [Request.forced]

theorem exists_forced (program : Option String) (argv : List String) (r : Request)
    (h : parseAs program argv = .ok r) :
    ∃ plain options, parseAs none argv = .ok plain ∧ r = plain.forced options := by
  rw [parseAs_none]
  rcases parseAs_cases program argv with hp | ⟨a, hp⟩
  · exact ⟨r, [], hp.symm.trans h, (forced_nil r).symm⟩
  · rw [hp] at h
    cases hq : parse argv with
    | error e =>
      rw [hq] at h
      cases h
    | ok plain =>
      rw [hq] at h
      exact ⟨plain, a.options, rfl, (Except.ok.inj h).symm⟩

/-- Under whatever name a program is called, its command line is read or
refused as under no name, with the same complaint. All that the name changes
in the request is what the options of an alias force on. -/
theorem parseAs_eq_forced (program : Option String) (argv : List String) :
    parseAs program argv =
      match parseAs none argv with
      | .error e => .error e
      | .ok r => .ok (r.forced (impliedOptions program)) := by
  have hnone : parseAs none argv = parse argv := rfl
  rw [hnone, parseAs, impliedOptions]
  cases program.bind Alias.ofProgram? with
  | none =>
    change parse argv = _
    cases parse argv with
    | error e => rfl
    | ok r => exact congrArg Except.ok (forced_nil r).symm
  | some a =>
    change parse (a.options ++ argv) = _
    rw [parse_alias]
    cases parse argv <;> rfl

end WindowsListing
