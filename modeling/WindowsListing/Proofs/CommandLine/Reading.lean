import WindowsListing.Proofs.CommandLine.Forms

/-!
# Reading a command line

A command line is accepted exactly when every word in front of `--` has a
form, and the request is then described word by word: a field is on when some
word asks for it, the order and the color follow from letters and from the
last color, and the paths are kept in order. Number and order of the words do
not matter otherwise. The description leaves no two requests.
-/

set_option autoImplicit false

namespace WindowsListing

/-- A word asks for a switch by a letter of its cluster or by its long name. -/
def Asks (t : String) (s : Switch) : Prop := ∃ form, HasForm t form ∧ form.Names s

def Lettered (opts : List String) (c : Char) : Prop :=
  ∃ t ∈ opts, ∃ letters, HasForm t (.cluster letters) ∧ c ∈ letters

def Colorless (opts : List String) : Prop := ∀ t ∈ opts, ∀ choice, ¬ HasForm t (.color choice)

/-- A color option that no other one follows makes the choice. -/
def EndsInColor (opts : List String) (choice : ColorChoice) : Prop :=
  ∃ before t after, opts = before ++ t :: after ∧ HasForm t (.color choice) ∧ Colorless after

/-- The choice of the last color option, or the given one where there is none. -/
def LastColor (d : ColorChoice) (opts : List String) (choice : ColorChoice) : Prop :=
  EndsInColor opts choice ∨ (Colorless opts ∧ choice = d)

/-- What a request says that was read from options and from paths behind `--`. -/
structure Describes (opts rest : List String) (r : Request) : Prop where
  fields : ∀ s field, Switch.field? s = some field → (field r = true ↔ ∃ t ∈ opts, Asks t s)
  byTime : r.flags.sortBy = .time ↔ Lettered opts 't'
  bySize : r.flags.sortBy = .size ↔ ¬ Lettered opts 't' ∧ Lettered opts 'S'
  byName : r.flags.sortBy = .name ↔ ¬ Lettered opts 't' ∧ ¬ Lettered opts 'S'
  color : LastColor .auto opts r.flags.color
  paths : r.paths =
    if opts.filter IsPath ++ rest = [] then ["."] else opts.filter IsPath ++ rest

theorem ofLetter?_color? (c : Char) (s : Switch) (h : Switch.ofLetter? c = some s) :
    s.color? = none := by
  unfold Switch.ofLetter? at h
  split at h <;> cases h <;> rfl

theorem ofName?_field? (name : String) (s : Switch) (h : Switch.ofName? name = some s) :
    ∃ field, s.field? = some field := by
  unfold Switch.ofName? at h
  split at h <;> cases h <;> exact ⟨_, rfl⟩

theorem ofLetter?_inj (c d : Char) (s : Switch) (hc : Switch.ofLetter? c = some s)
    (hd : Switch.ofLetter? d = some s) : c = d := by
  unfold Switch.ofLetter? at hc
  split at hc <;> cases hc
  all_goals
    unfold Switch.ofLetter? at hd
    split at hd <;> cases hd
    rfl

theorem mem_switches_iff (t : String) (form : Form) (s : Switch) (hs : s.color? = none) :
    s ∈ (form.word t).switches ↔ form.Names s := by
  cases form with
  | path => simp [Form.word, Word.switches, Form.Names]
  | cluster letters => simp [Form.word, Word.switches, Form.Names]
  | long name => simp [Form.word, Word.switches, Form.Names]
  | color choice =>
    have hn : s ≠ .color choice := by
      rintro rfl
      cases hs
    simp [Form.word, Word.switches, Form.Names, hn]

theorem asks_iff (t : String) (w : Word) (s : Switch) (hw : Word.ofToken t = .ok w)
    (hs : s.color? = none) : Asks t s ↔ s ∈ w.switches := by
  constructor
  · rintro ⟨form, hf, hn⟩
    rw [ofToken_of_hasForm t form hf] at hw
    rw [← Except.ok.inj hw]
    exact (mem_switches_iff t form s hs).mpr hn
  · intro hm
    obtain ⟨form, hf⟩ := accepted_of_ofToken t w hw
    rw [ofToken_of_hasForm t form hf] at hw
    rw [← Except.ok.inj hw] at hm
    exact ⟨form, hf, (mem_switches_iff t form s hs).mp hm⟩

theorem paths_of_ofToken (t : String) (w : Word) (hw : Word.ofToken t = .ok w) :
    w.paths = if IsPath t then [t] else [] := by
  by_cases hp : IsPath t
  · rw [ofToken_path t hp] at hw
    rw [← Except.ok.inj hw, if_pos hp]
    rfl
  · obtain ⟨form, hf⟩ := accepted_of_ofToken t w hw
    rw [ofToken_of_hasForm t form hf] at hw
    rw [← Except.ok.inj hw, if_neg hp]
    cases form with
    | path =>
      cases hf
      contradiction
    | _ => rfl

theorem colors_of_form (t : String) (form : Form) :
    (form.word t).switches.filterMap Switch.color? = form.color?.toList := by
  cases form with
  | path => rfl
  | cluster letters =>
    apply List.filterMap_eq_nil_iff.mpr
    intro s hs
    obtain ⟨c, -, hc⟩ := List.mem_filterMap.mp hs
    exact ofLetter?_color? c s hc
  | long name =>
    apply List.filterMap_eq_nil_iff.mpr
    intro s hs
    obtain ⟨field, hf⟩ := ofName?_field? name s (Option.mem_toList.mp hs)
    exact color?_eq_none_of_field? s field hf
  | color choice => rfl

theorem color_iff (t : String) (w : Word) (choice : ColorChoice) (hw : Word.ofToken t = .ok w) :
    HasForm t (.color choice) ↔ w.switches.filterMap Switch.color? = [choice] := by
  constructor
  · intro hf
    rw [ofToken_of_hasForm t _ hf] at hw
    rw [← Except.ok.inj hw, colors_of_form]
    rfl
  · intro hl
    obtain ⟨form, hf⟩ := accepted_of_ofToken t w hw
    rw [ofToken_of_hasForm t form hf] at hw
    rw [← Except.ok.inj hw, colors_of_form] at hl
    cases form with
    | color other =>
      rw [← (List.cons.inj hl).1]
      exact hf
    | _ => cases hl

theorem color_cases (t : String) (w : Word) (hw : Word.ofToken t = .ok w) :
    w.switches.filterMap Switch.color? = [] ∨
      ∃ choice, w.switches.filterMap Switch.color? = [choice] := by
  obtain ⟨form, hf⟩ := accepted_of_ofToken t w hw
  rw [ofToken_of_hasForm t form hf] at hw
  rw [← Except.ok.inj hw, colors_of_form]
  cases form with
  | color choice => exact Or.inr ⟨choice, rfl⟩
  | _ => exact Or.inl rfl

theorem ofTokens_ok_iff (opts : List String) :
    (∃ ws, Word.ofTokens opts = .ok ws) ↔ ∀ t ∈ opts, Accepted t := by
  induction opts with
  | nil => simp [Word.ofTokens]
  | cons t ts ih =>
    constructor
    · rintro ⟨ws, hws⟩ u hu
      obtain ⟨v, vs, hv, hvs, -⟩ := (Word.ofTokens_cons_ok t ts ws).mp hws
      rcases List.mem_cons.mp hu with rfl | hu
      · exact accepted_of_ofToken u v hv
      · exact ih.mp ⟨vs, hvs⟩ u hu
    · intro h
      obtain ⟨form, hf⟩ := h t (by simp)
      obtain ⟨vs, hvs⟩ := ih.mpr fun u hu => h u (by simp [hu])
      exact ⟨_, (Word.ofTokens_cons_ok t ts _).mpr
        ⟨_, vs, ofToken_of_hasForm t form hf, hvs, rfl⟩⟩

theorem mem_switches_ofTokens (opts : List String) (ws : List Word) (s : Switch)
    (h : Word.ofTokens opts = .ok ws) (hs : s.color? = none) :
    s ∈ ws.flatMap Word.switches ↔ ∃ t ∈ opts, Asks t s := by
  induction opts generalizing ws with
  | nil => simp [← Except.ok.inj h]
  | cons t ts ih =>
    obtain ⟨v, vs, hv, hvs, rfl⟩ := (Word.ofTokens_cons_ok t ts ws).mp h
    rw [List.flatMap_cons, List.mem_append, ← asks_iff t v s hv hs, ih vs hvs]
    simp

theorem paths_ofTokens (opts : List String) (ws : List Word)
    (h : Word.ofTokens opts = .ok ws) : ws.flatMap Word.paths = opts.filter IsPath := by
  induction opts generalizing ws with
  | nil => simp [← Except.ok.inj h]
  | cons t ts ih =>
    obtain ⟨v, vs, hv, hvs, rfl⟩ := (Word.ofTokens_cons_ok t ts ws).mp h
    rw [List.flatMap_cons, paths_of_ofToken t v hv, ih vs hvs]
    by_cases hp : IsPath t <;> simp [hp]

theorem colorless_cons (t : String) (ts : List String) :
    Colorless (t :: ts) ↔ (∀ choice, ¬ HasForm t (.color choice)) ∧ Colorless ts := by
  simp [Colorless]

theorem endsInColor_cons (choice : ColorChoice) (t : String) (ts : List String) :
    EndsInColor (t :: ts) choice ↔
      (HasForm t (.color choice) ∧ Colorless ts) ∨ EndsInColor ts choice := by
  constructor
  · rintro ⟨before, u, after, hts, hu, ha⟩
    cases before with
    | nil =>
      obtain ⟨rfl, rfl⟩ := List.cons.inj hts
      exact Or.inl ⟨hu, ha⟩
    | cons b bs => exact Or.inr ⟨bs, u, after, (List.cons.inj hts).2, hu, ha⟩
  · rintro (⟨ht, hc⟩ | ⟨before, u, after, rfl, hu, ha⟩)
    · exact ⟨[], t, ts, rfl, ht, hc⟩
    · exact ⟨t :: before, u, after, rfl, hu, ha⟩

theorem lastColor_cons_color (d c choice : ColorChoice) (t : String) (ts : List String)
    (w : Word) (hw : Word.ofToken t = .ok w)
    (hl : w.switches.filterMap Switch.color? = [c]) :
    LastColor d (t :: ts) choice ↔ LastColor c ts choice := by
  have ht : ∀ other, HasForm t (.color other) ↔ other = c := by
    intro other
    rw [color_iff t w other hw, hl]
    simp [eq_comm]
  have hn : ¬ ∀ other, ¬ HasForm t (.color other) := fun h => h c ((ht c).mpr rfl)
  rw [LastColor, LastColor, endsInColor_cons, colorless_cons, ht]
  tauto

theorem lastColor_cons_plain (d choice : ColorChoice) (t : String) (ts : List String)
    (w : Word) (hw : Word.ofToken t = .ok w) (hl : w.switches.filterMap Switch.color? = []) :
    LastColor d (t :: ts) choice ↔ LastColor d ts choice := by
  have ht : ∀ other, ¬ HasForm t (.color other) := by
    intro other
    rw [color_iff t w other hw, hl]
    simp
  have hn := ht choice
  rw [LastColor, LastColor, endsInColor_cons, colorless_cons]
  tauto

theorem lastColor_ofTokens (d choice : ColorChoice) (opts : List String) (ws : List Word)
    (h : Word.ofTokens opts = .ok ws) :
    LastColor d opts choice ↔
      choice = ((ws.flatMap Word.switches).filterMap Switch.color?).getLast?.getD d := by
  induction opts generalizing d ws with
  | nil => simp [LastColor, EndsInColor, Colorless, ← Except.ok.inj h]
  | cons t ts ih =>
    obtain ⟨v, vs, hv, hvs, rfl⟩ := (Word.ofTokens_cons_ok t ts ws).mp h
    rw [List.flatMap_cons, List.filterMap_append]
    rcases color_cases t v hv with hl | ⟨c, hl⟩
    · rw [lastColor_cons_plain d choice t ts v hv hl, ih d vs hvs, hl]
      rfl
    · rw [lastColor_cons_color d c choice t ts v hv hl, ih c vs hvs, hl, List.singleton_append,
        List.getLast?_cons]
      cases ((vs.flatMap Word.switches).filterMap Switch.color?).getLast? <;> rfl

theorem exists_asks_iff (opts : List String) (s : Switch) (c : Char) (hs : s.field? = none)
    (hc : Switch.ofLetter? c = some s) : (∃ t ∈ opts, Asks t s) ↔ Lettered opts c := by
  constructor
  · rintro ⟨t, ht, form, hf, hn⟩
    cases form with
    | cluster letters =>
      obtain ⟨d, hd, hds⟩ := hn
      rw [ofLetter?_inj d c s hds hc] at hd
      exact ⟨t, ht, letters, hf, hd⟩
    | long name =>
      obtain ⟨field, hfield⟩ := ofName?_field? name s hn
      rw [hs] at hfield
      cases hfield
    | path => cases hn
    | color choice => cases hn
  · rintro ⟨t, ht, letters, hf, hl⟩
    exact ⟨t, ht, .cluster letters, hf, c, hl, hc⟩

theorem mem_switches_lettered (opts : List String) (ws : List Word) (s : Switch) (c : Char)
    (h : Word.ofTokens opts = .ok ws) (hs : s.field? = none) (hn : s.color? = none)
    (hc : Switch.ofLetter? c = some s) :
    s ∈ ws.flatMap Word.switches ↔ Lettered opts c := by
  rw [mem_switches_ofTokens opts ws s h hn, exists_asks_iff opts s c hs hc]

theorem field_plain (s : Switch) (field : Request → Bool) (h : s.field? = some field) :
    field {} = false := by
  cases s <;> cases h <;> rfl

theorem field_paths (r : Request) (paths : List String) (s : Switch) (field : Request → Bool)
    (h : s.field? = some field) : field { r with paths := paths } = field r := by
  cases s <;> cases h <;> rfl

theorem describes_ofWords (opts rest : List String) (ws : List Word)
    (h : Word.ofTokens opts = .ok ws) : Describes opts rest (Request.ofWords ws rest) := by
  have hflags : (Request.ofWords ws rest).flags =
      (Request.turnOnAll {} (ws.flatMap Word.switches)).flags := rfl
  have ht := mem_switches_lettered opts ws .sortByTime 't' h rfl rfl rfl
  have hs := mem_switches_lettered opts ws .sortBySize 'S' h rfl rfl rfl
  have htime : (Request.ofWords ws rest).flags.sortBy = .time ↔ Lettered opts 't' := by
    rw [hflags, turnOnAll_time, ht]
    simp
  have hname : (Request.ofWords ws rest).flags.sortBy = .name ↔
      ¬ Lettered opts 't' ∧ ¬ Lettered opts 'S' := by
    rw [hflags, turnOnAll_name, ht, hs]
    simp
  refine ⟨?_, htime, ?_, hname, ?_, ?_⟩
  · intro s field hs
    have hcolor := color?_eq_none_of_field? s field hs
    change field { Request.turnOnAll {} (ws.flatMap Word.switches) with paths := _ } = true ↔ _
    rw [field_paths _ _ s field hs, turnOnAll_field _ s _ field hs, field_plain s field hs,
      mem_switches_ofTokens opts ws s h hcolor]
    simp
  · -- The order is by size where it is neither of the others.
    rw [← htime] at hname ⊢
    cases hk : (Request.ofWords ws rest).flags.sortBy <;> simp [hk] at hname ⊢ <;> exact hname
  · rw [lastColor_ofTokens .auto _ opts ws h, hflags, turnOnAll_color]
  · change (if ws.flatMap Word.paths ++ rest = [] then ["."] else ws.flatMap Word.paths ++ rest) = _
    rw [paths_ofTokens opts ws h]

theorem request_ext (r r' : Request)
    (hfields : ∀ s field, Switch.field? s = some field → field r = field r')
    (hsort : r.flags.sortBy = r'.flags.sortBy) (hcolor : r.flags.color = r'.flags.color)
    (hpaths : r.paths = r'.paths) : r = r' := by
  obtain ⟨⟨⟩⟩ := r
  obtain ⟨⟨⟩⟩ := r'
  simp only [Request.mk.injEq, Flags.mk.injEq]
  exact ⟨⟨hfields .long _ rfl, hfields .all _ rfl, hfields .almostAll _ rfl,
    hfields .humanReadable _ rfl, hfields .onePerLine _ rfl, hfields .recursive _ rfl,
    hfields .directory _ rfl, hfields .classify _ rfl, hfields .showSize _ rfl, hsort,
    hfields .reverse _ rfl, hfields .unsorted _ rfl, hcolor⟩, hpaths, hfields .explain _ rfl,
    hfields .teach _ rfl, hfields .native _ rfl, hfields .rosetta _ rfl, hfields .tree _ rfl,
    hfields .help _ rfl, hfields .version _ rfl, hfields .powershell _ rfl, hfields .cmd _ rfl,
    hfields .verbose _ rfl⟩

theorem eq_ofWords_of_describes (opts rest : List String) (ws : List Word) (r : Request)
    (h : Word.ofTokens opts = .ok ws) (hr : Describes opts rest r) :
    r = Request.ofWords ws rest := by
  have hw := describes_ofWords opts rest ws h
  apply request_ext
  · intro s field hs
    rw [Bool.eq_iff_iff, hr.fields s field hs, hw.fields s field hs]
  · have htime := hr.byTime.trans hw.byTime.symm
    have hsize := hr.bySize.trans hw.bySize.symm
    cases hk : (Request.ofWords ws rest).flags.sortBy with
    | time => exact htime.mpr hk
    | size => exact hsize.mpr hk
    | name => exact hr.byName.mpr (hw.byName.mp hk)
  · have hcolor := (lastColor_ofTokens .auto _ opts ws h).mp hr.color
    exact hcolor.trans ((lastColor_ofTokens .auto _ opts ws h).mp hw.color).symm
  · rw [hr.paths, hw.paths]

theorem parse_ok_iff (argv : List String) (r : Request) :
    parseAs none argv = .ok r ↔ ∃ ws, Word.ofTokens (optionPart argv) = .ok ws ∧
      r = Request.ofWords ws (pathPart argv) := by
  change parse argv = .ok r ↔ _
  rw [parse]
  cases Word.ofTokens (optionPart argv) <;> simp [Except.map, eq_comm]

theorem described_iff (argv : List String) (r : Request) :
    parseAs none argv = .ok r ↔
      (∀ t ∈ optionPart argv, Accepted t) ∧ Describes (optionPart argv) (pathPart argv) r := by
  rw [← ofTokens_ok_iff, parse_ok_iff]
  constructor
  · rintro ⟨ws, hws, rfl⟩
    exact ⟨⟨ws, hws⟩, describes_ofWords _ _ ws hws⟩
  · rintro ⟨⟨ws, hws⟩, hr⟩
    exact ⟨ws, hws, eq_ofWords_of_describes _ _ ws r hws hr⟩

/-- A command line is read exactly when each of its options and paths has a
form, and the request is the one its words describe. -/
theorem reading_iff (argv : List String) :
    ((∃ r, parseAs none argv = .ok r) ↔ ∀ t ∈ optionPart argv, Accepted t) ∧
    ∀ r, parseAs none argv = .ok r ↔
      (∀ t ∈ optionPart argv, Accepted t) ∧ Describes (optionPart argv) (pathPart argv) r := by
  constructor
  · rw [← ofTokens_ok_iff]
    constructor
    · rintro ⟨r, hr⟩
      obtain ⟨ws, hws, -⟩ := (parse_ok_iff argv r).mp hr
      exact ⟨ws, hws⟩
    · rintro ⟨ws, hws⟩
      exact ⟨_, (parse_ok_iff argv _).mpr ⟨ws, hws, rfl⟩⟩
  · exact described_iff argv

/-- A command line and its parts before and behind the first `--`. -/
inductive Cut : List String → List String → List String → Prop
  | whole {opts : List String} : "--" ∉ opts → Cut opts opts []
  | dashes {opts rest : List String} : "--" ∉ opts → Cut (opts ++ "--" :: rest) opts rest

theorem ne_dashes_of_not_mem (opts : List String) (h : "--" ∉ opts) :
    ∀ t ∈ opts, decide (t ≠ "--") = true := by
  intro t ht
  apply decide_eq_true
  rintro rfl
  exact h ht

theorem parts_of_cut (argv opts rest : List String) (h : Cut argv opts rest) :
    optionPart argv = opts ∧ pathPart argv = rest := by
  cases h with
  | whole hopts =>
    have hall := ne_dashes_of_not_mem argv hopts
    rw [← List.append_nil argv, optionPart, pathPart, List.takeWhile_append_of_pos hall,
      List.dropWhile_append_of_pos hall]
    exact ⟨rfl, rfl⟩
  | @dashes opts rest hopts =>
    have hall := ne_dashes_of_not_mem opts hopts
    rw [optionPart, pathPart, List.takeWhile_append_of_pos hall, List.dropWhile_append_of_pos hall]
    simp

theorem cut_parts (argv : List String) : Cut argv (optionPart argv) (pathPart argv) := by
  by_cases h : "--" ∈ argv
  · obtain ⟨opts, rest, rfl, hopts⟩ := List.eq_append_cons_of_mem h
    obtain ⟨ho, hr⟩ := parts_of_cut _ _ _ (Cut.dashes hopts)
    rw [ho, hr]
    exact .dashes hopts
  · obtain ⟨ho, hr⟩ := parts_of_cut _ _ _ (Cut.whole h)
    rw [ho, hr]
    exact .whole h

theorem parse_ok_iff_of_cut (argv opts rest : List String) (h : Cut argv opts rest)
    (r : Request) :
    parseAs none argv = .ok r ↔ (∀ t ∈ opts, Accepted t) ∧ Describes opts rest r := by
  obtain ⟨rfl, rfl⟩ := parts_of_cut argv opts rest h
  exact described_iff argv r

example : Cut ["-lt", "a", "--", "-S", "--"] ["-lt", "a"] ["-S", "--"] ∧
    parseAs none ["-lt", "a", "--", "-S", "--"] =
      .ok { flags := { long := true, sortBy := .time }, paths := ["a", "-S", "--"] } :=
  ⟨@Cut.dashes ["-lt", "a"] ["-S", "--"] (by decide), rfl⟩

end WindowsListing
