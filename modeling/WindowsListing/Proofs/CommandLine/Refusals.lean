import WindowsListing.Proofs.CommandLine.Aliases

/-!
# Refused command lines

A command line is refused for the first word in front of `--` that has no
form. The complaint is made from that word alone: a long option is named
whole, a cluster by its first letter that stands for nothing, and a color
option by its value. Words that are accepted before it, words behind it and
the name of the program have no part in it.
-/

set_option autoImplicit false

namespace WindowsListing

/-- The token and the message that a word without a form is refused with. The
name of a long option ends at the first equals sign. -/
inductive RefusedFor : String → String → String → Prop
  | color {t value : String} : t = "--color=" ++ value →
      RefusedFor t t ("Unknown color option: " ++ value)
  | long {t name : String} : t = "--" ++ name → '=' ∉ name.toList → name ≠ "color" →
      RefusedFor t t ("Unknown option: " ++ t)
  | valued {t name value : String} : t = "--" ++ name ++ "=" ++ value → '=' ∉ name.toList →
      name ≠ "color" → RefusedFor t t ("Unknown option: " ++ t)
  | cluster {t token : String} {known rest : List Char} {c : Char} :
      t.toList = '-' :: (known ++ c :: rest) → (known ++ c :: rest).head? ≠ some '-' →
      (∀ d ∈ known, ∃ s, Switch.ofLetter? d = some s) → Switch.ofLetter? c = none →
      token = String.ofList ['-', c] → RefusedFor t token ("Unknown option: " ++ token)

theorem cluster_error_iff (cs : List Char) (e : UsageError) :
    cluster cs = .error e ↔
      ∃ known c rest, cs = known ++ c :: rest ∧
        (∀ d ∈ known, ∃ s, Switch.ofLetter? d = some s) ∧ Switch.ofLetter? c = none ∧
        e = .unknownOption (String.ofList ['-', c]) := by
  induction cs with
  | nil => simp [cluster]
  | cons b bs ih =>
    cases hb : Switch.ofLetter? b with
    | none =>
      -- The first letter is to blame, so no known letters can stand before it.
      rw [cluster, hb]
      constructor
      · intro h
        exact ⟨[], b, bs, rfl, by simp, hb, (Except.error.inj h).symm⟩
      · rintro ⟨known, c, rest, hcs, hknown, -, rfl⟩
        cases known with
        | nil => rw [(List.cons.inj hcs).1]
        | cons d ds =>
          obtain ⟨s, hs⟩ := hknown d (by simp)
          rw [← (List.cons.inj hcs).1, hb] at hs
          cases hs
    | some s =>
      -- The first letter joins those that are known.
      rw [cluster, hb]
      dsimp only
      rw [map_eq_error_iff, ih]
      constructor
      · rintro ⟨known, c, rest, rfl, hknown, hc, he⟩
        refine ⟨b :: known, c, rest, rfl, ?_, hc, he⟩
        intro d hd
        rcases List.mem_cons.mp hd with rfl | hd
        · exact ⟨s, hb⟩
        · exact hknown d hd
      · rintro ⟨known, c, rest, hcs, hknown, hc, he⟩
        cases known with
        | nil =>
          rw [← (List.cons.inj hcs).1, hb] at hc
          cases hc
        | cons d ds =>
          exact ⟨ds, c, rest, (List.cons.inj hcs).2, fun d hd => hknown d (by simp [hd]), hc, he⟩

theorem longOption_switch_error (token : String) (o : LongOption) (e : UsageError)
    (h : o.switch token = .error e) :
    (o.name = "color" ∧ ∃ value, o.value = some value ∧ e = .unknownColor token value) ∨
      (o.name ≠ "color" ∧ e = .unknownOption token) := by
  by_cases hn : o.name = "color"
  · refine Or.inl ⟨hn, ?_⟩
    cases hv : o.value with
    | none => simp [LongOption.switch, hn, hv] at h
    | some value =>
      cases hc : ColorChoice.ofValue? value with
      | none => exact ⟨value, rfl, by simpa [LongOption.switch, hn, hv, hc, eq_comm] using h⟩
      | some choice => simp [LongOption.switch, hn, hv, hc] at h
  · refine Or.inr ⟨hn, ?_⟩
    cases hv : o.value with
    | none =>
      cases hs : Switch.ofName? o.name with
      | none => simpa [LongOption.switch, hn, hv, hs, eq_comm] using h
      | some s => simp [LongOption.switch, hn, hv, hs] at h
    | some value => simpa [LongOption.switch, hn, hv, eq_comm] using h

theorem not_accepted_iff (t : String) : ¬ Accepted t ↔ ∃ e, Word.ofToken t = .error e := by
  constructor
  · intro h
    cases ht : Word.ofToken t with
    | error e => exact ⟨e, rfl⟩
    | ok w => exact absurd (accepted_of_ofToken t w ht) h
  · rintro ⟨e, he⟩ ⟨form, hf⟩
    rw [ofToken_of_hasForm t form hf] at he
    cases he

theorem ofToken_letters (t : String) (letters : List Char) (h : t.toList = '-' :: letters)
    (hne : letters ≠ []) (hd : letters.head? ≠ some '-') :
    Word.ofToken t = (cluster letters).map .options := by
  obtain ⟨c, cs, rfl⟩ := List.exists_cons_of_ne_nil hne
  exact ofToken_cluster t c cs h (by simpa using hd)

theorem refusedFor_of_ofToken (t : String) (e : UsageError) (h : Word.ofToken t = .error e) :
    RefusedFor t e.token e.message := by
  rcases token_cases t with hp | ⟨c, cs, ht, hc⟩ | ⟨cs, ht⟩
  · rw [ofToken_path t hp] at h
    cases h
  · rw [ofToken_cluster t c cs ht hc, map_eq_error_iff, cluster_error_iff] at h
    obtain ⟨known, d, rest, hcs, hknown, hd, rfl⟩ := h
    rw [hcs] at ht
    exact .cluster ht (by simp [← hcs, hc]) hknown hd rfl
  · rw [ofToken_long t cs ht, map_eq_error_iff] at h
    rcases equals_cases cs with hn | ⟨name, value, hn, rfl⟩
    · have hword : t = "--" ++ String.ofList cs := by
        apply String.toList_inj.mp
        simp [ht]
      rw [ofChars_plain cs hn] at h
      rcases longOption_switch_error _ _ _ h with ⟨-, value, hv, -⟩ | ⟨hcolor, rfl⟩
      · cases hv
      · exact .long hword (by simpa using hn) hcolor
    · rw [ofChars_equals name value hn] at h
      rcases longOption_switch_error _ _ _ h with ⟨hcolor, v, hv, rfl⟩ | ⟨hcolor, rfl⟩
      · refine .color ?_
        apply String.toList_inj.mp
        have hname := congrArg String.toList hcolor
        rw [String.toList_ofList] at hname
        simp [ht, hname, ← Option.some.inj hv]
      · have hword : t = "--" ++ String.ofList name ++ "=" ++ String.ofList value := by
          apply String.toList_inj.mp
          simp [ht]
        exact .valued hword (by simpa using hn) hcolor

theorem ofToken_of_refusedFor (t token message : String) (e : UsageError)
    (h : Word.ofToken t = .error e) (hr : RefusedFor t token message) :
    e.token = token ∧ e.message = message := by
  cases hr with
  | @color value ht =>
    have hlist : t.toList = '-' :: '-' :: ("color".toList ++ '=' :: value.toList) := by
      simp [ht]
    rw [ofToken_long t _ hlist, map_eq_error_iff, ofChars_equals _ _ (by decide)] at h
    rcases longOption_switch_error _ _ _ h with ⟨-, v, hv, rfl⟩ | ⟨hcolor, -⟩
    · rw [← Option.some.inj hv, String.ofList_toList]
      exact ⟨rfl, rfl⟩
    · exact absurd String.ofList_toList hcolor
  | @long name ht hn hcolor =>
    have hlist : t.toList = '-' :: '-' :: name.toList := by
      simp [ht]
    rw [ofToken_long t _ hlist, map_eq_error_iff, ofChars_plain _ hn, String.ofList_toList] at h
    rcases longOption_switch_error _ _ _ h with ⟨hname, -⟩ | ⟨-, rfl⟩
    · exact absurd hname hcolor
    · exact ⟨rfl, rfl⟩
  | @valued name value ht hn hcolor =>
    have hlist : t.toList = '-' :: '-' :: (name.toList ++ '=' :: value.toList) := by
      simp [ht]
    rw [ofToken_long t _ hlist, map_eq_error_iff, ofChars_equals _ _ hn, String.ofList_toList] at h
    rcases longOption_switch_error _ _ _ h with ⟨hname, -⟩ | ⟨-, rfl⟩
    · exact absurd hname hcolor
    · exact ⟨rfl, rfl⟩
  | @cluster _ known rest c ht hd hknown hc htoken =>
    have hcluster := (cluster_error_iff _ _).mpr ⟨known, c, rest, rfl, hknown, hc, rfl⟩
    rw [ofToken_letters t _ ht (by simp) hd, hcluster] at h
    rw [htoken, ← Except.error.inj h]
    exact ⟨rfl, rfl⟩

theorem ofTokens_error_iff (ts : List String) (e : UsageError) :
    Word.ofTokens ts = .error e ↔
      ∃ before t after, ts = before ++ t :: after ∧ (∀ u ∈ before, Accepted u) ∧
        Word.ofToken t = .error e := by
  induction ts with
  | nil => simp [Word.ofTokens]
  | cons u us ih =>
    cases hu : Word.ofToken u with
    | error f =>
      rw [Word.ofTokens, hu]
      dsimp only
      constructor
      · intro h
        exact ⟨[], u, us, rfl, by simp, hu.trans (congrArg _ (Except.error.inj h))⟩
      · rintro ⟨before, t, after, hts, hb, ht⟩
        cases before with
        | nil =>
          rw [← (List.cons.inj hts).1, hu] at ht
          rw [Except.error.inj ht]
        | cons b bs =>
          have haccepted := hb b (by simp)
          rw [← (List.cons.inj hts).1] at haccepted
          exact absurd haccepted ((not_accepted_iff u).mpr ⟨f, hu⟩)
    | ok w =>
      rw [Word.ofTokens, hu]
      dsimp only
      rw [map_eq_error_iff, ih]
      constructor
      · rintro ⟨before, t, after, rfl, hb, ht⟩
        refine ⟨u :: before, t, after, rfl, ?_, ht⟩
        intro v hv
        rcases List.mem_cons.mp hv with rfl | hv
        · exact accepted_of_ofToken v w hu
        · exact hb v hv
      · rintro ⟨before, t, after, hts, hb, ht⟩
        cases before with
        | nil =>
          rw [← (List.cons.inj hts).1, hu] at ht
          cases ht
        | cons b bs =>
          exact ⟨bs, t, after, (List.cons.inj hts).2, fun v hv => hb v (by simp [hv]), ht⟩

theorem parse_error_iff (program : Option String) (argv : List String) (e : UsageError) :
    parseAs program argv = .error e ↔
      ∃ before t after, optionPart argv = before ++ t :: after ∧ (∀ u ∈ before, Accepted u) ∧
        Word.ofToken t = .error e := by
  rw [parseAs_error_iff, parse, map_eq_error_iff, ofTokens_error_iff]

theorem accepted_ne_dashes (t : String) (h : Accepted t) : decide (t ≠ "--") = true := by
  apply decide_eq_true
  rintro rfl
  exact (not_accepted_iff "--").mpr ⟨_, rfl⟩ h

theorem refused_iff (program : Option String) (argv : List String) (token message : String) :
    (∃ e, parseAs program argv = .error e ∧ e.token = token ∧ e.message = message) ↔
      ∃ before t after, optionPart argv = before ++ t :: after ∧ (∀ u ∈ before, Accepted u) ∧
        ¬ Accepted t ∧ RefusedFor t token message := by
  constructor
  · rintro ⟨e, he, rfl, rfl⟩
    obtain ⟨before, t, after, hargv, hb, ht⟩ := (parse_error_iff program argv e).mp he
    exact ⟨before, t, after, hargv, hb, (not_accepted_iff t).mpr ⟨e, ht⟩,
      refusedFor_of_ofToken t e ht⟩
  · rintro ⟨before, t, after, hargv, hb, ht, hr⟩
    obtain ⟨e, he⟩ := (not_accepted_iff t).mp ht
    exact ⟨e, (parse_error_iff program argv e).mpr ⟨before, t, after, hargv, hb, he⟩,
      ofToken_of_refusedFor t token message e he hr⟩

/-- The first word without a form decides what a command line is refused for:
token and message are made from it as the grammar says, and the whole
complaint is the same whatever stands around it. -/
theorem refused_iff_first_offender :
    (∀ program argv token message,
      (∃ e, parseAs program argv = .error e ∧ e.token = token ∧ e.message = message) ↔
        ∃ before t after, optionPart argv = before ++ t :: after ∧ (∀ u ∈ before, Accepted u) ∧
          ¬ Accepted t ∧ RefusedFor t token message) ∧
    ∀ t, t ≠ "--" → ¬ Accepted t → ∃ e, ∀ program before after, (∀ u ∈ before, Accepted u) →
      parseAs program (before ++ t :: after) = .error e := by
  constructor
  · exact refused_iff
  · intro t hdashes ht
    obtain ⟨e, he⟩ := (not_accepted_iff t).mp ht
    refine ⟨e, ?_⟩
    intro program before after hb
    have hpart : optionPart (before ++ t :: after) = before ++ t :: optionPart after := by
      rw [optionPart, List.takeWhile_append_of_pos fun u hu => accepted_ne_dashes u (hb u hu)]
      exact congrArg (before ++ ·) (List.takeWhile_cons_of_pos (decide_eq_true hdashes))
    exact (parse_error_iff program _ e).mpr ⟨before, t, optionPart after, hpart, hb, he⟩

theorem refused_iff_first_offender_dash :
    "-la-F" ≠ "--" ∧ ¬ Accepted "-la-F" ∧ Accepted "--help" ∧
      ∃ e, e.token = "--" ∧ e.message = "Unknown option: --" ∧
        parseAs none ["-la-F"] = .error e ∧
        parseAs (some "ll") ["--help", "-la-F", "--color=pink"] = .error e := by
  have hdashes : "-la-F" ≠ "--" := by decide
  have hcluster : ¬ Accepted "-la-F" := (not_accepted_iff _).mpr ⟨_, rfl⟩
  have hhelp : Accepted "--help" := accepted_of_ofToken _ _ rfl
  have hfor : RefusedFor "-la-F" "--" "Unknown option: --" :=
    @RefusedFor.cluster "-la-F" "--" ['l', 'a'] ['F'] '-' rfl (by decide)
      (by simp [Switch.ofLetter?]) rfl rfl
  obtain ⟨hiff, hsame⟩ := refused_iff_first_offender
  obtain ⟨e, hany⟩ := hsame "-la-F" hdashes hcluster
  have halone := hany none [] [] (by simp)
  have hamong := hany (some "ll") ["--help"] ["--color=pink"] (by simpa using hhelp)
  obtain ⟨f, hf, htoken, hmessage⟩ := (hiff none ["-la-F"] _ _).mpr
    ⟨[], "-la-F", [], rfl, by simp, hcluster, hfor⟩
  have hef : e = f := Except.error.inj (halone.symm.trans hf)
  exact ⟨hdashes, hcluster, hhelp, e, hef ▸ htoken, hef ▸ hmessage, halone, hamong⟩

/-- What a command line is refused for, however its parts were found. What
stands behind `--` is never to blame. -/
theorem refused_iff_of_cut (argv opts rest : List String) (h : Cut argv opts rest)
    (program : Option String) (token message : String) :
    (∃ e, parseAs program argv = .error e ∧ e.token = token ∧ e.message = message) ↔
      ∃ before t after, opts = before ++ t :: after ∧ (∀ u ∈ before, Accepted u) ∧
        ¬ Accepted t ∧ RefusedFor t token message := by
  obtain ⟨rfl, -⟩ := parts_of_cut argv opts rest h
  exact refused_iff program argv token message

example : parseAs none ["-l", "a", "-lx", "--", "-y"] = .error (.unknownOption "-x") ∧
    parseAs none ["-l", "--", "-lx"] = .ok { flags := { long := true }, paths := ["-lx"] } :=
  ⟨rfl, rfl⟩

end WindowsListing
