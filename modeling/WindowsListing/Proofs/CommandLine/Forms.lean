import WindowsListing.CommandLine
import WindowsListing.Proofs.CommandLine.Switches

/-!
# Forms of words

The grammar of the words in front of `--`, as a relation, and the reader of
words compared with it: a word is read exactly when it has a form, and then
as that form says.
-/

set_option autoImplicit false

namespace WindowsListing

/-- What a word in front of `--` is. -/
inductive Form where
  | path
  | cluster (letters : List Char)
  | long (name : String)
  | color (choice : ColorChoice)

/-- A word that stands for a path: a lone dash, or one that begins otherwise. -/
def IsPath (t : String) : Prop := t = "-" ∨ t.toList.head? ≠ some '-'

instance (t : String) : Decidable (IsPath t) := inferInstanceAs (Decidable (_ ∨ _))

inductive HasForm : String → Form → Prop
  | path {t : String} : IsPath t → HasForm t .path
  | cluster {t : String} {letters : List Char} : t.toList = '-' :: letters → letters ≠ [] →
      (∀ c ∈ letters, ∃ s, Switch.ofLetter? c = some s) → HasForm t (.cluster letters)
  | long {t name : String} {s : Switch} : t = "--" ++ name → '=' ∉ name.toList →
      Switch.ofName? name = some s → HasForm t (.long name)
  | color : HasForm "--color" (.color .auto)
  | colorValue {t value : String} {choice : ColorChoice} : t = "--color=" ++ value →
      ColorChoice.ofValue? value = some choice → HasForm t (.color choice)

def Accepted (t : String) : Prop := ∃ form, HasForm t form

namespace Form

/-- A form names a switch by a letter of a cluster or by a long name. -/
def Names : Form → Switch → Prop
  | .cluster letters, s => ∃ c ∈ letters, Switch.ofLetter? c = some s
  | .long name, s => Switch.ofName? name = some s
  | _, _ => False

def color? : Form → Option ColorChoice
  | .color choice => some choice
  | _ => none

def word (t : String) : Form → Word
  | .path => .path t
  | .cluster letters => .options (letters.filterMap Switch.ofLetter?)
  | .long name => .options (Switch.ofName? name).toList
  | .color choice => .options [.color choice]

end Form

theorem cluster_ok_iff (cs : List Char) (ss : List Switch) :
    cluster cs = .ok ss ↔
      (∀ c ∈ cs, ∃ s, Switch.ofLetter? c = some s) ∧ ss = cs.filterMap Switch.ofLetter? := by
  induction cs generalizing ss with
  | nil => simp [cluster, eq_comm]
  | cons c cs ih =>
    cases hc : Switch.ofLetter? c with
    | none => simp [cluster, hc]
    | some s =>
      cases hcs : cluster cs with
      | error e =>
        have hn : ¬ ∀ d ∈ cs, ∃ s, Switch.ofLetter? d = some s := by
          intro hall
          have hok := (ih _).mpr ⟨hall, rfl⟩
          rw [hcs] at hok
          cases hok
        simp only [cluster, hc, hcs, Except.map, reduceCtorEq, false_iff, not_and]
        exact fun hall => absurd (fun d hd => hall d (by simp [hd])) hn
      | ok rest =>
        obtain ⟨hall, hrest⟩ := (ih rest).mp hcs
        have hboth : ∀ d ∈ c :: cs, ∃ s, Switch.ofLetter? d = some s := by
          intro d hd
          rcases List.mem_cons.mp hd with rfl | hd
          · exact ⟨s, hc⟩
          · exact hall d hd
        rw [List.filterMap_cons_some hc, ← hrest]
        simp only [cluster, hc, hcs, Except.map, Except.ok.injEq]
        exact ⟨fun h => ⟨hboth, h.symm⟩, fun h => h.2.symm⟩

theorem ne_equals_of_not_mem (cs : List Char) (h : '=' ∉ cs) :
    ∀ c ∈ cs, decide (c ≠ '=') = true := by
  intro c hc
  rw [decide_eq_true_eq]
  rintro rfl
  exact h hc

theorem ofChars_plain (cs : List Char) (h : '=' ∉ cs) :
    LongOption.ofChars cs = ⟨String.ofList cs, none⟩ := by
  have hp := ne_equals_of_not_mem cs h
  have ht : (cs ++ []).takeWhile (fun c => decide (c ≠ '=')) = cs := by
    rw [List.takeWhile_append_of_pos hp]
    simp
  have hd : (cs ++ []).dropWhile (fun c => decide (c ≠ '=')) = [] := by
    rw [List.dropWhile_append_of_pos hp]
    rfl
  rw [List.append_nil] at ht hd
  rw [LongOption.ofChars, ht, hd]

theorem ofChars_equals (name value : List Char) (h : '=' ∉ name) :
    LongOption.ofChars (name ++ '=' :: value) =
      ⟨String.ofList name, some (String.ofList value)⟩ := by
  have hp := ne_equals_of_not_mem name h
  have ht : (name ++ '=' :: value).takeWhile (fun c => decide (c ≠ '=')) = name := by
    rw [List.takeWhile_append_of_pos hp]
    simp
  have hd : (name ++ '=' :: value).dropWhile (fun c => decide (c ≠ '=')) = '=' :: value := by
    rw [List.dropWhile_append_of_pos hp]
    simp
  rw [LongOption.ofChars, ht, hd]

theorem longOption_switch_ok_iff (token : String) (o : LongOption) (s : Switch) :
    o.switch token = .ok s ↔
      (o.name = "color" ∧ o.value = none ∧ s = .color .auto) ∨
      (o.name = "color" ∧ ∃ value choice, o.value = some value ∧
        ColorChoice.ofValue? value = some choice ∧ s = .color choice) ∨
      (o.name ≠ "color" ∧ o.value = none ∧ Switch.ofName? o.name = some s) := by
  by_cases hn : o.name = "color"
  · cases hv : o.value with
    | none => simp [LongOption.switch, hn, hv, eq_comm]
    | some value =>
      cases hc : ColorChoice.ofValue? value <;>
        simp [LongOption.switch, hn, hv, hc, eq_comm]
  · cases hv : o.value with
    | none => cases hs : Switch.ofName? o.name <;> simp [LongOption.switch, hn, hv, hs]
    | some value => simp [LongOption.switch, hn, hv]

theorem equals_cases (cs : List Char) :
    '=' ∉ cs ∨ ∃ name value, '=' ∉ name ∧ cs = name ++ '=' :: value := by
  by_cases h : '=' ∈ cs
  · obtain ⟨name, value, hcs, hn⟩ := List.eq_append_cons_of_mem h
    exact Or.inr ⟨name, value, hn, hcs⟩
  · exact Or.inl h

theorem ofToken_path (t : String) (h : IsPath t) : Word.ofToken t = .ok (.path t) := by
  rcases h with rfl | h
  · rfl
  · cases ht : t.toList with
    | nil => simp [Word.ofToken, ht]
    | cons c cs =>
      have hc : c ≠ '-' := by
        rintro rfl
        simp [ht] at h
      rw [Word.ofToken, ht]
      split
      · next heq => exact absurd (List.cons.inj heq).1 hc
      · next heq => exact absurd (List.cons.inj heq).1 hc
      · rfl

theorem ofToken_cluster (t : String) (c : Char) (cs : List Char)
    (h : t.toList = '-' :: c :: cs) (hc : c ≠ '-') :
    Word.ofToken t = (cluster (c :: cs)).map .options := by
  rw [Word.ofToken, h]
  split
  · next heq => exact absurd (List.cons.inj (List.cons.inj heq).2).1 hc
  · next heq => rw [(List.cons.inj heq).2]
  · next hn => exact absurd rfl (hn c cs)

theorem ofToken_long (t : String) (cs : List Char) (h : t.toList = '-' :: '-' :: cs) :
    Word.ofToken t = ((LongOption.ofChars cs).switch t).map fun s => .options [s] := by
  rw [Word.ofToken, h]
  rfl

theorem token_cases (t : String) :
    IsPath t ∨ (∃ c cs, t.toList = '-' :: c :: cs ∧ c ≠ '-') ∨
      ∃ cs, t.toList = '-' :: '-' :: cs := by
  cases ht : t.toList with
  | nil => exact Or.inl (Or.inr (by simp [ht]))
  | cons c cs =>
    by_cases hc : c = '-'
    · rw [hc] at ht ⊢
      cases cs with
      | nil => exact Or.inl (Or.inl (String.toList_inj.mp ht))
      | cons d ds =>
        by_cases hd : d = '-'
        · exact Or.inr (Or.inr ⟨ds, by rw [hd]⟩)
        · exact Or.inr (Or.inl ⟨d, ds, rfl, hd⟩)
    · exact Or.inl (Or.inr (by simp [ht, hc]))

theorem ofToken_of_hasForm (t : String) (form : Form) (h : HasForm t form) :
    Word.ofToken t = .ok (form.word t) := by
  cases h with
  | path hp => exact ofToken_path t hp
  | @cluster _ letters ht hne hall =>
    obtain ⟨c, cs, rfl⟩ := List.exists_cons_of_ne_nil hne
    have hc : c ≠ '-' := by
      rintro rfl
      obtain ⟨s, hs⟩ := hall '-' (by simp)
      cases hs
    rw [ofToken_cluster t c cs ht hc, (cluster_ok_iff (c :: cs) _).mpr ⟨hall, rfl⟩]
    rfl
  | @long _ name s ht hn hs =>
    have hcolor : name ≠ "color" := by
      rintro rfl
      cases hs
    have hswitch := (longOption_switch_ok_iff t ⟨name, none⟩ s).mpr
      (Or.inr (Or.inr ⟨hcolor, rfl, hs⟩))
    rw [ofToken_long t name.toList (by rw [ht, String.toList_append]; rfl), ofChars_plain _ hn,
      String.ofList_toList, hswitch]
    simp [Form.word, hs, Except.map]
  | color => rfl
  | @colorValue _ value choice ht hv =>
    have hlist : t.toList = '-' :: '-' :: ("color".toList ++ '=' :: value.toList) := by
      rw [ht, String.toList_append]
      rfl
    have hswitch := (longOption_switch_ok_iff t ⟨"color", some value⟩ (.color choice)).mpr
      (Or.inr (Or.inl ⟨rfl, value, choice, rfl, hv, rfl⟩))
    rw [ofToken_long t _ hlist, ofChars_equals _ _ (by decide), String.ofList_toList,
      String.ofList_toList, hswitch]
    rfl

theorem accepted_of_ofToken (t : String) (w : Word) (h : Word.ofToken t = .ok w) :
    Accepted t := by
  rcases token_cases t with hp | ⟨c, cs, ht, hc⟩ | ⟨cs, ht⟩
  · exact ⟨.path, .path hp⟩
  · rw [ofToken_cluster t c cs ht hc] at h
    cases hcs : cluster (c :: cs) with
    | error e =>
      rw [hcs] at h
      cases h
    | ok ss =>
      exact ⟨.cluster (c :: cs), .cluster ht (by simp) ((cluster_ok_iff _ _).mp hcs).1⟩
  · rw [ofToken_long t cs ht] at h
    cases hs : (LongOption.ofChars cs).switch t with
    | error e =>
      rw [hs] at h
      cases h
    | ok s =>
      rw [longOption_switch_ok_iff] at hs
      have hword (value : String) (hv : cs = value.toList) : t = "--" ++ value := by
        apply String.toList_inj.mp
        rw [ht, hv, String.toList_append]
        rfl
      rcases equals_cases cs with hn | ⟨name, value, hn, rfl⟩
      · rw [ofChars_plain cs hn] at hs
        have hcs : cs = (String.ofList cs).toList := String.toList_ofList.symm
        rcases hs with ⟨hname, -, -⟩ | ⟨-, value, choice, hvalue, -⟩ | ⟨-, -, hs⟩
        · have hdash := hword "color" (hcs.trans (congrArg String.toList hname))
          exact ⟨.color .auto, hdash ▸ HasForm.color⟩
        · cases hvalue
        · exact ⟨.long (String.ofList cs), .long (hword _ hcs) (hcs ▸ hn) hs⟩
      · rw [ofChars_equals name value hn] at hs
        rcases hs with ⟨-, hvalue, -⟩ | ⟨hname, v, choice, hvalue, hchoice, -⟩ | ⟨-, hvalue, -⟩
        · cases hvalue
        · have hcolor : name = "color".toList :=
            String.toList_ofList.symm.trans (congrArg String.toList hname)
          have hlist : name ++ '=' :: value = ("color=" ++ String.ofList value).toList := by
            rw [hcolor, String.toList_append]
            exact congrArg ("color=".toList ++ ·) String.toList_ofList.symm
          have hdash := hword _ hlist
          rw [Option.some.inj hvalue] at hdash
          exact ⟨.color choice, .colorValue (hdash.trans String.append_assoc.symm) hchoice⟩
        · cases hvalue

end WindowsListing
