import WindowsListing.Proofs.Shell.Fields
import WindowsListing.Shell.Words

/-!
# Quotation marks in a line

A reader of a line is inside quotation marks or outside of them. A text that
leaves no mark open can be followed by a space and more: what is read from the
line is then what is read from the text, and what is read from the rest. So
the words of a line made of such texts are those of the texts, one by one, and
so are the characters outside marks, but for the spaces between them. The
argument written for a path without marks is such a text.
-/

set_option autoImplicit false

namespace WindowsListing.Shell

theorem insideAfter_append (inside : Bool) (cs ds : List Char) :
    insideAfter inside (cs ++ ds) = insideAfter (insideAfter inside cs) ds := by
  induction cs generalizing inside with
  | nil => rfl
  | cons c cs ih => exact ih _

theorem insideAfter_of_not_mem (inside : Bool) (cs : List Char) (hq : '"' ∉ cs) :
    insideAfter inside cs = inside := by
  induction cs with
  | nil => rfl
  | cons c cs ih =>
    simp only [List.mem_cons, not_or] at hq
    rw [insideAfter, if_neg (Ne.symm hq.1)]
    exact ih hq.2

theorem insideAfter_eq_odd (inside : Bool) (cs : List Char) :
    insideAfter inside cs = (inside != decide (cs.count '"' % 2 = 1)) := by
  induction cs generalizing inside with
  | nil => simp [insideAfter]
  | cons c cs ih =>
    rw [insideAfter, ih]
    by_cases hc : c = '"'
    · rw [if_pos hc, hc, List.count_cons_self]
      rcases Nat.mod_two_eq_zero_or_one (cs.count '"') with h | h
      · have hs : (cs.count '"' + 1) % 2 = 1 := by omega
        cases inside <;> simp [h, hs]
      · have hs : (cs.count '"' + 1) % 2 = 0 := by omega
        cases inside <;> simp [h, hs]
    · rw [if_neg hc, List.count_cons_of_ne hc]

theorem insideAfter_argument (path : String) (hq : '"' ∉ path.toList) :
    insideAfter false (Path.argument path).toList = false := by
  have ht := quote_not_mem_toWindows path hq
  rw [Path.argument, toList_enclose _ ht]
  by_cases hs : ' ' ∈ (Path.toWindows path).toList
  · have hopen : insideAfter false ('"' :: (Path.toWindows path).toList) = true :=
      insideAfter_of_not_mem true _ ht
    rw [if_pos hs, insideAfter_append, hopen]
    rfl
  · rw [if_neg hs]
    exact insideAfter_of_not_mem false _ ht

theorem insideAfter_joined (ws : List String)
    (h : ∀ w ∈ ws, insideAfter false w.toList = false) :
    insideAfter false (joined ws) = false := by
  induction ws with
  | nil => rfl
  | cons w ws ih =>
    have hw := h w (by simp)
    cases ws with
    | nil => simpa [joined] using hw
    | cons v vs =>
      rw [joined_cons_cons, insideAfter_append, hw]
      exact ih fun x hx => h x (by simp [hx])

theorem wordsFrom_append_space (inside : Bool) (begun : Option (List Char)) (cs rest : List Char)
    (h : insideAfter inside cs = false) :
    wordsFrom inside begun (cs ++ ' ' :: rest) =
      wordsFrom inside begun cs ++ wordsFrom false none rest := by
  -- Both what the reader is inside of and the word it has begun change with each character.
  induction cs generalizing inside begun with
  | nil =>
    have hi : inside = false := h
    simp [wordsFrom, hi]
  | cons c cs ih =>
    by_cases hq : c = '"'
    · have ht : insideAfter (!inside) cs = false := by simpa [insideAfter, hq] using h
      simp [wordsFrom, hq, ih (!inside) _ ht]
    · have ht : insideAfter inside cs = false := by simpa [insideAfter, hq] using h
      by_cases hs : c = ' ' ∧ inside = false
      · rw [hs.2] at ht
        simp [wordsFrom, hs, ih false _ ht]
      · simp [wordsFrom, hq, hs, ih inside _ ht]

theorem words_joined (ws : List String) (h : ∀ w ∈ ws, insideAfter false w.toList = false) :
    (wordsFrom false none (joined ws)).map String.ofList = ws.flatMap words := by
  induction ws with
  | nil => rfl
  | cons w ws ih =>
    cases ws with
    | nil => simp [joined, words]
    | cons v vs =>
      rw [joined_cons_cons, wordsFrom_append_space _ _ _ _ (h w (by simp)), List.map_append,
        ih fun x hx => h x (by simp [hx])]
      rfl

theorem wordsFrom_begun (word cs : List Char) (hs : ' ' ∉ cs) (hq : '"' ∉ cs) :
    wordsFrom false (some word) cs = [word ++ cs] := by
  induction cs generalizing word with
  | nil => simp [wordsFrom, complete]
  | cons c cs ih =>
    simp only [List.mem_cons, not_or] at hs hq
    simp [wordsFrom, Ne.symm hs.1, Ne.symm hq.1, ih _ hs.2 hq.2]

theorem words_bare (text : String) (hs : ' ' ∉ text.toList) (hq : '"' ∉ text.toList) :
    words text = if text = "" then [] else [text] := by
  by_cases he : text = ""
  · rw [if_pos he, he]
    rfl
  · obtain ⟨c, cs, hc⟩ := List.exists_cons_of_ne_nil (mt String.toList_eq_nil_iff.mp he)
    rw [hc] at hs hq
    simp only [List.mem_cons, not_or] at hs hq
    have hword : wordsFrom false none text.toList = [text.toList] := by
      rw [hc]
      simpa [wordsFrom, Ne.symm hs.1, Ne.symm hq.1] using wordsFrom_begun [c] cs hs.2 hq.2
    rw [words, hword, if_neg he]
    simp

theorem wordsFrom_inside (word cs : List Char) (hq : '"' ∉ cs) :
    wordsFrom true (some word) (cs ++ ['"']) = [word ++ cs] := by
  induction cs generalizing word with
  | nil => simp [wordsFrom, complete]
  | cons c cs ih =>
    simp only [List.mem_cons, not_or] at hq
    simp [wordsFrom, Ne.symm hq.1, ih _ hq.2]

theorem words_enclose (text : String) (hq : '"' ∉ text.toList) :
    words (Path.enclose text) = if text = "" then [] else [text] := by
  by_cases hs : ' ' ∈ text.toList
  · have hne : text ≠ "" := by
      rintro rfl
      exact absurd hs (by decide)
    have hword := wordsFrom_inside [] text.toList hq
    rw [words, toList_enclose text hq, if_pos hs, if_neg hne]
    simp [wordsFrom, hword]
  · rw [Path.enclose_of_no_space text hs]
    exact words_bare text hs hq

theorem unquotedFrom_append (inside : Bool) (cs ds : List Char) :
    unquotedFrom inside (cs ++ ds) =
      unquotedFrom inside cs ++ unquotedFrom (insideAfter inside cs) ds := by
  induction cs generalizing inside with
  | nil => rfl
  | cons c cs ih =>
    by_cases hq : c = '"'
    · simp [unquotedFrom, insideAfter, hq, ih]
    · cases inside <;> simp [unquotedFrom, insideAfter, hq, ih]

theorem unquotedFrom_of_not_mem (inside : Bool) (cs : List Char) (hq : '"' ∉ cs) :
    unquotedFrom inside cs = if inside then [] else cs := by
  induction cs with
  | nil => cases inside <;> rfl
  | cons c cs ih =>
    simp only [List.mem_cons, not_or] at hq
    cases inside <;> simp [unquotedFrom, Ne.symm hq.1, ih hq.2]

theorem unquoted_enclose (text : String) (hq : '"' ∉ text.toList) :
    unquoted (Path.enclose text) = if ' ' ∈ text.toList then [] else text.toList := by
  rw [unquoted, toList_enclose text hq]
  by_cases hs : ' ' ∈ text.toList
  · have hopen : unquotedFrom false ('"' :: text.toList) = [] :=
      unquotedFrom_of_not_mem true _ hq
    rw [if_pos hs, if_pos hs, unquotedFrom_append, hopen]
    simp [unquotedFrom]
  · rw [if_neg hs, if_neg hs]
    exact unquotedFrom_of_not_mem false _ hq

theorem filter_unquoted_joined (p : Char → Bool) (hp : p ' ' = false) (ws : List String)
    (h : ∀ w ∈ ws, insideAfter false w.toList = false) :
    (unquotedFrom false (joined ws)).filter p = ws.flatMap fun w => (unquoted w).filter p := by
  induction ws with
  | nil => rfl
  | cons w ws ih =>
    have hw := h w (by simp)
    cases ws with
    | nil => simp [joined, unquoted]
    | cons v vs =>
      have hspace : (unquotedFrom false (' ' :: joined (v :: vs))).filter p =
          (unquotedFrom false (joined (v :: vs))).filter p := by
        simp [unquotedFrom, hp]
      rw [joined_cons_cons, unquotedFrom_append, hw, List.filter_append, hspace,
        ih fun x hx => h x (by simp [hx])]
      rfl

theorem mem_unquotedFrom (inside : Bool) (cs : List Char) (c : Char) (hc : c ≠ '"') :
    c ∈ unquotedFrom inside cs ↔
      ∃ before after, cs = before ++ c :: after ∧ insideAfter inside before = false := by
  constructor
  · intro h
    induction cs generalizing inside with
    | nil => simp [unquotedFrom] at h
    | cons d ds ih =>
      by_cases hq : d = '"'
      · rw [unquotedFrom, if_pos hq] at h
        obtain ⟨before, after, rfl, hb⟩ := ih _ h
        exact ⟨d :: before, after, rfl, by rwa [insideAfter, if_pos hq]⟩
      · -- The character may stand behind this one, or outside of marks be this one.
        have hskip : c ∈ unquotedFrom inside ds →
            ∃ before after, d :: ds = before ++ c :: after ∧ insideAfter inside before = false := by
          intro ht
          obtain ⟨before, after, rfl, hb⟩ := ih _ ht
          exact ⟨d :: before, after, rfl, by rwa [insideAfter, if_neg hq]⟩
        cases inside with
        | true => exact hskip (by simpa [unquotedFrom, hq] using h)
        | false =>
          rw [unquotedFrom, if_neg hq, if_neg (by decide)] at h
          rcases List.mem_cons.mp h with rfl | ht
          · exact ⟨[], ds, rfl, rfl⟩
          · exact hskip ht
  · rintro ⟨before, after, rfl, hb⟩
    rw [unquotedFrom_append, hb]
    simp [unquotedFrom, hc]

end WindowsListing.Shell
