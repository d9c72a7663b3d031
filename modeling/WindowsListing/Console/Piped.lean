import WindowsListing.Console

/-!
# The piped console

What a console prints when its output is no terminal. Styles are shown where a
terminal is asked for all the same. The columns of a label count for the tabs
behind it, escape codes do not. This console keeps texts and wraps labels.
-/

set_option autoImplicit false

namespace WindowsListing
open WindowsListing.Text

def Span.shown (column : Nat) (span : Span) : Span :=
  { span with text := String.ofList (Text.shown column span.text.toList) }

def spansShown (styled : Bool) : Nat → List Span → String
  | _, [] => ""
  | column, span :: spans =>
    (span.shown column).written styled ++
      spansShown styled (columnAfter column span.text.toList) spans

def Console.piped : Console where
  print settings spans := spansShown settings.forceTerminal 0 spans ++ "\n"

theorem textOf_cons (span : Span) (spans : List Span) :
    Span.textOf (span :: spans) = span.text ++ Span.textOf spans := by
  simp [Span.textOf]

theorem spansShown_plain (styled : Bool) (column : Nat) (spans : List Span)
    (hs : styled = true → ∀ span ∈ spans, span.style? = none) (ht : Plain (Span.textOf spans)) :
    spansShown styled column spans = Span.textOf spans := by
  induction spans generalizing column with
  | nil => rfl
  | cons span spans ih =>
    rw [textOf_cons] at ht ⊢
    have hspan : Text.shown column span.text.toList = span.text.toList :=
      shown_plain _ _ fun c hc => ht c (by simp [hc])
    have hrest := ih (columnAfter column span.text.toList)
      (fun h s hm => hs h s (by simp [hm])) fun c hc => ht c (by simp [hc])
    have hfirst : (span.shown column).written styled = span.text := by
      rw [Span.shown, hspan, String.ofList_toList, Span.written]
      cases hstyle : span.style? with
      | none => rfl
      | some style =>
        cases styled with
        | false => rfl
        | true =>
          rw [hs rfl span (by simp)] at hstyle
          cases hstyle
    rw [spansShown, hfirst, hrest]

theorem newline_not_mem_spansShown (styled : Bool) (column : Nat) (spans : List Span)
    (h : '\n' ∉ (Span.textOf spans).toList) : '\n' ∉ (spansShown styled column spans).toList := by
  induction spans generalizing column with
  | nil => exact h
  | cons span spans ih =>
    rw [textOf_cons, String.toList_append, List.mem_append, not_or] at h
    have hspan := newline_not_mem_shown column _ h.1
    have hfirst : '\n' ∉ ((span.shown column).written styled).toList := by
      rw [Span.shown, Span.written]
      cases span.style? with
      | none => simpa using hspan
      | some style => cases styled <;> cases style <;> simpa [Style.wrap] using hspan
    rw [spansShown, String.toList_append, List.mem_append, not_or]
    exact ⟨hfirst, ih _ h.2⟩

theorem piped_keepsText : Console.piped.KeepsText where
  unbroken _ spans h := ⟨_, newline_not_mem_spansShown _ 0 spans h, rfl⟩
  unchanged choice spans hs ht := by
    refine congrArg (· ++ "\n") (spansShown_plain _ 0 spans ?_ ht)
    cases choice with
    | always => exact fun _ => hs rfl
    | _ => exact fun h => absurd h (by decide)

theorem piped_wrapsLabels : Console.piped.WrapsLabels where
  label style label text _ h := by
    have hlabel : String.ofList (Text.shown 0 label.toList) = label := by
      rw [shown_plain _ _ h, String.ofList_toList]
    refine ⟨spansShown false (columnAfter 0 label.toList) (bare text) ++ "\n", ?_⟩
    intro choice
    cases choice <;>
      simp [Console.piped, ConsoleSettings.ofChoice, labelled, bare, spansShown, Span.shown,
        Span.written, hlabel, String.append_assoc]
  unlabelled spans h choice other := by
    have hstyle (styled : Bool) (column : Nat) :
        spansShown styled column spans = spansShown false column spans := by
      induction spans generalizing column with
      | nil => rfl
      | cons span spans ih =>
        rw [spansShown, spansShown, ih fun s hm => h s (by simp [hm]), Span.written,
          Span.written, Span.shown, h span (by simp)]
    exact congrArg (· ++ "\n") ((hstyle _ 0).trans (hstyle _ 0).symm)

end WindowsListing
