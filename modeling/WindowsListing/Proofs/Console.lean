import WindowsListing.Dispatch
import WindowsListing.Text.Split

/-!
# Lines on the console

On a console that keeps texts, what is printed in one go is one line of
output, as long as it holds no line end. Read back line by line, an explanation
is the line for each shell, an empty one and the description. A plain text
stands behind its label as it is, unless styles are asked for.
-/

set_option autoImplicit false

namespace WindowsListing
open WindowsListing.Text

/-- The lines of an output. The last one is what follows the last line end. -/
def lines (output : String) : List String := (pieces '\n' output.toList).map String.ofList

theorem newline_not_mem_of_plain (text : String) (h : Plain text) : '\n' ∉ text.toList :=
  fun hn => (h '\n' hn).1 rfl

theorem plain_append (s t : String) (hs : Plain s) (ht : Plain t) : Plain (s ++ t) := by
  intro c hc
  rw [String.toList_append] at hc
  rcases List.mem_append.mp hc with hc | hc
  · exact hs c hc
  · exact ht c hc

theorem plain_of_visible (word : String) (h : Visible word) : Plain word := by
  intro c hc
  have hlow := (h c hc).1
  refine ⟨?_, ?_, ?_⟩
  · rintro rfl
    exact absurd hlow (by decide)
  · rintro rfl
    exact absurd hlow (by decide)
  · simp [isDropped]
    omega

theorem lines_append (line rest : String) (h : '\n' ∉ line.toList) :
    lines (line ++ "\n" ++ rest) = line :: lines rest := by
  have hl : (line ++ "\n" ++ rest).toList = line.toList ++ '\n' :: rest.toList := by simp
  rw [lines, hl, pieces_append, pieces_of_not_mem _ _ h, List.singleton_append, List.map_cons,
    String.ofList_toList]
  rfl

theorem textOf_labelled (style : Style) (label text : String) :
    Span.textOf (labelled style label text) = label ++ text := by
  simp [Span.textOf, labelled]

theorem textOf_bare (text : String) : Span.textOf (bare text) = text := by
  simp [Span.textOf, bare]

namespace Console
variable (console : Console)

/-- What is printed in one go, without the line end behind it. -/
def row (settings : ConsoleSettings) (spans : List Span) : String :=
  (lines (console.print settings spans)).headD ""

theorem lines_print (hc : console.KeepsText) (choice : ColorChoice) (spans : List Span)
    (rest : String) (h : '\n' ∉ (Span.textOf spans).toList) :
    lines (console.print (.ofChoice choice) spans ++ rest) =
      console.row (.ofChoice choice) spans :: lines rest := by
  obtain ⟨line, hline, hprint⟩ := hc.unbroken choice spans h
  have halone := lines_append line "" hline
  rw [String.append_empty] at halone
  rw [row, hprint, lines_append line rest hline, halone]
  rfl

theorem row_plain (hc : console.KeepsText) (choice : ColorChoice) (spans : List Span)
    (hs : choice = .always → ∀ span ∈ spans, span.style? = none) (ht : Plain (Span.textOf spans)) :
    console.row (.ofChoice choice) spans = Span.textOf spans := by
  have halone := lines_append _ "" (newline_not_mem_of_plain _ ht)
  rw [String.append_empty] at halone
  rw [row, hc.unchanged choice spans hs ht, halone]
  rfl

theorem row_labelled (hc : console.KeepsText) (choice : ColorChoice) (style : Style)
    (label text : String) (hn : choice ≠ .always) (hl : Plain label) (ht : Plain text) :
    console.row (.ofChoice choice) (labelled style label text) = label ++ text := by
  have hplain : Plain (Span.textOf (labelled style label text)) := by
    rw [textOf_labelled]
    exact plain_append label text hl ht
  rw [row_plain console hc choice _ (fun h => absurd h hn) hplain, textOf_labelled]

theorem lines_labelled (hc : console.KeepsText) (choice : ColorChoice) (style : Style)
    (label text rest : String) (hl : '\n' ∉ label.toList) (ht : '\n' ∉ text.toList) :
    lines (console.print (.ofChoice choice) (labelled style label text) ++ rest) =
      console.row (.ofChoice choice) (labelled style label text) :: lines rest := by
  apply lines_print console hc
  rw [textOf_labelled, String.toList_append, List.mem_append, not_or]
  exact ⟨hl, ht⟩

theorem keepsWords_of_keepsText (hc : console.KeepsText) : console.KeepsWords := by
  intro choice word hword
  have hs : ∀ span ∈ bare word, span.style? = none := by simp [bare]
  have hplain : Plain (Span.textOf (bare word)) := by
    rw [textOf_bare]
    exact plain_of_visible word hword
  rw [hc.unchanged choice (bare word) (fun _ => hs) hplain, textOf_bare]

end Console

section
variable (console : Console) (hc : console.KeepsText) (choice : ColorChoice)
include hc

theorem lines_explanation (c : Commands) (rest : String) (hdir : '\n' ∉ c.dir.render.toList)
    (hps : '\n' ∉ c.powershell.render.toList) (hdesc : '\n' ∉ c.description.toList) :
    lines (explanation console (.ofChoice choice) c ++ rest) =
      console.row (.ofChoice choice) (labelled .bold "Command (cmd.exe):    " c.dir.render) ::
      console.row (.ofChoice choice)
        (labelled .bold "Command (PowerShell): " c.powershell.render) ::
      console.row (.ofChoice choice) [] ::
      console.row (.ofChoice choice) (labelled .bold "Description: " c.description) ::
      lines rest := by
  rw [explanation, String.append_assoc, String.append_assoc, String.append_assoc,
    Console.lines_labelled console hc _ _ _ _ _ (by decide) hdir,
    Console.lines_labelled console hc _ _ _ _ _ (by decide) hps,
    Console.lines_print console hc _ _ _ (by decide),
    Console.lines_labelled console hc _ _ _ _ _ (by decide) hdesc]

theorem lines_announcement (shell : Shell) (line rest : String) (h : '\n' ∉ line.toList) :
    lines (announcement console (.ofChoice choice) shell line ++ rest) =
      console.row (.ofChoice choice)
        (labelled .boldGreen ("Executing (" ++ shell.name ++ "): ") line) ::
      "---" :: lines rest := by
  have hl : '\n' ∉ ("Executing (" ++ shell.name ++ "): ").toList := by
    cases shell <;> decide
  rw [announcement, String.append_assoc, Console.lines_labelled console hc _ _ _ _ _ hl h,
    Console.keepsWords_of_keepsText console hc choice "---" (by decide), lines_append _ _ (by decide)]

end

end WindowsListing
