import WindowsListing.Proofs.Commands.Standard
import WindowsListing.Proofs.Shell.Fields

/-!
# The line for PowerShell

The rendered line of `Get-ChildItem` shows all that the command says, though
paths may hold commas and bars as the line itself does. Read field by field,
a path ends the list of paths where its field has no comma of the list behind
it. What follows then is a bar and the name of a command, and no list of paths
goes on with two such fields.
-/

set_option autoImplicit false

namespace WindowsListing
open WindowsListing.Shell

def Flags.stages (f : Flags) : List String :=
  (f.order?.map sortText).toList ++ f.layout?.toList.map Layout.text

/-- Stages begin with a bar, and what is behind the first bar is none. -/
def Piped (ts : List (List Char)) : Prop :=
  ts = [] ∨ ∃ t rest, ts = ['|'] :: t :: rest ∧ t ≠ ['|']

theorem exists_mem_commaSeparated (has : String → Prop) (ps : List String)
    (hcomma : ∀ p, has (p ++ ",") ↔ has p) :
    (∃ w ∈ commaSeparated ps, has w) ↔ ∃ p ∈ ps, has p := by
  induction ps with
  | nil => simp [commaSeparated]
  | cons p ps ih =>
    cases ps with
    | nil => simp [commaSeparated]
    | cons q qs =>
      rw [commaSeparated, List.exists_mem_cons_iff, List.exists_mem_cons_iff, hcomma p, ih]
      simp

/-- What a command of PowerShell is made of, up to its stages. -/
def psWords (f : Flags) (paths : List String) : List String :=
  "Get-ChildItem" :: (f.parameters.map Parameter.text ++ Fragments.standard.pathArguments paths)

def stageWords (stages : List String) : List String := stages.flatMap fun s => ["|", s]

theorem joined_stages (w : String) (ws stages : List String) :
    joined (w :: ws) ++ stages.flatMap (fun s => ' ' :: '|' :: ' ' :: s.toList) =
      joined (w :: ws ++ stageWords stages) := by
  induction stages generalizing ws with
  | nil => simp [stageWords]
  | cons s ss ih =>
    have hs : joined (w :: (ws ++ ["|", s])) =
        joined (w :: ws) ++ ' ' :: '|' :: ' ' :: s.toList := by
      have ha := joined_append w "|" ws [s]
      simpa [joined, List.intercalate_cons_cons] using ha
    have ht := ih (ws ++ ["|", s])
    rw [hs] at ht
    simpa [stageWords] using ht

theorem psListing_render (f : Flags) (paths : List String) :
    (psListing f paths).render.toList = joined (psWords f paths ++ stageWords f.stages) := by
  rw [render_toList]
  exact joined_stages _ _ f.stages

end WindowsListing
