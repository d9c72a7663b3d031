import WindowsListing.Flags
import WindowsListing.Text.Columns

/-!
# The console

Explanations are printed on a console. The program says how it is set up, and
which part of a line is a label in which style. How lines are laid out and
labels styled is up to the console. It is known by what it prints, and three
laws say what is relied on: about words, about texts where the output is no
terminal, and about labels.
-/

set_option autoImplicit false

namespace WindowsListing

inductive Style where
  | bold
  | boldGreen
  deriving DecidableEq

def Style.wrap : Style → String → String
  | .bold, text => "\x1b[1m" ++ text ++ "\x1b[0m"
  | .boldGreen, text => "\x1b[1;32m" ++ text ++ "\x1b[0m"

structure Span where
  style? : Option Style := none
  text : String
  deriving DecidableEq

def Span.written (styled : Bool) (span : Span) : String :=
  match span.style? with
  | some style => if styled then style.wrap span.text else span.text
  | none => span.text

/-- What a console is told. Without a word about terminals and colors it looks
for itself. -/
structure ConsoleSettings where
  softWrap : Bool := true
  highlight : Bool := false
  forceTerminal : Bool := false
  colors : Bool := true
  deriving DecidableEq

def ConsoleSettings.ofChoice : ColorChoice → ConsoleSettings
  | .auto => {}
  | .always => { forceTerminal := true }
  | .never => { colors := false }

structure Console where
  print : ConsoleSettings → List Span → String

def labelled (style : Style) (label text : String) : List Span :=
  [{ style? := some style, text := label }, { text }]

def bare (text : String) : List Span := [{ text }]

def Span.textOf (spans : List Span) : String := String.join (spans.map Span.text)

def Plain (text : String) : Prop :=
  ∀ c ∈ text.toList, c ≠ '\n' ∧ c ≠ '\t' ∧ Text.isDropped c = false

instance (text : String) : Decidable (Plain text) :=
  List.decidableBAll (fun c => c ≠ '\n' ∧ c ≠ '\t' ∧ Text.isDropped c = false) text.toList

def Visible (word : String) : Prop := ∀ c ∈ word.toList, 33 ≤ c.toNat ∧ c.toNat ≤ 126

instance (word : String) : Decidable (Visible word) :=
  List.decidableBAll (fun c : Char => 33 ≤ c.toNat ∧ c.toNat ≤ 126) word.toList

/-- A word of visible ASCII characters is printed as it is. -/
def Console.KeepsWords (console : Console) : Prop :=
  ∀ choice word, Visible word → console.print (.ofChoice choice) (bare word) = word ++ "\n"

/-- Lines are not wrapped, and a plain text is printed as it is, unless there
are styles in it and they are asked for. -/
structure Console.KeepsText (console : Console) : Prop where
  unbroken : ∀ choice spans, '\n' ∉ (Span.textOf spans).toList →
    ∃ row, '\n' ∉ row.toList ∧ console.print (.ofChoice choice) spans = row ++ "\n"
  unchanged : ∀ choice spans, (choice = .always → ∀ span ∈ spans, span.style? = none) →
    Plain (Span.textOf spans) → console.print (.ofChoice choice) spans = Span.textOf spans ++ "\n"

/-- A style puts its codes around a plain label and touches nothing else. They
are put there on demand only. -/
structure Console.WrapsLabels (console : Console) : Prop where
  label : ∀ style label text, label ≠ "" → Plain label → ∃ rest, ∀ choice,
    console.print (.ofChoice choice) (labelled style label text) =
      (if choice = .always then style.wrap label else label) ++ rest
  unlabelled : ∀ spans, (∀ span ∈ spans, span.style? = none) → ∀ choice other,
    console.print (.ofChoice choice) spans = console.print (.ofChoice other) spans

end WindowsListing
