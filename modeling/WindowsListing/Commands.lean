import WindowsListing.Fragments
import WindowsListing.Path
import WindowsListing.Request
import WindowsListing.Shell

/-!
# Listing commands

The native commands that list what the flags and paths ask for, one for each
shell, and the choice between the two. They cannot be put together where the
flags demand an entry that the table of fragments lacks; the first such entry
is named.
-/

set_option autoImplicit false

namespace WindowsListing

def Flags.dirSwitches (f : Flags) : List DirSwitch :=
  (if f.hidden then [.hidden] else []) ++
  (if f.recursive then [.recursive] else []) ++
  (if f.directory then [.directory] else []) ++
  (if f.onePerLine && !f.long then [.bare] else [])

def Flags.parameters (f : Flags) : List Parameter :=
  (if f.hidden then [.hidden] else []) ++
  (if f.recursive then [.recursive] else []) ++
  (if f.directory then [.directory] else [])

/-- A long listing wins over names alone, and those over marked names. -/
def Flags.layout? (f : Flags) : Option Layout :=
  if f.long && f.humanReadable then some .humanReadable
  else if f.long then some .long
  else if f.onePerLine then some .onePerLine
  else if f.classify then some .classify
  else none

def demand {α : Type} (table : α → Option String) (entry : α → Entry) (a : α) :
    Except Entry String :=
  match table a with
  | some fragment => .ok fragment
  | none => .error (entry a)

def demandAll {α : Type} (table : α → Option String) (entry : α → Entry) :
    List α → Except Entry (List String)
  | [] => .ok []
  | a :: as =>
    match demand table entry a with
    | .error e => .error e
    | .ok fragment => (demandAll table entry as).map (fragment :: ·)

theorem demandAll_ok {α : Type} (table : α → Option String) (entry : α → Entry)
    (as : List α) (fragments : List String) :
    demandAll table entry as = .ok fragments ↔ as.map table = fragments.map some := by
  induction as generalizing fragments with
  | nil => cases fragments <;> simp [demandAll]
  | cons a as ih =>
    cases ha : table a with
    | none => cases fragments <;> simp [demandAll, demand, ha]
    | some fragment =>
      cases has : demandAll table entry as with
      | error e =>
        cases fragments with
        | nil => simp [demandAll, demand, ha, has, Except.map]
        | cons f fs =>
          have hne : as.map table ≠ fs.map some := fun h => by
            have hok := (ih fs).2 h
            simp [has] at hok
          simp [demandAll, demand, ha, has, Except.map, hne]
      | ok rest =>
        have hrest := (ih rest).1 has
        cases fragments with
        | nil => simp [demandAll, demand, ha, has, Except.map]
        | cons f fs =>
          simp [demandAll, demand, ha, has, Except.map, hrest,
            List.map_inj_right (fun _ _ h => Option.some.inj h)]

def nonempty? (fragment : Option String) : Option String := fragment.filter (· ≠ "")

def Fragments.dirOrder? (t : Fragments) (f : Flags) : Option String :=
  if f.unsorted then none else nonempty? (t.dirOrder f.sortBy f.reverse)

def dirCommand (t : Fragments) (f : Flags) (paths : List String) :
    Except Entry NativeCommand :=
  (demandAll t.dirSwitch .dirSwitch f.dirSwitches).map fun switches =>
    { program := t.dirProgram
      arguments := switches ++ (t.dirOrder? f).toList ++ paths.map Path.argument }

def commaSeparated : List String → List String
  | [] => []
  | [p] => [p]
  | p :: ps => (p ++ ",") :: commaSeparated ps

def Fragments.pathArguments (t : Fragments) (paths : List String) : List String :=
  if paths = [] then [] else t.psPathParameter :: commaSeparated (paths.map Path.argument)

def Fragments.sortStage? (t : Fragments) (f : Flags) : Option String :=
  if f.unsorted then none
  else
    match nonempty? (t.psProperty f.sortBy) with
    | some property =>
      some ("Sort-Object " ++ property ++ (if f.reverse then "" else " -Descending"))
    | none => if f.reverse then some t.psNameReversed else none

def powershellCommand (t : Fragments) (f : Flags) (paths : List String) :
    Except Entry NativeCommand :=
  match demandAll t.psParameter .parameter f.parameters,
    demandAll t.psLayout .layout f.layout?.toList with
  | .ok parameters, .ok layouts => .ok
    { program := t.psProgram
      arguments := parameters ++ t.pathArguments paths
      stages := (t.sortStage? f).toList ++ layouts }
  | .error e, _ => .error e
  | _, .error e => .error e

def Flags.labels (f : Flags) : List String :=
  ([("show hidden files", f.all),
    ("show hidden files except . and ..", f.almostAll && !f.all),
    ("long format", f.long),
    ("recursive", f.recursive),
    ("directories only", f.directory),
    ("sort by time", f.sortBy = .time),
    ("sort by size", f.sortBy = .size),
    ("unsorted", f.unsorted),
    ("reverse order", f.reverse),
    ("human-readable sizes", f.humanReadable),
    ("classify entries", f.classify)].filter (·.2)).map (·.1)

def Flags.description (f : Flags) : String :=
  "list directory contents" ++
    (if f.labels = [] then "" else " (" ++ ", ".intercalate f.labels ++ ")")

structure Commands where
  dir : NativeCommand
  powershell : NativeCommand
  description : String
  deriving DecidableEq

def Commands.command (c : Commands) : Shell → NativeCommand
  | .cmd => c.dir
  | .powershell => c.powershell

def Fragments.commands (t : Fragments) (f : Flags) (paths : List String) :
    Except Entry Commands :=
  match dirCommand t f paths, powershellCommand t f paths with
  | .ok dir, .ok powershell => .ok { dir, powershell, description := f.description }
  | .error e, _ => .error e
  | _, .error e => .error e

/-- The shell a request runs in. Where none is asked for, PowerShell serves
the layouts that `dir` does not have. -/
def Request.shell (r : Request) : Shell :=
  if r.powershell then .powershell
  else if r.cmd then .cmd
  else if r.flags.long || r.flags.humanReadable || r.flags.classify then .powershell
  else .cmd

end WindowsListing
