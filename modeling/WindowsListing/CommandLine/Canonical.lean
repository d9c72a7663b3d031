import WindowsListing.CommandLine

/-!
# Canonical command lines

A request written out as a command line: one option for every field that is
on, `--`, and the paths. Reading the switches back restores the fields.
-/

set_option autoImplicit false

namespace WindowsListing

def Switch.option : Switch → String
  | .long => "-l"
  | .all => "-a"
  | .almostAll => "-A"
  | .humanReadable => "-h"
  | .onePerLine => "-1"
  | .recursive => "-R"
  | .directory => "-d"
  | .classify => "-F"
  | .showSize => "-s"
  | .sortByTime => "-t"
  | .sortBySize => "-S"
  | .reverse => "-r"
  | .unsorted => "-U"
  | .color choice => "--color=" ++ choice.word
  | .explain => "--explain"
  | .teach => "--teach"
  | .native => "--native"
  | .rosetta => "--rosetta"
  | .tree => "--tree"
  | .help => "--help"
  | .version => "--version"
  | .powershell => "--powershell"
  | .cmd => "--cmd"
  | .verbose => "--verbose"

def SortKey.switches : SortKey → List Switch
  | .name => []
  | .time => [.sortByTime]
  | .size => [.sortBySize]

def when (on : Bool) (s : Switch) : List Switch := if on then [s] else []

def Flags.switches (f : Flags) : List Switch :=
  when f.long .long ++ when f.all .all ++ when f.almostAll .almostAll ++
  when f.humanReadable .humanReadable ++ when f.onePerLine .onePerLine ++
  when f.recursive .recursive ++ when f.directory .directory ++
  when f.classify .classify ++ when f.showSize .showSize ++ f.sortBy.switches ++
  when f.reverse .reverse ++ when f.unsorted .unsorted ++ [.color f.color]

def Request.switches (r : Request) : List Switch :=
  r.flags.switches ++
  when r.explain .explain ++ when r.teach .teach ++ when r.native .native ++
  when r.rosetta .rosetta ++ when r.tree .tree ++ when r.help .help ++
  when r.version .version ++ when r.powershell .powershell ++ when r.cmd .cmd ++
  when r.verbose .verbose

def Request.canonical (r : Request) : List String :=
  r.switches.map Switch.option ++ "--" :: r.paths

theorem ofToken_option (s : Switch) : Word.ofToken s.option = .ok (.options [s]) := by
  cases s with
  | color choice => cases choice <;> rfl
  | _ => rfl

theorem option_ne_dashes (s : Switch) : s.option ≠ "--" := by
  cases s with
  | color choice => cases choice <;> decide
  | _ => decide

theorem ofTokens_options (ss : List Switch) :
    Word.ofTokens (ss.map Switch.option) = .ok (ss.map fun s => .options [s]) := by
  induction ss with
  | nil => rfl
  | cons s ss ih => simp [Word.ofTokens, ofToken_option, ih, Except.map]

end WindowsListing
