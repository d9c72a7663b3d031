import WindowsListing.Request

/-!
# Switches

A switch is one thing an option turns on. Short options name it by a letter,
long options by a word. A switch only ever turns something on: none takes
back what another has set, except that the last choice of color stands.
-/

set_option autoImplicit false

namespace WindowsListing

inductive Switch where
  | long
  | all
  | almostAll
  | humanReadable
  | onePerLine
  | recursive
  | directory
  | classify
  | showSize
  | sortByTime
  | sortBySize
  | reverse
  | unsorted
  | color (choice : ColorChoice)
  | explain
  | teach
  | native
  | rosetta
  | tree
  | help
  | version
  | powershell
  | cmd
  | verbose
  deriving DecidableEq

def Switch.ofLetter? : Char → Option Switch
  | 'l' => some .long
  | 'a' => some .all
  | 'A' => some .almostAll
  | 'h' => some .humanReadable
  | '1' => some .onePerLine
  | 'R' => some .recursive
  | 'd' => some .directory
  | 'F' => some .classify
  | 's' => some .showSize
  | 't' => some .sortByTime
  | 'S' => some .sortBySize
  | 'r' => some .reverse
  | 'U' => some .unsorted
  | '?' => some .help
  | _ => none

def Switch.ofName? : String → Option Switch
  | "all" => some .all
  | "almost-all" => some .almostAll
  | "human-readable" => some .humanReadable
  | "recursive" => some .recursive
  | "directory" => some .directory
  | "classify" => some .classify
  | "reverse" => some .reverse
  | "explain" => some .explain
  | "teach" => some .teach
  | "native" => some .native
  | "powershell" => some .powershell
  | "ps" => some .powershell
  | "cmd" => some .cmd
  | "help" => some .help
  | "version" => some .version
  | "rosetta" => some .rosetta
  | "cheatsheet" => some .rosetta
  | "tree" => some .tree
  | "verbose" => some .verbose
  | _ => none

def ColorChoice.ofValue? : String → Option ColorChoice
  | "auto" => some .auto
  | "tty" => some .auto
  | "if-tty" => some .auto
  | "always" => some .always
  | "yes" => some .always
  | "force" => some .always
  | "never" => some .never
  | "no" => some .never
  | "none" => some .never
  | _ => none

/-- Order by time wins over order by size, whichever is asked for first. -/
def SortKey.orSize : SortKey → SortKey
  | .time => .time
  | _ => .size

def Flags.turnOn (f : Flags) : Switch → Flags
  | .long => { f with long := true }
  | .all => { f with all := true }
  | .almostAll => { f with almostAll := true }
  | .humanReadable => { f with humanReadable := true }
  | .onePerLine => { f with onePerLine := true }
  | .recursive => { f with recursive := true }
  | .directory => { f with directory := true }
  | .classify => { f with classify := true }
  | .showSize => { f with showSize := true }
  | .sortByTime => { f with sortBy := .time }
  | .sortBySize => { f with sortBy := f.sortBy.orSize }
  | .reverse => { f with reverse := true }
  | .unsorted => { f with unsorted := true }
  | .color choice => { f with color := choice }
  | _ => f

def Request.turnOn (r : Request) : Switch → Request
  | .explain => { r with explain := true }
  | .teach => { r with teach := true }
  | .native => { r with native := true }
  | .rosetta => { r with rosetta := true }
  | .tree => { r with tree := true }
  | .help => { r with help := true }
  | .version => { r with version := true }
  | .powershell => { r with powershell := true }
  | .cmd => { r with cmd := true }
  | .verbose => { r with verbose := true }
  | s => { r with flags := r.flags.turnOn s }

def Request.turnOnAll (r : Request) (ss : List Switch) : Request := ss.foldl Request.turnOn r

theorem turnOnAll_append (r : Request) (ss ts : List Switch) :
    r.turnOnAll (ss ++ ts) = (r.turnOnAll ss).turnOnAll ts := by
  simp [Request.turnOnAll]

theorem turnOn_paths (r : Request) (s : Switch) : (r.turnOn s).paths = r.paths := by
  cases s <;> rfl

end WindowsListing
