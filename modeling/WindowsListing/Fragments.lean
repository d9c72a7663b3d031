import WindowsListing.Flags

/-!
# Command fragments

The table of words from which native commands are put together. An entry may
be absent; an order that is present and empty counts as absent.
-/

set_option autoImplicit false

namespace WindowsListing

inductive DirSwitch where
  | hidden
  | recursive
  | directory
  | bare
  deriving DecidableEq

inductive Parameter where
  | hidden
  | recursive
  | directory
  deriving DecidableEq

inductive Layout where
  | long
  | humanReadable
  | onePerLine
  | classify
  deriving DecidableEq

inductive Entry where
  | dirSwitch (s : DirSwitch)
  | parameter (p : Parameter)
  | layout (l : Layout)
  deriving DecidableEq

def DirSwitch.key : DirSwitch → String
  | .hidden => "hidden"
  | .recursive => "recursive"
  | .directory => "directory"
  | .bare => "bare"

def Parameter.key : Parameter → String
  | .hidden => "hidden"
  | .recursive => "recursive"
  | .directory => "directory"

def Layout.key : Layout → String
  | .long => "long"
  | .humanReadable => "human_readable"
  | .onePerLine => "one_per_line"
  | .classify => "classify"

def Entry.key : Entry → String
  | .dirSwitch s => s.key
  | .parameter p => p.key
  | .layout l => l.key

structure Fragments where
  dirProgram : String
  dirSwitch : DirSwitch → Option String
  dirOrder : SortKey → Bool → Option String
  psProgram : String
  psParameter : Parameter → Option String
  psPathParameter : String
  psProperty : SortKey → Option String
  psNameReversed : String
  psLayout : Layout → Option String

/-- A listing has the newest and the largest entries first, `dir` has them
last, so the plain orders are descending ones. -/
def Fragments.standard : Fragments where
  dirProgram := "dir"
  dirSwitch
    | .hidden => some "/A"
    | .recursive => some "/S"
    | .directory => some "/AD"
    | .bare => some "/B"
  dirOrder
    | .time, false => some "/O-D"
    | .time, true => some "/OD"
    | .size, false => some "/O-S"
    | .size, true => some "/OS"
    | .name, true => some "/O-N"
    | .name, false => none
  psProgram := "Get-ChildItem"
  psParameter
    | .hidden => some "-Force"
    | .recursive => some "-Recurse"
    | .directory => some "-Directory"
  psPathParameter := "-Path"
  psProperty
    | .time => some "LastWriteTime"
    | .size => some "Length"
    | .name => none
  psNameReversed := "Sort-Object Name -Descending"
  psLayout
    | .long => some "Format-Table Mode, LastWriteTime, Length, Name -AutoSize"
    | .humanReadable => some ("Select-Object Mode, LastWriteTime, "
        ++ "@\x7bName=\"Size\";Expression=\x7bif($_.PSIsContainer)\x7b\"<DIR>\"\x7d"
        ++ "else\x7b\"\x7b0:N2\x7d KB\" -f ($_.Length/1KB)\x7d\x7d\x7d, Name "
        ++ "| Format-Table -AutoSize")
    | .onePerLine => some "Select-Object -ExpandProperty Name"
    | .classify => some ("ForEach-Object \x7b if($_.PSIsContainer) \x7b$_.Name + \"/\"\x7d "
        ++ "else \x7b$_.Name\x7d \x7d")

end WindowsListing
