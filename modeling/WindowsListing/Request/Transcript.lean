import WindowsListing.Request
import WindowsListing.Text.Quoted

/-!
# Transcripts of requests

The form in which the log shows a request: every field by name, in a fixed
order, on one line.
-/

set_option autoImplicit false

namespace WindowsListing
open WindowsListing.Text

def SortKey.transcript : SortKey → String
  | .name => "<SortKey.NONE: 'none'>"
  | .time => "<SortKey.TIME: 'time'>"
  | .size => "<SortKey.SIZE: 'size'>"

def ColorChoice.transcript : ColorChoice → String
  | .auto => "<ColorOption.AUTO: 'auto'>"
  | .always => "<ColorOption.ALWAYS: 'always'>"
  | .never => "<ColorOption.NEVER: 'never'>"

def switchTranscript (on : Bool) : String := if on then "True" else "False"

def recordTranscript (name : String) (fields : List (String × String)) : String :=
  name ++ "(" ++ ", ".intercalate (fields.map fun f => f.1 ++ "=" ++ f.2) ++ ")"

def Flags.transcript (f : Flags) : String :=
  recordTranscript "FlagSet"
    [("long", switchTranscript f.long),
     ("all", switchTranscript f.all),
     ("almost_all", switchTranscript f.almostAll),
     ("human_readable", switchTranscript f.humanReadable),
     ("one_per_line", switchTranscript f.onePerLine),
     ("recursive", switchTranscript f.recursive),
     ("directory", switchTranscript f.directory),
     ("classify", switchTranscript f.classify),
     ("show_size", switchTranscript f.showSize),
     ("sort_by", f.sortBy.transcript),
     ("reverse", switchTranscript f.reverse),
     ("unsorted", switchTranscript f.unsorted),
     ("color", f.color.transcript)]

def Request.transcript (r : Request) : String :=
  recordTranscript "Invocation"
    [("flags", r.flags.transcript),
     ("paths", quotedTuple r.paths),
     ("explain", switchTranscript r.explain),
     ("teach", switchTranscript r.teach),
     ("native", switchTranscript r.native),
     ("rosetta", switchTranscript r.rosetta),
     ("tree", switchTranscript r.tree),
     ("help", switchTranscript r.help),
     ("version", switchTranscript r.version),
     ("powershell", switchTranscript r.powershell),
     ("cmd", switchTranscript r.cmd),
     ("verbose", switchTranscript r.verbose)]

end WindowsListing
