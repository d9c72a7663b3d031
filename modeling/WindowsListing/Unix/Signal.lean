import WindowsListing.Unix.Number

/-!
# Signals

The names of signals, and what is said of the processes that they end.
-/

set_option autoImplicit false

namespace WindowsListing.Unix.Signal

def names : List String :=
  ["HUP", "INT", "QUIT", "ILL", "TRAP", "ABRT", "BUS", "FPE", "KILL", "USR1", "SEGV", "USR2",
   "PIPE", "ALRM", "TERM", "STKFLT", "CHLD", "CONT", "STOP", "TSTP", "TTIN", "TTOU", "URG",
   "XCPU", "XFSZ", "VTALRM", "PROF", "WINCH", "IO", "PWR", "SYS", "32", "33", "RTMIN",
   "RTMIN+1", "RTMIN+2", "RTMIN+3", "RTMIN+4", "RTMIN+5", "RTMIN+6", "RTMIN+7", "RTMIN+8",
   "RTMIN+9", "RTMIN+10", "RTMIN+11", "RTMIN+12", "RTMIN+13", "RTMIN+14", "RTMIN+15",
   "RTMAX-14", "RTMAX-13", "RTMAX-12", "RTMAX-11", "RTMAX-10", "RTMAX-9", "RTMAX-8", "RTMAX-7",
   "RTMAX-6", "RTMAX-5", "RTMAX-4", "RTMAX-3", "RTMAX-2", "RTMAX-1", "RTMAX"]

def name? (signal : Nat) : Option String :=
  if signal = 0 then some "EXIT" else names[signal - 1]?

/-- A signal by its number or its name. No signal at all has a number and a name, too. -/
def ofText? (text : String) : Option Nat :=
  match Number.natural? text with
  | some n => if n ≤ 64 then some n else none
  | none =>
    let upper := text.map Char.toUpper
    if upper = "EXIT" then some 0 else (names.idxOf? upper).map (· + 1)

def texts : List String :=
  ["Hangup", "Interrupt", "Quit", "Illegal instruction", "Trace/breakpoint trap", "Aborted",
   "Bus error", "Floating point exception", "Killed", "User defined signal 1",
   "Segmentation fault", "User defined signal 2", "Broken pipe", "Alarm clock", "Terminated",
   "Stack fault", "Child exited", "Continued", "Stopped (signal)", "Stopped",
   "Stopped (tty input)", "Stopped (tty output)", "Urgent I/O condition",
   "CPU time limit exceeded", "File size limit exceeded", "Virtual timer expired",
   "Profiling timer expired", "Window changed", "I/O possible", "Power failure",
   "Bad system call"]

def text (signal : Nat) : String :=
  (texts[signal - 1]?).getD
    (if signal < 34 then "Unknown signal " ++ toString signal
    else "Real-time signal " ++ toString (signal - 34))

end WindowsListing.Unix.Signal
