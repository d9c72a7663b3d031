import WindowsListing.Console.Piped
import WindowsListing.Session
import WindowsListing.Unix.Plain

/-!
# The command line

One call with the arguments of the process. Programs are started on a host
without the shells of Windows, so the modes that only print are the useful ones.
-/

set_option autoImplicit false

open WindowsListing

def main (argv : List String) : IO UInt32 := do
  let report := Call.run .piped .quiet { argv, runner := launch Unix.plainHost }
  (← IO.getStdout).putStr report.output
  let stderr ← IO.getStderr
  for record in report.records do
    stderr.putStr record.line
  stderr.putStr report.complaint
  match report.result with
  | .ok code => return UInt32.ofNat (code % 256).toNat
  | .error _ => return 1
