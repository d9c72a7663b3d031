/-!
# The manual

What `--help` and `--version` print.
-/

set_option autoImplicit false

namespace WindowsListing.Manual

def programName : String := "ls-wrapper"

def version : String := "0.1.0"

def versionLine : String := programName ++ " " ++ version ++ "\n"

def lines : List String :=
  ["ls-wrapper - A lightweight ls transpiler for Windows",
   "",
   "USAGE:",
   "    ls [OPTIONS] [PATH]...",
   "",
   "OPTIONS:",
   "    -l              Long listing format",
   "    -a, --all       Show hidden files (including . and ..)",
   "    -A, --almost-all  Show hidden files (excluding . and ..)",
   "    -h, --human-readable  Human-readable file sizes",
   "    -1              One entry per line",
   "    -R, --recursive  List subdirectories recursively",
   "    -d, --directory  List directories themselves, not contents",
   "    -F, --classify  Append indicator (/ for directories)",
   "    -s              Show file size (compatibility flag)",
   "",
   "    -t              Sort by modification time",
   "    -S              Sort by file size",
   "    -r, --reverse   Reverse sort order",
   "    -U              Do not sort",
   "",
   "    --color[=WHEN]  Colorize output (always, never, auto)",
   "    --verbose       Log what the wrapper is doing to stderr",
   "",
   "EDUCATIONAL FLAGS:",
   "    --explain       Show Windows translation without executing",
   "    --teach         Execute AND show what command was run",
   "    --native        Output only the Windows command (for scripting)",
   "    --rosetta       Show Unix -> Windows command cheatsheet",
   "    --tree          Tree view of directory structure",
   "    --powershell    Force PowerShell backend",
   "    --cmd           Force cmd.exe backend",
   "",
   "ALIASES:",
   "    ll              Same as ls -l  (install or rename the binary as ll)",
   "    la              Same as ls -la (install or rename the binary as la)",
   "    l               Same as ls -F  (install or rename the binary as l)",
   "",
   "EXAMPLES:",
   "    ls              List current directory",
   "    ls -la          Long format, show hidden",
   "    ls -lR ./src    Recursive, long format",
   "    ls --explain -la  See how -la translates to Windows",
   "    ls --native -la   Output: Get-ChildItem -Force -Path . | Format-Table ..."]

def text : String := String.join (lines.map (· ++ "\n"))

end WindowsListing.Manual
