/-!
# The cheatsheet

Unix commands beside what the two shells of Windows call them, as a table
whose columns are as wide as their widest cell.
-/

set_option autoImplicit false

namespace WindowsListing.Cheatsheet

structure Row where
  unix : String
  cmd : String
  powershell : String

def heading : Row := ⟨"Unix", "cmd.exe", "PowerShell"⟩

def sections : List (List Row) :=
  [[⟨"ls", "dir /B", "Get-ChildItem"⟩,
    ⟨"ls -l", "dir", "Get-ChildItem | Format-Table"⟩,
    ⟨"ls -la", "dir /A", "Get-ChildItem -Force"⟩,
    ⟨"ls -lt", "dir /O-D", "gci | Sort LastWriteTime -Desc"⟩,
    ⟨"ls -lS", "dir /O-S", "gci | Sort Length -Desc"⟩,
    ⟨"ls -R", "dir /S", "Get-ChildItem -Recurse"⟩,
    ⟨"ls -1", "dir /B", "(gci).Name"⟩],
   [⟨"cat file", "type file", "Get-Content file"⟩,
    ⟨"head -n 10 file", "(no equivalent)", "Get-Content file -First 10"⟩,
    ⟨"tail -n 10 file", "(no equivalent)", "Get-Content file -Last 10"⟩,
    ⟨"grep pattern file", "findstr pattern file", "Select-String pattern file"⟩,
    ⟨"grep -r pattern .", "findstr /S pattern *", "gci -Recurse | sls pattern"⟩],
   [⟨"pwd", "cd", "Get-Location  (or pwd)"⟩,
    ⟨"cd dir", "cd dir", "Set-Location dir  (or cd)"⟩,
    ⟨"cd ~", "cd %USERPROFILE%", "cd ~"⟩,
    ⟨"mkdir dir", "mkdir dir", "New-Item -Type Directory dir"⟩,
    ⟨"rm file", "del file", "Remove-Item file"⟩,
    ⟨"rm -rf dir", "rmdir /S /Q dir", "Remove-Item dir -Recurse -Force"⟩,
    ⟨"cp src dst", "copy src dst", "Copy-Item src dst"⟩,
    ⟨"mv src dst", "move src dst", "Move-Item src dst"⟩],
   [⟨"touch file", "type nul > file", "New-Item file"⟩,
    ⟨"chmod +x file", "(no equivalent)", "(no equivalent)"⟩,
    ⟨"which cmd", "where cmd", "Get-Command cmd"⟩,
    ⟨"whoami", "whoami", "whoami  (or $env:USERNAME)"⟩,
    ⟨"clear", "cls", "Clear-Host  (or cls)"⟩,
    ⟨"history", "doskey /history", "Get-History"⟩],
   [⟨"tree", "tree", "tree"⟩,
    ⟨"find . -name \"*.py\"", "dir /S /B *.py", "gci -Recurse -Filter *.py"⟩,
    ⟨"wc -l file", "find /c /v \"\" file", "(Get-Content file).Count"⟩,
    ⟨"diff file1 file2", "fc file1 file2", "Compare-Object (gc f1) (gc f2)"⟩,
    ⟨"echo $VAR", "echo %VAR%", "echo $env:VAR"⟩,
    ⟨"export VAR=val", "set VAR=val", "$env:VAR = \"val\""⟩]]

def title : String := "UNIX → WINDOWS CHEAT SHEET"

def footer : List String :=
  ["Aliases:  ll = ls -l  │  la = ls -la  │  l = ls -F",
   "",
   "Tip: Use --explain with any ls command to see its Windows translation!",
   "     Example: ls --explain -laR"]

def repeated (n : Nat) (c : Char) : String := String.ofList (List.replicate n c)

def Row.cells (row : Row) : List String := [row.unix, row.cmd, row.powershell]

def width (column : Row → String) : Nat :=
  (heading :: sections.flatten).foldl (fun w row => max w (column row).length) 0

def widths : List Nat := [width Row.unix, width Row.cmd, width Row.powershell]

def padded (w : Nat) (cell : String) : String := cell ++ repeated (w - cell.length) ' '

def rowLine (row : Row) : String :=
  "│ " ++ " │ ".intercalate (List.zipWith padded widths row.cells) ++ " │"

/-- A rule from its left end, its crossings and its right end. -/
def rule (left crossing right : String) : String :=
  left ++ crossing.intercalate (widths.map fun w => repeated (w + 2) '─') ++ right

/-- Each cell has a blank on both sides, and a border follows all but counts before the first. -/
def totalWidth : Nat := (widths.map (· + 3)).foldl (· + ·) 1

def titleLine : String :=
  let free := totalWidth - title.length
  repeated (free / 2) ' ' ++ title ++ repeated (free - free / 2) ' '

def lines : List String :=
  [titleLine, rule "┌" "┬" "┐"] ++
  [rule "├" "┼" "┤"].intercalate ([rowLine heading] :: sections.map (·.map rowLine)) ++
  [rule "└" "┴" "┘"] ++
  footer

def text : String := String.join (lines.map (· ++ "\n"))

end WindowsListing.Cheatsheet
