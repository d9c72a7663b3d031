/-!
# Refusals

The reasons for which a system does not do what it is asked.
-/

set_option autoImplicit false

namespace WindowsListing.Unix

inductive Refusal where
  | notPermitted
  | missing
  | noProcess
  | interrupted
  | noDevice
  | notProgram
  | badDescriptor
  | noChild
  | denied
  | present
  | notDirectory
  | isDirectory
  | invalid
  | noTerminal
  | full
  | notSeekable
  | brokenPipe
  | nameTooLong
  | notEmpty
  | tooManyLinks
  deriving DecidableEq

def Refusal.number : Refusal → Int
  | .notPermitted => 1
  | .missing => 2
  | .noProcess => 3
  | .interrupted => 4
  | .noDevice => 6
  | .notProgram => 8
  | .badDescriptor => 9
  | .noChild => 10
  | .denied => 13
  | .present => 17
  | .notDirectory => 20
  | .isDirectory => 21
  | .invalid => 22
  | .noTerminal => 25
  | .full => 28
  | .notSeekable => 29
  | .brokenPipe => 32
  | .nameTooLong => 36
  | .notEmpty => 39
  | .tooManyLinks => 40

def Refusal.text : Refusal → String
  | .notPermitted => "Operation not permitted"
  | .missing => "No such file or directory"
  | .noProcess => "No such process"
  | .interrupted => "Interrupted system call"
  | .noDevice => "No such device or address"
  | .notProgram => "Exec format error"
  | .badDescriptor => "Bad file descriptor"
  | .noChild => "No child processes"
  | .denied => "Permission denied"
  | .present => "File exists"
  | .notDirectory => "Not a directory"
  | .isDirectory => "Is a directory"
  | .invalid => "Invalid argument"
  | .noTerminal => "Inappropriate ioctl for device"
  | .full => "No space left on device"
  | .notSeekable => "Illegal seek"
  | .brokenPipe => "Broken pipe"
  | .nameTooLong => "File name too long"
  | .notEmpty => "Directory not empty"
  | .tooManyLinks => "Too many levels of symbolic links"

end WindowsListing.Unix
