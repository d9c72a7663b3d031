/-!
# The log

A record is written when its level reaches the threshold in force. Records
come in the order in which they were sent.
-/

set_option autoImplicit false

namespace WindowsListing

inductive Level where
  | debug
  | info
  | warning
  | error
  | critical
  deriving DecidableEq

def Level.rank : Level → Nat
  | .debug => 10
  | .info => 20
  | .warning => 30
  | .error => 40
  | .critical => 50

def Level.name : Level → String
  | .debug => "DEBUG"
  | .info => "INFO"
  | .warning => "WARNING"
  | .error => "ERROR"
  | .critical => "CRITICAL"

inductive Sender where
  | reader
  | session
  | dispatcher
  | launcher
  deriving DecidableEq

def Sender.name : Sender → String
  | .reader => "ls_wrapper.args"
  | .session => "ls_wrapper.cli"
  | .dispatcher => "ls_wrapper.usecases"
  | .launcher => "ls_wrapper.adapters.process_runner"

structure Record where
  sender : Sender
  level : Level
  message : String
  deriving DecidableEq

def Record.line (r : Record) : String :=
  r.sender.name ++ " - " ++ r.level.name ++ " - " ++ r.message ++ "\n"

inductive Verbosity where
  | quiet
  | verbose
  deriving DecidableEq

def Verbosity.threshold : Verbosity → Nat
  | .quiet => 30
  | .verbose => 10

def Verbosity.passes (v : Verbosity) (r : Record) : Bool := v.threshold ≤ r.level.rank

theorem verbose_passes (r : Record) : Verbosity.verbose.passes r = true := by
  obtain ⟨s, l, m⟩ := r
  cases l <;> rfl

theorem quiet_passes (r : Record) :
    Verbosity.quiet.passes r = true ↔ r.level ≠ .debug ∧ r.level ≠ .info := by
  obtain ⟨s, l, m⟩ := r
  cases l <;> simp [Verbosity.passes, Verbosity.threshold, Level.rank]

end WindowsListing
