import WindowsListing.Launch
import WindowsListing.Proofs.Dispatch
import WindowsListing.Session

/-!
# Calls of one session

Of all that a call does only the verbosity of the log outlives it, and the
next call sees it while its own command line is read, not later. So every
call of a session reports what it would report on its own, but for the
records of the reader. They depend on the last earlier call that could be
read, and on no other.
-/

set_option autoImplicit false

namespace WindowsListing

variable (console : Console)

def Call.verbosity? (call : Call) : Option Verbosity :=
  match parseAs call.program call.argv with
  | .ok r => some (if r.verbose then .verbose else .quiet)
  | .error _ => none

/-- What calls leave behind: the verbosity of the last one that could be read. -/
def leftBy (before : Verbosity) (calls : List Call) : Verbosity :=
  (calls.filterMap Call.verbosity?).getLast?.getD before

/-- The report of a call that is the only one of its process, which starts quiet. -/
def Call.alone (call : Call) : Report := call.run console .quiet

def Call.aliasRecord? (call : Call) : Option Record :=
  match call.program with
  | some name => (Alias.ofProgram? name).map fun a =>
    ⟨.reader, .debug,
      "Alias " ++ Text.quoted name ++ " implies flags " ++ " ".intercalate a.options⟩
  | none => none

def Call.requestRecord? (call : Call) : Option Record :=
  match parseAs call.program call.argv with
  | .ok r => some ⟨.reader, .debug, "Parsed invocation: " ++ r.transcript⟩
  | .error _ => none

/-- What the reader writes to the log: nothing in a quiet session, else the
alias, if there is one, and the request, if the call can be read. -/
def Call.readerLog (call : Call) : Verbosity → List Record
  | .quiet => []
  | .verbose => call.aliasRecord?.toList ++ call.requestRecord?.toList

/-- How the report of a call relates to the session before it. -/
structure Isolated (before : Verbosity) (call : Call) (report : Report) : Prop where
  threshold : report.verbosity.threshold =
    match parseAs call.program call.argv with
    | .ok r => if r.verbose then 10 else 30
    | .error _ => before.threshold
  result : report.result = (call.alone console).result
  output : report.output = (call.alone console).output
  complaint : report.complaint = (call.alone console).complaint
  calls : report.calls = (call.alone console).calls
  log : report.records = call.readerLog before ++ (call.alone console).records
  reader : (∀ command, ∀ record ∈ (call.runner command).records, record.sender ≠ .reader) →
    report.records.filter (·.sender = .reader) = call.readerLog before
  others : report.records.filter (·.sender ≠ .reader) =
    (call.alone console).records.filter (·.sender ≠ .reader)
  loud : ∀ record ∈ report.records, record.sender ≠ .reader →
    record.level = .debug ∨ record.level = .info → call.verbosity? = some .verbose

theorem readerRecords_eq (call : Call) :
    readerRecords call.program call.argv =
      call.aliasRecord?.toList ++ call.requestRecord?.toList := by
  obtain ⟨argv, program, runner⟩ := call
  unfold readerRecords Call.aliasRecord? Call.requestRecord? impliedOptions
  dsimp only
  generalize parseAs program argv = read
  cases program with
  | none => cases read <;> rfl
  | some name =>
    dsimp only [Option.bind_some]
    cases Alias.ofProgram? name with
    | none => cases read <;> rfl
    | some a => cases a <;> cases read <;> rfl

theorem readerRecord_debug (call : Call) :
    ∀ record ∈ readerRecords call.program call.argv,
      record.sender = .reader ∧ record.level = .debug := by
  intro record hr
  rw [readerRecords_eq, List.mem_append, Option.mem_toList, Option.mem_toList,
    Call.aliasRecord?, Call.requestRecord?] at hr
  rcases hr with hr | hr
  · split at hr
    · obtain ⟨a, -, rfl⟩ := Option.map_eq_some_iff.mp hr
      exact ⟨rfl, rfl⟩
    · cases hr
  · split at hr <;> cases hr
    exact ⟨rfl, rfl⟩

theorem filter_readerRecords (before : Verbosity) (call : Call) :
    (readerRecords call.program call.argv).filter before.passes = call.readerLog before := by
  cases before with
  | quiet =>
    apply List.filter_eq_nil_iff.mpr
    intro record hr
    rw [quiet_passes, (readerRecord_debug call record hr).2]
    decide
  | verbose =>
    rw [Call.readerLog, ← readerRecords_eq]
    exact List.filter_eq_self.mpr fun record _ => verbose_passes record

theorem readerLog_sender (before : Verbosity) (call : Call) :
    ∀ record ∈ call.readerLog before, record.sender = .reader := by
  intro record hr
  rw [← filter_readerRecords] at hr
  exact (readerRecord_debug call record (List.mem_filter.mp hr).1).1

theorem run_verbosity (before : Verbosity) (call : Call) :
    (call.run console before).verbosity = call.verbosity?.getD before := by
  rw [Call.run, Call.verbosity?]
  cases parseAs call.program call.argv <;> rfl

theorem run_threshold (before : Verbosity) (call : Call) :
    (call.run console before).verbosity.threshold =
      match parseAs call.program call.argv with
      | .ok r => if r.verbose then 10 else 30
      | .error _ => before.threshold := by
  rw [run_verbosity, Call.verbosity?]
  cases parseAs call.program call.argv with
  | error e => rfl
  | ok r => cases hv : r.verbose <;> simp [hv, Verbosity.threshold]

theorem run_alone (before : Verbosity) (call : Call) :
    (call.run console before).result = (call.alone console).result ∧
      (call.run console before).output = (call.alone console).output ∧
      (call.run console before).complaint = (call.alone console).complaint ∧
      (call.run console before).calls = (call.alone console).calls ∧
      (call.run console before).records =
        call.readerLog before ++ (call.alone console).records := by
  have hquiet := filter_readerRecords .quiet call
  rw [Call.alone, Call.run, Call.run, filter_readerRecords, hquiet]
  cases parseAs call.program call.argv with
  | error e => exact ⟨rfl, rfl, rfl, rfl, (List.append_nil _).symm⟩
  | ok r => exact ⟨rfl, rfl, rfl, rfl, rfl⟩

theorem alone_records (call : Call) :
    ∀ record ∈ (call.alone console).records,
      (record.sender ≠ .reader ∨ ∃ command, record ∈ (call.runner command).records) ∧
        ((record.level ≠ .debug ∧ record.level ≠ .info) ∨
          call.verbosity? = some .verbose) := by
  intro record hr
  rw [Call.alone, Call.run, filter_readerRecords] at hr
  rw [Call.verbosity?]
  cases hp : parseAs call.program call.argv with
  | error e =>
    rw [hp] at hr
    cases hr
  | ok r =>
    rw [hp] at hr
    obtain ⟨hsent, hpass⟩ := List.mem_filter.mp hr
    constructor
    · rcases List.mem_cons.mp hsent with rfl | hsent
      · exact Or.inl (Sender.noConfusion ·)
      · rcases sourced_execute console call.runner r record hsent with hs | ⟨command, -, hc⟩
        · exact Or.inl (by rw [hs]; decide)
        · exact Or.inr ⟨command, hc⟩
    · cases hv : r.verbose with
      | true => exact Or.inr (by simp [hv])
      | false =>
        rw [Request.verbosity, hv] at hpass
        exact Or.inl ((quiet_passes record).mp hpass)

theorem isolated_run (before : Verbosity) (call : Call) :
    Isolated console before call (call.run console before) := by
  obtain ⟨hresult, houtput, hcomplaint, hcalls, hlog⟩ := run_alone console before call
  have hreader := readerLog_sender before call
  refine ⟨run_threshold console before call, hresult, houtput, hcomplaint, hcalls, hlog, ?_, ?_, ?_⟩
  · intro hrunner
    have hown : (call.readerLog before).filter (·.sender = .reader) = call.readerLog before :=
      List.filter_eq_self.mpr fun record hr => by simpa using hreader record hr
    have hnone : (call.alone console).records.filter (·.sender = .reader) = [] := by
      apply List.filter_eq_nil_iff.mpr
      intro record hr
      rcases (alone_records console call record hr).1 with hs | ⟨command, hc⟩
      · simpa using hs
      · simpa using hrunner command record hc
    rw [hlog, List.filter_append, hown, hnone, List.append_nil]
  · have hnone : (call.readerLog before).filter (·.sender ≠ .reader) = [] :=
      List.filter_eq_nil_iff.mpr fun record hr => by simpa using hreader record hr
    rw [hlog, List.filter_append, hnone, List.nil_append]
  · intro record hr hsender hlevel
    rw [hlog] at hr
    rcases List.mem_append.mp hr with hr | hr
    · exact absurd (hreader record hr) hsender
    · refine (alone_records console call record hr).2.resolve_left fun hquiet => ?_
      exact hlevel.elim hquiet.1 hquiet.2

theorem leftBy_cons (before : Verbosity) (call : Call) (calls : List Call) :
    leftBy before (call :: calls) = leftBy (call.verbosity?.getD before) calls := by
  cases hv : call.verbosity? with
  | none => simp [leftBy, hv]
  | some v =>
    cases hl : (calls.filterMap Call.verbosity?).getLast? <;>
      simp [leftBy, hv, hl, List.getLast?_cons]

theorem session_append (before : Verbosity) (calls later : List Call) :
    Session.run console before (calls ++ later) =
      Session.run console before calls ++ Session.run console (leftBy before calls) later := by
  induction calls generalizing before with
  | nil => rfl
  | cons call calls ih =>
    have hstep := ih (call.run console before).verbosity
    rw [leftBy_cons, ← run_verbosity]
    exact congrArg (call.run console before :: ·) hstep

theorem session_getElem? (before : Verbosity) (earlier : List Call) (call : Call)
    (later : List Call) :
    (Session.run console before (earlier ++ call :: later))[earlier.length]? =
      some (call.run console (leftBy before earlier)) := by
  have hlen := session_run_length console before earlier
  rw [session_append, List.getElem?_append_right (Nat.le_of_eq hlen), hlen, Nat.sub_self]
  rfl

theorem session_left (before : Verbosity) (calls : List Call) :
    ((Session.run console before calls).map Report.verbosity).getLast?.getD before =
      leftBy before calls := by
  induction calls generalizing before with
  | nil => rfl
  | cons call calls ih =>
    have hstep := ih (call.run console before).verbosity
    rw [leftBy_cons, ← run_verbosity, ← hstep]
    change (((call.run console before).verbosity ::
      (Session.run console (call.run console before).verbosity calls).map
        Report.verbosity).getLast?).getD _ = _
    rw [List.getLast?_cons]
    rfl

/-- In a session of any length, every call is isolated from those before it
and after it, and the verbosity at the end is that of the last call that could
be read. -/
theorem session_isolated (before : Verbosity) :
    (∀ earlier call later, ∃ report,
      (Session.run console before (earlier ++ call :: later))[earlier.length]? = some report ∧
        Isolated console (leftBy before earlier) call report) ∧
      ∀ calls, ((Session.run console before calls).map Report.verbosity).getLast?.getD before =
        leftBy before calls :=
  ⟨fun earlier call later =>
    ⟨_, session_getElem? console before earlier call later, isolated_run console _ call⟩,
    session_left console before⟩

theorem launch_sender (host : Host) (command : ProcessCommand) :
    ∀ record ∈ (launch host command).records, record.sender = .launcher := by
  intro record hr
  rw [launch] at hr
  cases hs : host.start command <;>
    simp only [hs, List.mem_cons, List.not_mem_nil, or_false] at hr
  case rejected text => rw [hr]
  all_goals rcases hr with rfl | rfl <;> rfl

theorem launched_reader (host : Host) (before : Verbosity) (earlier later : List Call)
    (call : Call) (h : call.runner = launch host) :
    ∃ report, (Session.run console before (earlier ++ call :: later))[earlier.length]? =
        some report ∧
      report.records.filter (·.sender = .reader) = call.readerLog (leftBy before earlier) := by
  refine ⟨_, session_getElem? console before earlier call later, ?_⟩
  apply (isolated_run console _ call).reader
  intro command record hr
  rw [h] at hr
  rw [launch_sender host command record hr]
  decide

end WindowsListing
