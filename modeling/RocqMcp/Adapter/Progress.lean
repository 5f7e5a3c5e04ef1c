import RocqMcp.Adapter.Paging

/-! The progress record of a connection: the last operation that it began, for
clients that poll while the operation runs. -/

namespace RocqMcp

inductive ProgressStatus where
  | running
  | completed
  | failed
  | cancelled
  deriving DecidableEq

def ProgressStatus.text : ProgressStatus → String
  | .running => "running"
  | .completed => "completed"
  | .failed => "failed"
  | .cancelled => "cancelled"

/-- `ProgressRecord`. Instants are counted in milliseconds. -/
structure ProgressRecord where
  operation : String
  status : ProgressStatus
  phase : String
  completed : Nat
  total : Option Nat
  target : Option Value
  logSummary : String
  started : Nat
  terminalElapsed : Option Nat

structure ProgressBook where
  generation : Nat := 0
  record : Option ProgressRecord := none

/-- `u64::MAX`. -/
def wordMax : Nat := 2 ^ 64 - 1

/-- `saturating_add(1)`. -/
def nextGeneration (generation : Nat) : Nat := min (generation + 1) wordMax

def logLimit : Nat := 4096

/-- `bounded_log`. -/
def boundedLog (text : String) : String :=
  if text.utf8ByteSize ≤ logLimit then text
  else sliceText text 0 (Adapter.floorBoundary text 0 logLimit) ++ "…"

/-- The status in which an operation ends: a result can carry an error. -/
def ProgressStatus.ofResult : Except Error Value → ProgressStatus
  | .ok value => if (value.get? "error").isSome then .failed else .completed
  | .error error => if error.kind = .requestCancelled then .cancelled else .failed

namespace ProgressRecord

def admitted (operation : String) (target : Option Value) (now : Nat) : ProgressRecord where
  operation := operation
  status := .running
  phase := "admitted"
  completed := 0
  total := none
  target := target
  logSummary := ""
  started := now
  terminalElapsed := none

def report (record : ProgressRecord) (phase : String) (completed : Nat) (total : Option Nat)
    (log : String) : ProgressRecord :=
  { record with
    phase, completed, total
    logSummary := if log = "" then record.logSummary else boundedLog log }

/-- What a result leaves in the record beside its status. -/
def close (record : ProgressRecord) : Except Error Value → ProgressRecord
  | .ok value =>
    match value.get? "error" with
    | some error =>
      match (error.get? "message").bind Value.asString with
      | some message => { record with logSummary := boundedLog message }
      | none => record
    | none =>
      { record with completed := record.total.getD record.completed }
  | .error error => { record with logSummary := boundedLog error.message }

def finish (record : ProgressRecord) (result : Except Error Value) (now : Nat) : ProgressRecord :=
  let status := ProgressStatus.ofResult result
  { record.close result with
    status
    phase := status.text
    terminalElapsed := some (now - record.started) }

end ProgressRecord

namespace ProgressBook

def begin (book : ProgressBook) (operation : String) (target : Option Value) (now : Nat) :
    ProgressBook where
  generation := nextGeneration book.generation
  record := some (.admitted operation target now)

/-- Change the record while its operation runs. -/
def onRunning (book : ProgressBook) (change : ProgressRecord → ProgressRecord) : ProgressBook :=
  { book with
    record := book.record.map fun record =>
      if record.status = .running then change record else record }

/-- `update_progress`: a late update of an earlier operation is ignored. -/
def update (book : ProgressBook) (generation : Nat) (phase : String) (completed : Nat)
    (total : Option Nat) (log : String) : ProgressBook :=
  if book.generation = generation then
    book.onRunning fun record => record.report phase completed total log
  else book

def setTarget (book : ProgressBook) (target : Value) : ProgressBook :=
  book.onRunning fun record => { record with target := some target }

def finish (book : ProgressBook) (generation : Nat) (result : Except Error Value) (now : Nat) :
    ProgressBook :=
  if book.generation = generation then
    { book with record := book.record.map fun record => record.finish result now }
  else book

/-- Whether a client that has seen the generation sees another one. -/
def changed (book : ProgressBook) (observed : Option Nat) : Bool :=
  observed ≠ some book.generation

def optionalField (field : String) : Option Value → List (String × Value)
  | some value => [(field, value)]
  | none => []

/-- `progress_json`. -/
def json (book : ProgressBook) (observed : Option Nat) (now : Nat) : Value :=
  match book.record with
  | none =>
    .object [("generation", .number book.generation), ("status", .string "idle"),
      ("changed", .bool (book.changed observed))]
  | some record =>
    .object ([("generation", .number book.generation), ("operation", .string record.operation),
      ("status", .string record.status.text), ("phase", .string record.phase),
      ("completed", .number record.completed),
      ("elapsed_ms", .number (min (record.terminalElapsed.getD (now - record.started)) wordMax)),
      ("changed", .bool (book.changed observed))] ++
      optionalField "total" (record.total.map fun total => .number total) ++
      optionalField "target" record.target ++
      optionalField "log_summary"
        (if record.logSummary = "" then none else some (.string record.logSummary)))

end ProgressBook

/-- `progress_query`. -/
def progressQuery (book : ProgressBook) (args : Value) (now : Nat) : Except Error Value := do
  match args with
  | .object _ =>
    if (args.get? "kind").bind Value.asString ≠ some "progress" then
      Adapter.invalid "progress query kind must be progress"
    else
      match Adapter.rejectUnknown args ["kind", "generation"] with
      | .error _ => Adapter.invalid "progress query has an unknown field"
      | .ok () =>
        let observed ← Adapter.optional args "generation" fun value =>
          Adapter.require "generation must be a non-negative integer" value.asNat
        return book.json observed now
  | _ => Adapter.invalid "query arguments must be an object"

/-- The log of a record is a prefix of what was reported, cut after whole
characters, at most three bytes short of the limit. -/
theorem boundedLog_spec (text : String) :
    (text.utf8ByteSize ≤ logLimit ∧ boundedLog text = text) ∨
      ∃ front back, text = front ++ back ∧ boundedLog text = front ++ "…" ∧
        front.utf8ByteSize ≤ logLimit ∧ logLimit < front.utf8ByteSize + 4 := by
  by_cases short : text.utf8ByteSize ≤ logLimit
  · exact .inl ⟨short, if_pos short⟩
  · right
    have start : isCharBoundary text 0 = true := isCharBoundary_iff.mpr ⟨"", text, by simp, rfl⟩
    obtain ⟨_, below, stopAt, greatest⟩ := Adapter.floorBoundary_spec start (Nat.zero_le logLimit)
    obtain ⟨near, nearAt, reach, close⟩ := boundary_near (Nat.le_of_not_le short)
    have reached := greatest near nearAt reach
    obtain ⟨front, back, split, position⟩ := isCharBoundary_iff.mp stopAt
    have shown : sliceText text 0 front.utf8ByteSize = front := by
      have middle := sliceText_middle "" front back
      simpa [← split] using middle
    refine ⟨front, back, split, ?_, by omega, by omega⟩
    rw [boundedLog, if_neg short, ← position, shown]

namespace ProgressBook

/-- The record is the one of an operation that still runs. -/
def Runs (book : ProgressBook) (operation : String) (generation : Nat) : Prop :=
  book.generation = generation ∧
    ∃ record, book.record = some record ∧ record.status = .running ∧ record.operation = operation

/-- The record is the one of an operation that ended with the status. -/
def Ended (book : ProgressBook) (operation : String) (generation : Nat) (status : ProgressStatus) :
    Prop :=
  book.generation = generation ∧
    ∃ record, book.record = some record ∧ record.status = status ∧ record.operation = operation

/-- The record is the one of an operation that has ended. -/
def HasEnded (book : ProgressBook) : Prop :=
  ∃ record, book.record = some record ∧ record.status ≠ .running

section

variable {book : ProgressBook} {operation : String} {generation : Nat}

theorem HasEnded.not_runs (ended : book.HasEnded) (runs : book.Runs operation generation) :
    False := by
  obtain ⟨record, found, ended⟩ := ended
  obtain ⟨-, other, found', running, -⟩ := runs
  rw [found] at found'
  obtain rfl := Option.some.inj found'
  exact ended running

theorem begin_runs (target : Option Value) (now : Nat) :
    (book.begin operation target now).Runs operation (nextGeneration book.generation) :=
  ⟨rfl, _, rfl, rfl, rfl⟩

theorem Runs.onRunning {change : ProgressRecord → ProgressRecord} (runs : book.Runs operation generation)
    (kept : ∀ record, (change record).status = record.status ∧
      (change record).operation = record.operation) :
    (book.onRunning change).Runs operation generation := by
  obtain ⟨current, record, found, running, named⟩ := runs
  refine ⟨current, change record, ?_, ?_, ?_⟩
  · simp [ProgressBook.onRunning, found, running]
  · rw [(kept record).1, running]
  · rw [(kept record).2, named]

theorem Runs.update (runs : book.Runs operation generation) (observed : Nat) (phase : String)
    (completed : Nat) (total : Option Nat) (log : String) :
    (book.update observed phase completed total log).Runs operation generation := by
  unfold ProgressBook.update
  split
  · exact runs.onRunning fun _ => ⟨rfl, rfl⟩
  · exact runs

/-- A change of the record of a running operation takes place. -/
theorem Runs.onRunning_eq {change : ProgressRecord → ProgressRecord}
    (runs : book.Runs operation generation) :
    ∃ record, book.record = some record ∧
      book.onRunning change = { book with record := some (change record) } := by
  obtain ⟨-, record, found, running, -⟩ := runs
  exact ⟨record, found, by simp [ProgressBook.onRunning, found, running]⟩

theorem Runs.update_eq (runs : book.Runs operation generation) (phase : String) (completed : Nat)
    (total : Option Nat) (log : String) :
    ∃ record, book.record = some record ∧ book.update generation phase completed total log =
      { book with record := some (record.report phase completed total log) } := by
  rw [ProgressBook.update, if_pos runs.1]
  exact runs.onRunning_eq

theorem Runs.setTarget (runs : book.Runs operation generation) (target : Value) :
    (book.setTarget target).Runs operation generation :=
  runs.onRunning fun _ => ⟨rfl, rfl⟩

theorem Runs.finish (runs : book.Runs operation generation) (result : Except Error Value)
    (now : Nat) :
    (book.finish generation result now).Ended operation generation (.ofResult result) := by
  obtain ⟨current, record, found, -, named⟩ := runs
  have closed : (record.finish result now).operation = operation := by
    rw [← named]
    cases result with
    | error error => rfl
    | ok value =>
      simp only [ProgressRecord.finish, ProgressRecord.close]
      split
      · split <;> rfl
      · rfl
  refine ⟨?_, record.finish result now, ?_, rfl, closed⟩
  · rw [ProgressBook.finish, if_pos current, current]
  · rw [ProgressBook.finish, if_pos current, found]
    rfl

end

end ProgressBook

end RocqMcp
