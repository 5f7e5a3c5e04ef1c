import RocqMcp.World

/-! `PetActor`: the sole owner of the PET child of one project. A call whose
error ends the PET epoch leaves no process installed. -/

namespace RocqMcp

open Library

namespace PetProcess

def start (epoch : Nat) : PetProcess where
  epoch := epoch
  next := 1
  exported := []
  distinct := List.nodup_nil
  bounded := by simp

/-- The id of the next exported state. -/
def fresh (process : PetProcess) (now : Nat) : PetStateId :=
  { value := process.next, exportedAt := now }

def exportState (process : PetProcess) (now : Nat) : PetProcess where
  epoch := process.epoch
  next := process.next + 1
  exported := process.fresh now :: process.exported
  distinct := by
    rw [List.map_cons, List.nodup_cons]
    refine ⟨?_, process.distinct⟩
    intro used
    obtain ⟨state, member, same⟩ := List.mem_map.mp used
    exact Nat.ne_of_lt (process.bounded state member) same
  bounded := by
    intro state member
    rcases List.mem_cons.mp member with rfl | old
    · exact Nat.lt_succ_self _
    · exact Nat.lt_succ_of_lt (process.bounded state old)

/-- Remove the given numbers. -/
def release (process : PetProcess) (states : List PetStateId) : PetProcess where
  epoch := process.epoch
  next := process.next
  exported := process.exported.filter fun state => state.value ∉ states.map PetStateId.value
  distinct := process.distinct.sublist (List.filter_sublist.map _)
  bounded state member := process.bounded state (List.mem_of_mem_filter member)

/-- Forget every exported state and enter a new epoch. -/
def refresh (process : PetProcess) (epoch : Nat) : PetProcess where
  epoch := epoch
  next := process.next
  exported := []
  distinct := List.nodup_nil
  bounded := by simp

/-- What a request that PET has answered does to its table of states. -/
def serve (process : PetProcess) (call : PetCall) (reply : PetReply Unit) (now : Nat) :
    PetProcess :=
  match call, reply with
  | .releaseStates states, _ => process.release states
  | .refreshWorkspace, .null => process.refresh now
  | call, reply =>
    if call.mayExport && !reply.states.isEmpty then process.exportState now else process

end PetProcess

/-- The reply, with the id of the state that it exports. -/
def PetReply.answer (state : PetStateId) : PetReply Unit → PetReply PetStateId
  | .run _ proofFinished feedback => .run state proofFinished feedback
  | .traceSuccess _ proofFinished => .traceSuccess state proofFinished
  | .traceFailure _ failure => .traceFailure state failure
  | .null => .null
  | .capabilities names => .capabilities names
  | .declarations rows => .declarations rows
  | .offset value => .offset value
  | .goals value => .goals value
  | .assumptions report => .assumptions report
  | .notations text => .notations text
  | .released count absent => .released count absent
  | .malformed => .malformed

def Tick.outcome (tick : Tick) (call : PetCall) (timeoutMs : Option Nat) :
    Except PetError (PetReply Unit) :=
  match tick.expired, timeoutMs with
  | true, some timeoutMs => .error (.timedOut timeoutMs)
  | _, _ =>
    match tick.rpc call with
    | .invalid message => .error (.invalid message)
    | .processLost message => .error (.processLost message)
    | .protocol message => .error (.protocol message)
    | .remote code message diagnostic => .error (.remote code (.fromCode code) message diagnostic)
    | .returned reply => .ok reply

/-- One JSON-RPC exchange with a child: a pending cancellation kills it. -/
def exchange (call : PetCall) (timeoutMs : Option Nat) : PetM (PetReply Unit) := do
  let tick ← tick
  let cancelled ← Act.gets fun world => world.signal.isCancelled
  Act.ensure (!cancelled) PetError.cancelled
  Act.ofExcept (tick.outcome call timeoutMs)

def requiredCapabilities : List String :=
  ["document_declarations_v2", "dune_workspace_v1", "insertion_point_v1", "atomic_run_v1",
    "release_states_v1", "refresh_workspace_v1", "structured_assumptions_v1", "typed_errors_v1",
    "diagnostic_ranges_v1", "traced_run_v1"]

def missingCapabilities (names : List String) : List String :=
  requiredCapabilities.filter fun required => required ∉ names

def maxRequestBytes : Nat := 8 * 1024 * 1024

/-- `str::is_char_boundary`. -/
def isCharBoundary (text : String) (offset : Nat) : Bool :=
  offset ≤ text.utf8ByteSize && (bytesText? ((textBytes text).take offset)).isSome

/-- A range of the fragment, on character boundaries. -/
def validRange (fragment : String) (start stop : Nat) : Bool :=
  start ≤ stop && stop ≤ fragment.utf8ByteSize && isCharBoundary fragment start &&
    isCharBoundary fragment stop

/-- Whether a diagnostic of PET lies outside the submitted fragment. -/
def PetError.misplaced (fragment : String) : PetError → Bool
  | .remote _ _ _ (some diagnostic) =>
    fragment.utf8ByteSize < diagnostic.byteEnd ||
      !isCharBoundary fragment diagnostic.byteStart ||
      !isCharBoundary fragment diagnostic.byteEnd
  | _ => false

def RawTraceFailure.fits (failure : RawTraceFailure) (fragment : String) : Bool :=
  validRange fragment failure.sentenceStart failure.sentenceEnd &&
    failure.trace.length ≤ 64 &&
    failure.trace.all fun step =>
      validRange fragment step.byteStart step.byteEnd && step.command.utf8ByteSize ≤ 4096

def RawTraceFailure.diagnostic? (failure : RawTraceFailure) (fragment : String) :
    Option (Option ProofDiagnostic) :=
  match failure.diagnosticStart, failure.diagnosticEnd with
  | some byteStart, some byteEnd =>
    if validRange fragment byteStart byteEnd then some (some { byteStart, byteEnd }) else none
  | none, none => some none
  | _, _ => none

/-- `source_position`. -/
def sourcePosition (text : String) (offset : Nat) : Except PetError SourcePosition :=
  match bytesText? ((textBytes text).take offset) with
  | some before =>
    if offset ≤ text.utf8ByteSize then
      let lines := before.toList.splitOn '\n'
      let character := ((lines.getLastD []).map fun c => if c.toNat < 0x10000 then 1 else 2).sum
      .ok { line := before.toList.count '\n', character }
    else .error (.invalid "source position is no longer valid")
  | none => .error (.invalid "source position is no longer valid")

/-- `fs::read_to_string` of the file that PET opens. -/
def readDocument (source : PetSource) : PetM String := do
  let tick ← tick
  let content ← Act.gets fun world => world.document source
  match if tick.fault then none else content.bind bytesText? with
  | some text => return text
  | none => .throw (.environment "source is unavailable")

def queryCommand : PetQuery → String
  | .search pattern => s!"Search {pattern}."
  | .about name => s!"About {name}."
  | .print name => s!"Print {name}."
  | .assumptions name => s!"Print Assumptions {name}."
  | .dependencies name => s!"Print All Dependencies {name}."
  | .expressionType expression => s!"Check ({expression})."
  | .notations expression => s!"Lemma __rocq_mcp_notation_probe : {expression}."

namespace PetActor

section

variable (project : ProjectId)

def install (process : PetProcess) : Act World ε Unit :=
  .modify fun world => world.setActor project { world.actor project with process := some process }

/-- `process.take()` and `workspace.take()`. -/
def discard : Act World ε Unit := .modify fun world => world.setActor project {}

/-- Force the next PET-backed operation to start a fresh child. -/
def restart : Act World ε Unit := discard project

/-- `poison_if_invalidated`. -/
def poisonIfInvalidated (error : PetError) : PetM Unit :=
  .when error.invalidatesProcess (discard project)

/-- A failure of the client itself. -/
def fail (error : PetError) : PetM α := do
  poisonIfInvalidated project error
  .throw error

/-- A reply outside the protocol. -/
def violated (message : String) : PetM α := fail project (.protocol message)

/-- Run a call and drop the process if its error ends the epoch. -/
def orDiscard (action : PetM α) : PetM α := do
  match ← Act.attempt action with
  | .ok value => return value
  | .error error => fail project error

/-- Record what has become of a request. -/
def recordTurn (call : PetCall) (outcome : Except PetError (PetReply PetStateId)) :
    Act World ε Unit :=
  .modify fun world => world.recordTurn { project, call, outcome }

/-- A request to the installed child. -/
def rpc (process : PetProcess) (call : PetCall) (timeoutMs : Option Nat) :
    PetM (PetReply PetStateId) := do
  match ← Act.attempt (exchange call timeoutMs) with
  | .error error =>
    recordTurn project call (.error error)
    .throw error
  | .ok reply =>
    let now ← Act.gets World.now
    let answer := reply.answer (process.fresh now)
    recordTurn project call (.ok answer)
    install project (process.serve call reply now)
    return answer

/-- `PetProcess::spawn` and the handshake. -/
def spawn : PetM PetProcess := do
  let tick ← tick
  match tick.spawn with
  | some error => .throw error
  | none =>
    let epoch ← Act.gets World.now
    match ← exchange .capabilities none with
    | .capabilities names =>
      Act.ensure (missingCapabilities names).isEmpty (.environment
        ("required capabilities are missing: " ++ joinStrings ", " (missingCapabilities names)))
      return PetProcess.start epoch
    | _ => .throw (.protocol "PET capabilities response is invalid")

/-- The installed process, or a fresh child. -/
def ensureChild : PetM PetProcess := do
  match ← Act.gets fun world => world.process project with
  | some process => return process
  | none =>
    let process ← spawn
    .modify fun world => world.setActor project { process := some process, workspace := none }
    return process

def ensureProcess (workspace : PetWorkspace) : PetM Unit := do
  let process ← ensureChild project
  let current ← Act.gets fun world => (world.actor project).workspace
  if current = some workspace then return ()
  else
    match ← orDiscard project (rpc project process (.setWorkspace workspace) none) with
    | .null =>
      .modify fun world =>
        world.setActor project { world.actor project with workspace := some workspace }
    | _ =>
      discard project
      .throw (.protocol "setWorkspace returned a non-null result")

def callLive (call : PetCall) (timeoutMs : Option Nat := none) : PetM (PetReply PetStateId) := do
  match ← Act.gets fun world => world.process project with
  | none => .throw (.processLost "process is not running")
  | some process => orDiscard project (rpc project process call timeoutMs)

def callInWorkspace (workspace : PetWorkspace) (call : PetCall) : PetM (PetReply PetStateId) := do
  ensureProcess project workspace
  callLive project call

/-- A call whose error the caller swallows. -/
def bestEffort (action : Act World ε α) : Act World ε' (Except ε α) := do
  let before ← Act.gets fun world => (world.process project).isSome
  let result ← Act.attempt action
  let after ← Act.gets fun world => (world.process project).isSome
  noteWhen (before && !after) (.silentLoss project)
  return result

def documentDeclarations (workspace : PetWorkspace) (source : PetSource) :
    PetM (List PetDeclaration) := do
  match ← callInWorkspace project workspace (.documentDeclarations source.path) with
  | .declarations rows => return rows
  | _ => violated project "invalid PET declaration response"

def insertionPoint (workspace : PetWorkspace) (source : PetSource) (modules : List String) :
    PetM Nat := do
  match ← callInWorkspace project workspace (.insertionPoint source.path modules) with
  | .offset value => return value
  | _ => violated project "PET insertion point is invalid"

/-- `release_states`. PET accounts for every request occurrence; ids that it
does not know are a success. -/
def releaseStates (states : List PetStateId) : PetM Unit := do
  if states.isEmpty then return ()
  else
    match ← Act.attempt (callLive project (.releaseStates states)) with
    | .error error =>
      let alive ← Act.gets fun world => (world.process project).isSome
      noteWhen alive (.releaseRefused project)
      .throw error
    | .ok (.released released missing) =>
      if released + missing = states.length then return ()
      else violated project "PET release response has the wrong cardinality"
    | .ok _ => violated project "PET release response is invalid"

/-- Structured goals, without allocating another PET state. -/
def goals (state : PetStateId) : PetM PetGoals := do
  match ← callLive project (.goals state) with
  | .null => return .outsideProof
  | .goals goals => return { goals with proofMode := true }
  | _ => violated project "PET goals result is invalid"

/-- The goals of a newly exported state. -/
def materialize (state : PetStateId) (proofFinished : Bool) : PetM PetExecution := do
  match ← Act.attempt (goals project state) with
  | .ok goals => return { state, proofFinished, goals }
  | .error error =>
    let _released ← bestEffort project (releaseStates project [state])
    .throw error

def materializeRun : PetReply PetStateId → PetM PetExecution
  | .run state proofFinished _ => materialize project state proofFinished
  | _ => violated project "PET run result is not an object"

/-- Export the immutable Rocq state at one PET-provided byte anchor. -/
def stateAt (workspace : PetWorkspace) (source : PetSource) (offset : Nat) :
    PetM PetExecution := do
  let text ← readDocument source
  let position ← Act.ofExcept (sourcePosition text offset)
  let reply ← callInWorkspace project workspace (.getStateAtPos source.path position)
  materializeRun project reply

/-- `run_with_timeout`: execute one complete caller fragment. -/
def run (state : PetStateId) (fragment : String) (timeoutMs : Option Nat := none) :
    PetM PetExecution := do
  Act.ensure (fragment.utf8ByteSize ≤ maxRequestBytes / 2)
    (.invalid "proof fragment is oversized")
  match ← Act.attempt (callLive project (.run state fragment) timeoutMs) with
  | .error error =>
    if error.misplaced fragment then
      violated project "PET diagnostic range is outside the submitted fragment"
    else .throw error
  | .ok reply => materializeRun project reply

/-- The failure of a traced run, with the goals before the rejected command. -/
def traceFailure (beforeState : PetStateId) (failure : RawTraceFailure) (fragment : String) :
    PetM PetTraceOutcome :=
  if !failure.fits fragment then
    violated project "PET traced-run range is outside the submitted fragment"
  else
    match failure.diagnostic? fragment with
    | none => violated project "PET traced-run diagnostic range is invalid"
    | some diagnostic => do
      let before ← materialize project beforeState false
      return .failure
        { error := .remote failure.code (.fromCode failure.code) failure.message diagnostic
          sentenceIndex := failure.sentenceIndex
          sentenceRange := { byteStart := failure.sentenceStart, byteEnd := failure.sentenceEnd }
          beforeState
          beforeGoals := before.goals
          trace := failure.trace }

/-- `run_traced_with_timeout`: a command rejection is returned as data, with
the state before the rejected command. -/
def runTraced (state : PetStateId) (fragment : String) (includeTrace : Bool)
    (timeoutMs : Option Nat) : PetM PetTraceOutcome := do
  Act.ensure (fragment.utf8ByteSize ≤ maxRequestBytes / 2)
    (.invalid "proof fragment is oversized")
  match ← callLive project (.runTrace state fragment includeTrace) timeoutMs with
  | .traceSuccess state proofFinished =>
    let execution ← materialize project state proofFinished
    return .success execution
  | .traceFailure beforeState failure => traceFailure project beforeState failure fragment
  | _ => violated project "PET traced-run success/failure fields are inconsistent"

/-- The structured dependencies of one declaration. -/
def assumptions (state : PetStateId) (qualifiedPath : List String) :
    PetM PetAssumptionReport := do
  match ← callLive project (.assumptions state qualifiedPath) with
  | .assumptions report =>
    if report.assumptions.any fun assumption =>
        assumption.qualifiedPath.isEmpty || assumption.qualifiedPath.any String.isEmpty then
      violated project "PET assumption response contains an invalid path"
    else return report
  | _ => violated project "invalid PET assumption response"

/-- A query without a printed answer. -/
def queryNotations (state : PetStateId) (query : PetQuery) : PetM String := do
  match ← callLive project (.notations state (queryCommand query)) with
  | .notations text => return text
  | _ => violated project "PET notation response is invalid"

/-- A query whose answer is the feedback of a temporary state. -/
def queryRun (state : PetStateId) (query : PetQuery) : PetM String := do
  match ← callLive project (.run state (queryCommand query)) with
  | .run temporary _ (some text) =>
    releaseStates project [temporary]
    return text
  | .run temporary _ none =>
    poisonIfInvalidated project (.protocol "PET run result has no feedback")
    let _released ← Act.attempt (releaseStates project [temporary])
    .throw (.protocol "PET run result has no feedback")
  | _ => violated project "PET run result is not an object"

/-- Run one Rocq query in an exact immutable context. -/
def query (state : PetStateId) : PetQuery → PetM String
  | .notations expression => queryNotations project state (.notations expression)
  | query => queryRun project state query

/-- The number of exported states, for lifecycle tests. -/
def diagnosticStateCount : PetM Nat := do
  match ← callLive project .stateCount with
  | .offset value => return value
  | _ => violated project "PET state count is invalid"

/-- Record an event of the running epoch. -/
def recordInEpoch (event : Nat → ChainEvent) : Act World ε Unit :=
  .modify fun world =>
    match world.process project with
    | some process => world.record (event process.epoch)
    | none => world

/-- `replace_locked`. -/
def replace (workspace : PetWorkspace) : PetM Unit := do
  discard project
  ensureProcess project workspace

/-- Clear the exported ids and every cache of the child, or replace it. -/
def refreshWorkspace (workspace : PetWorkspace) : PetM Unit := do
  ensureProcess project workspace
  match ← Act.gets fun world => world.process project with
  | none => .throw (.processLost "process is not running")
  | some process =>
    match ← Act.attempt (rpc project process .refreshWorkspace none) with
    | .ok .null => recordInEpoch project (.refreshed project)
    | _ =>
      replace project workspace
      recordInEpoch project (.refreshed project)

end

end PetActor

end RocqMcp
