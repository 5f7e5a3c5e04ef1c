import RocqMcp.Adapter.Session

/-! The ten public operations, and their dispatch. -/

namespace RocqMcp.Adapter

open Library

section

variable (project : ProjectId) (session : SessionId)

def reconciledDecls (file : FileId) : EngineM Response := do
  reconcileArtifact project session file
  let declarations ← Engine.listDecls project file
  return .declarations declarations

/-- Record the artifacts of a completed target, if they can be read. -/
def recordCompleted (file : FileId) (otherwise : Act World Error Unit) : EngineM Unit := do
  match ← Act.attempt (Engine.artifactFingerprint project file) with
  | .ok fingerprint => recordArtifact project file fingerprint
  | .error _ => otherwise

/-- A PET-finished declaration: forget every state, then build and audit. -/
def validatePublished (target : DeclarationTarget) : EngineM Response := do
  invalidateProjectStates project session
  let state ← Engine.validatePublished project target
  recordCompleted project target.identity.file (pure ())
  return .state { state, checkpoint := none, retainedNextOffset := none, structured := false }

def prove (args : Value) : EngineM Response := do
  Act.ofExcept (rejectUnknown args ["target"])
  let identity ← Act.ofExcept (requiredTarget args)
  rejectActiveProof session "prove"
  reconcileArtifact project session identity.file
  match ← Engine.openDeclaration project identity with
  | .published target => validatePublished project session target
  | .open' opened => beginProof project session opened

def declare (args : Value) : EngineM Response := do
  Act.ofExcept (rejectUnknown args ["name", "statement", "kind", "file"])
  let name ← Act.ofExcept (requiredString args "name")
  let file ← Act.ofExcept (requiredString args "file")
  let kind ← Act.ofExcept (declarationKind ((args.get? "kind").bind Value.asString))
  let statement ← Act.ofExcept (requiredString args "statement")
  rejectActiveProof session "declare"
  reconcileArtifact project session (fileOf file)
  let opened ← Engine.declare project kind (fileOf file) name statement
  beginProof project session opened

def abandon (args : Value) : EngineM Response := do
  Act.ofExcept (rejectUnknown args ["target"])
  let identity ← Act.ofExcept (requiredTarget args)
  let proof ← activeProof session
  Act.ensure (proof.target.identity = identity)
    (.new .notFound "no active unpublished proof has that declaration")
  commitOrCancelled
  let lost ← retireProof project session
  Act.when lost (invalidateProjectStates project session)
  return .done

/-- The parts of `check` that all alternatives share. -/
structure CheckContext where
  arguments : AttemptArguments
  target : DeclarationTarget
  baseId : CheckpointId
  baseView : ProofState

/-- The prologue of `check` and of `try`. -/
def enterProof (arguments : AttemptArguments) : EngineM CheckContext := do
  let proof ← activeProof session
  Engine.validateTarget project proof.target
  reconcileArtifact project session proof.target.identity.file
  let current ← ensureCurrentState project session
  let proof ← activeProof session
  let baseView ← Engine.goals project proof.target current.2 .all none
  return { arguments, target := proof.target, baseId := current.1, baseView }

/-- Evaluate one alternative at the selected checkpoint. A deadline ends the
PET epoch, and counts as a rejection. -/
def evaluate (context : CheckContext) (fragment : String) :
    EngineM (Except Error TracedProofStep) := do
  let current ← ensureCurrentState project session
  match ← Act.attempt (Engine.runTraced project context.target current.2 fragment
      context.arguments.trace context.arguments.timeoutMs) with
  | .ok outcome => return .ok outcome
  | .error error =>
    if error.kind = .proofStepTimeout then
      invalidateProjectStates project session
      return .error error
    else .throw error

/-- An accepted alternative. -/
structure Accepted where
  index : Nat
  fragment : String
  step : ProofStep
  goalsNextOffset : Option Nat
  rejected : List Rejection

def Accepted.of (index : Nat) (fragment : String) (step : ProofStep) (rejected : List Rejection) :
    Accepted :=
  let bounded := boundedCheckpointView step.view
  { index, fragment, step := { step with view := bounded.1 }, goalsNextOffset := bounded.2,
    rejected }

def CheckContext.view (context : CheckContext) (state : ProofState)
    (checkpoint : Option CheckpointId) (retainedNextOffset : Option Nat) : StateView :=
  { state, checkpoint, retainedNextOffset, structured := context.arguments.structured }

def Accepted.diff (accepted : Accepted) (context : CheckContext) : Option GoalDiff :=
  if context.arguments.structured then goalDiff context.baseView accepted.step.view else none

/-- `selected_error` for the accepted step. -/
def Accepted.failure (accepted : Accepted) (context : CheckContext)
    (checkpoint : Option CheckpointId) (error : Error) : Response :=
  .selectedError accepted.index
    (context.view accepted.step.view checkpoint accepted.goalsNextOffset)
    accepted.rejected error

/-- Whether the proof outlives the error of its publication. -/
def retainsProof (error : Error) : Bool := error.kind ≠ .declarationChanged

/-- The outcome of a publication: the proof is cleared, or stays with its
checkpoint. -/
def settlePublication (context : CheckContext) (accepted : Accepted) (checkpoint : CheckpointId) :
    Except Error ProofState → EngineM Response
  | .ok state => do
    let file := context.target.identity.file
    recordCompleted project file (forgetArtifact project file)
    clearBook session
    return .selected accepted.index (context.view state none none) accepted.rejected
      (accepted.diff context)
  | .error error => do
    forgetArtifact project context.target.identity.file
    if retainsProof error then return accepted.failure context (some checkpoint) error
    else
      let retired ← book session
      noteWhen (!retired.states.isEmpty) (.clearedUnreleased project)
      clearBook session
      return accepted.failure context none error

def publishAccepted (context : CheckContext) (accepted : Accepted) (checkpoint : CheckpointId) :
    EngineM Response := do
  let book ← book session
  let path ← ofBook (book.fragments checkpoint)
  recordSubmission { book, winner := accepted.fragment, fragments := path }
  let published ← Act.attempt (Engine.publish project context.target path
    (invalidateProjectStates project session))
  settlePublication project session context accepted checkpoint published

/-- The finalizer of a finished step. -/
def closeAccepted (context : CheckContext) (accepted : Accepted) : EngineM (Option Error) :=
  if accepted.step.finished then do
    match ← Act.attempt (Engine.closeProof project context.target accepted.step.state) with
    | .ok () => return none
    | .error error =>
      if error.kind = .requestCancelled then .throw error else return some error
  else return none

/-- The response to an accepted alternative that has become a checkpoint. -/
def finishAccepted (context : CheckContext) (accepted : Accepted) (closeError : Option Error)
    (checkpoint : CheckpointId) : EngineM Response :=
  match closeError with
  | some error => do
    Act.when error.kind.invalidatesPetEpoch (invalidateProjectStates project session)
    return accepted.failure context (some checkpoint) error
  | none =>
    if accepted.step.finished then publishAccepted project session context accepted checkpoint
    else
      return .selected accepted.index
        (context.view accepted.step.view (some checkpoint) accepted.goalsNextOffset)
        accepted.rejected (accepted.diff context)

/-- Commit an accepted alternative; cancellation can win until here. -/
def accept (context : CheckContext) (accepted : Accepted) : EngineM Response := do
  let closeError ← closeAccepted project context accepted
  commitOrCancelled
  let retained :=
    if context.arguments.structured then accepted.step.view
    else { accepted.step.view with structuredGoals := none }
  let book ← book session
  match book.commit accepted.step.state accepted.fragment accepted.step.finished retained
      accepted.goalsNextOffset with
  | (.error error, book) =>
    setBook session book
    release project [accepted.step.state]
    .throw (checkpointError error)
  | (.ok checkpoint, book) =>
    setBook session book
    finishAccepted project session context accepted closeError checkpoint

/-- Every alternative was rejected: the selection stays. -/
def unselected (context : CheckContext) (rejected : List Rejection) : EngineM Response := do
  let book ← book session
  let checkpoint ← ofBook (book.lookup context.baseId)
  let view :=
    if context.arguments.structured then
      { checkpoint.view with structuredGoals := context.baseView.structuredGoals }
    else checkpoint.view
  return .unselected (context.view view (some context.baseId) checkpoint.goalsNextOffset) rejected

/-- The first alternative that PET accepts wins. -/
def checkFragments (context : CheckContext) (index : Nat) (rejected : List Rejection) :
    List String → EngineM Response
  | [] => unselected session context rejected
  | fragment :: rest => do
    match ← evaluate project session context fragment with
    | .ok (.success step) =>
      accept project session context (Accepted.of index fragment step rejected)
    | .ok (.failure failure) =>
      checkFragments context (index + 1)
        (rejected ++ [.traced failure context.arguments.structured]) rest
    | .error error => checkFragments context (index + 1) (rejected ++ [.error error]) rest

def check (args : Value) : EngineM Response := do
  let arguments ← Act.ofExcept (attemptArguments args)
  let context ← enterProof project session arguments
  checkFragments project session context 0 [] arguments.fragments

/-- One read-only alternative. -/
def tryFragment (context : CheckContext) (fragment : String) : EngineM AttemptView := do
  match ← evaluate project session context fragment with
  | .ok (.success step) =>
    rejectCancelled
    release project [step.state]
    let diff :=
      if context.arguments.structured then goalDiff context.baseView step.view else none
    return .evaluated step.finished (context.view step.view none none) diff
  | .ok (.failure failure) =>
    return .rejected (.traced failure context.arguments.structured)
  | .error error => return .rejected (.error error)

def tryEach (context : CheckContext) : List String → EngineM (List AttemptView)
  | [] => return []
  | fragment :: rest => do
    let attempt ← tryFragment project session context fragment
    let attempts ← tryEach context rest
    return attempt :: attempts

def tryFragments (args : Value) : EngineM Response := do
  let arguments ← Act.ofExcept (attemptArguments args)
  let context ← enterProof project session arguments
  let attempts ← tryEach project session context arguments.fragments
  return .attempts attempts

/-- The checkpoint that `rewind` names. -/
def rewindTarget (args : Value) : EngineM CheckpointId := do
  let book ← book session
  match args.get? "checkpoint", args.get? "steps" with
  | some value, _ => Act.ofExcept (positive "checkpoint must be positive" value)
  | none, some value =>
    let steps ← Act.ofExcept (positive "steps must be a positive integer" value)
    ofBook (book.stepsBack steps)
  | none, none => ofBook (book.stepsBack 1)

/-- Make sure that a checkpoint has a PET state. -/
def restoreCheckpoint (target : CheckpointId) : EngineM Unit := do
  let book ← book session
  let node ← ofBook (book.lookup target)
  if node.petState.isNone then
    let _state ← replayCheckpoint project session target
    return ()
  else return ()

def selectCheckpoint (target : CheckpointId) : EngineM Response := do
  let before ← book session
  let selected ← ofBook (before.select target)
  setBook session selected
  let node ← ofBook (selected.lookup target)
  return stateResponse target node

def rewind (args : Value) : EngineM Response := do
  Act.ofExcept (rejectUnknown args ["steps", "checkpoint"])
  Act.ensure (!((args.get? "steps").isSome && (args.get? "checkpoint").isSome))
    (.new .invalidRequest "steps and checkpoint are mutually exclusive")
  let target ← rewindTarget session args
  let proof ← activeProof session
  Engine.validateTarget project proof.target
  reconcileArtifact project session proof.target.identity.file
  restoreCheckpoint project session target
  commitOrCancelled
  selectCheckpoint session target

def symbolLimit (args : Value) : Except Error Nat := do
  let limit ← optional args "limit" fun value =>
    require "limit must be an integer from 1 to 100"
      (value.asNat.filter fun limit => 1 ≤ limit && limit ≤ 100)
  return limit.getD 20

def locateSymbol (args : Value) : EngineM Response := do
  Act.ofExcept (rejectUnknown args ["kind", "symbol", "limit"])
  let text ← Act.ofExcept (requiredString args "symbol")
  let symbol := trim text
  Act.ensure (symbol ≠ "") (.new .invalidRequest "symbol must not be empty")
  let limit ← Act.ofExcept (symbolLimit args)
  let files ← Engine.locateSymbolCandidates project symbol
  reconcileArtifacts project session files
  let locations ← Engine.resolveSymbolCandidates project symbol (limit + 1) files
  return .symbols symbol (locations.take limit) (limit < locations.length)

/-- The view of the parent of a checkpoint, for a diff. -/
def parentView (book : CheckpointBook) (checkpoint : CheckpointId) : Option ProofState := do
  let node ← (book.lookup checkpoint).toOption
  let parent ← (book.lookup (← node.parent)).toOption
  return parent.view

/-- The goals of a declaration in the state of a checkpoint. -/
def goalsAt (arguments : GoalsArguments) (current : CheckpointId × PetStateId)
    (target : DeclarationTarget) : EngineM Response := do
  let view ← Engine.goals project target current.2 arguments.scope arguments.goalId
  let page ← Act.ofExcept (textResult view.goals arguments.offset)
  let book ← book session
  let diff :=
    if arguments.diff then
      some ((parentView book current.1).bind fun before => goalDiff before view)
    else none
  return .goals
    { state := view
      checkpoint := some current.1
      retainedNextOffset := none
      structured := arguments.structured } page diff

def queryGoals (args : Value) : EngineM Response := do
  let arguments ← Act.ofExcept (goalsArguments args)
  let proof ← activeProof session
  Engine.validateTarget project proof.target
  reconcileArtifact project session proof.target.identity.file
  let current ← ensureCurrentState project session
  let proof ← activeProof session
  goalsAt project session arguments current proof.target

/-- A query in the state of the selected proof. -/
def querySelected (query : PetQuery) (offset : Nat) : EngineM Response := do
  let current ← ensureCurrentState project session
  let proof ← activeProof session
  let text ← Engine.queryState project proof.target current.2 query
  let page ← Act.ofExcept (textResult text offset)
  return .text page

/-- A query after one exact declaration. -/
def queryContext (identity : DeclarationIdentity) (query : PetQuery) (offset : Nat) :
    EngineM Response := do
  let text ← Engine.queryAt project identity query
  let page ← Act.ofExcept (textResult text offset)
  return .text page

/-- A query about a declaration: the retained state of the selected proof is the
only context that can represent an unpublished one. -/
def queryDeclaration (args : Value) (query : String → PetQuery) : EngineM Response := do
  Act.ofExcept (rejectUnknown args ["kind", "target", "offset"])
  let offset ← Act.ofExcept (queryOffset args)
  let identity ← Act.ofExcept (requiredTarget args)
  reconcileArtifact project session identity.file
  let book ← book session
  if book.proof.any fun proof => proof.target.identity = identity then
    querySelected project session (query identity.qualifiedName) offset
  else queryContext project identity (query identity.qualifiedName) offset

/-- A query with a text argument; `at` selects its context explicitly. -/
def queryText (args : Value) (field : String) (query : String → PetQuery) : EngineM Response := do
  Act.ofExcept (rejectUnknown args ["kind", field, "at", "offset"])
  let offset ← Act.ofExcept (queryOffset args)
  let text ← Act.ofExcept (requiredString args field)
  match args.get? "at" with
  | some selector =>
    let identity ← Act.ofExcept (declarationId selector "at")
    reconcileArtifact project session identity.file
    queryContext project identity (query text) offset
  | none =>
    let book ← book session
    match book.proof with
    | some proof =>
      reconcileArtifact project session proof.target.identity.file
      querySelected project session (query text) offset
    | none => .throw (.new .invalidRequest "at is required when no proof is selected")

def query (args : Value) : EngineM Response := do
  let kind ← Act.ofExcept (require "kind is required" ((args.get? "kind").bind Value.asString))
  if kind = "locate_symbol" then locateSymbol project session args
  else if kind = "goals" then queryGoals project session args
  else if kind = "about" then queryDeclaration project session args .about
  else if kind = "print" then queryDeclaration project session args .print
  else if kind = "assumptions" then queryDeclaration project session args .assumptions
  else if kind = "dependencies" then queryDeclaration project session args .dependencies
  else if kind = "search" then queryText project session args "pattern" .search
  else if kind = "type" then queryText project session args "expression" .expressionType
  else if kind = "notations" then queryText project session args "expression" .notations
  else .throw (.new .invalidRequest "unsupported query kind")

def listFiles (args : Value) : EngineM Response := do
  Act.ofExcept (rejectUnknown args [])
  let files ← Engine.listFiles project
  return .files files

def listDecls (args : Value) : EngineM Response := do
  Act.ofExcept (rejectUnknown args ["file"])
  let file ← Act.ofExcept (requiredString args "file")
  reconciledDecls project session (fileOf file)

def dispatchAttached (name : String) (args : Value) : EngineM Response :=
  if name = "list_files" then listFiles project args
  else if name = "list_decls" then listDecls project session args
  else if name = "prove" then prove project session args
  else if name = "declare" then declare project session args
  else if name = "abandon" then abandon project session args
  else if name = "check" then check project session args
  else if name = "try" then tryFragments project session args
  else if name = "rewind" then rewind project session args
  else if name = "query" then query project session args
  else .throw (.new .invalidRequest "unknown tool")

/-- The end of a request: an error that ends the PET epoch reaches every
session of the project. -/
def settleRequest (result : Except Error Response) : EngineM Response :=
  match result with
  | .ok response => return response
  | .error error => do
    -- A late cancellation can arrive after PET has exported a state.
    Act.when (error.kind = .requestCancelled) (PetActor.restart project)
    Act.when error.kind.invalidatesPetEpoch (invalidateProjectStates project session)
    .throw error

/-- A changed layout: no artifact and no state of the project is current. -/
def admitLayout (changed : Bool) : EngineM Unit :=
  .when changed do
    clearArtifacts project
    epochBoundary project session

/-- The section of a request that holds the barrier of its project. -/
def dispatchProject (name : String) (args : Value) : EngineM Response := do
  rejectCancelled
  let changed ← Engine.refreshProject project
  admitLayout project session changed
  rejectCancelled
  let result ← Act.attempt (dispatchAttached project session name args)
  settleRequest project session result

/-- Admit a freshly attached view under the barrier of its project. -/
def installStartView : EngineM Unit := do
  let changed ← Engine.refreshProject project
  .modify fun world =>
    world.setSelection session { world.selections session with project := some project }
  admitLayout project session changed

/-- Retire the proof of a connection that leaves a project or starts again. -/
def retireForStart : EngineM Unit := do
  rejectCancelled
  commitOrCancelled
  let lost ← retireProof project session
  Act.when lost (invalidateProjectStates project session)

/-- The section over the previous project. -/
def detach : EngineM Unit := do
  retireForStart project session
  .modify fun world =>
    world.setSelection session { world.selections session with project := none }

/-- The section over the new project. -/
def enterProject : EngineM Unit := do
  rejectCancelled
  commitOrCancelled
  installStartView project session

end

/-- `ServerRuntime::project`: the runtime of an attached project, a new one
where no connection keeps the old one alive. -/
def openRuntime (attached : DuneProject) : EngineM Unit := do
  let tick ← tick
  let unused ← Act.gets fun world =>
    (List.range world.connections).all fun session => !world.attachedTo attached.root session
  .when (unused && !tick.pinned)
    (.modify fun world => world.setRuntime attached.root (.fresh attached))

def start (session : SessionId) (args : Value) : EngineM Response := do
  Act.ofExcept (rejectUnknown args ["project_path"])
  let _requested ← Act.ofExcept (requiredString args "project_path")
  let attached ← Engine.attach
  openRuntime attached
  match ← Act.gets fun world => (world.selections session).project with
  | none =>
    enterProject attached.root session
    return .done
  | some previous =>
    if previous = attached.root then
      retireForStart previous session
      installStartView attached.root session
      return .done
    else
      detach previous session
      enterProject attached.root session
      return .done

def progress (args : Value) : EngineM Response := do
  Act.ofExcept (rejectUnknown args ["kind", "generation"])
  let observed ← Act.ofExcept (optional args "generation" fun value =>
    require "generation must be a non-negative integer" value.asNat)
  return .progress observed

/-- Dispatch one request. -/
def dispatch (session : SessionId) (name : String) (args : Value) : EngineM Response := do
  rejectCancelled
  if name = "query" && (args.get? "kind").bind Value.asString = some "progress" then progress args
  else if name = "start" then start session args
  else
    match ← Act.gets fun world => (world.selections session).project with
    | none => .throw (.new .invalidRequest "call start first")
    | some project => dispatchProject project session name args

/-- `SessionCell::drop`: the release is best-effort. -/
def dropSession (session : SessionId) : Act World Error Unit := do
  match ← Act.gets fun world => (world.selections session).project with
  | none => return ()
  | some project =>
    let retired ← book session
    clearBook session
    let _released ← PetActor.bestEffort project (PetActor.releaseStates project retired.states)
    return ()

end RocqMcp.Adapter
