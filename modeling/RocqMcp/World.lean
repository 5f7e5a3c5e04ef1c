import Mathlib.Logic.Function.Basic
import RocqMcp.Checkpoint
import RocqMcp.Dune.Layout
import RocqMcp.Library.Action
import RocqMcp.Pet.Protocol

/-! The server process together with what surrounds it: the files, Dune, PET,
and the arrival of cancellations. Everything that the server does not decide
comes from an arbitrary environment, one tick for each interaction. -/

namespace RocqMcp

open Library

/-- The file that PET opens for a source: Dune's build-context copy, or the
source itself before the first build. -/
structure PetSource where
  path : Path
  inBuildTree : Bool
  deriving DecidableEq

def PetSource.ofPath (path : Path) : PetSource := { path, inBuildTree := false }

/-- A write to the source tree by another program. -/
structure Edit where
  path : Path
  content : Option Bytes
  deriving DecidableEq

/-- What the async layer can signal to a running request. -/
inductive Arrival where
  | cancel
  | timeout
  deriving DecidableEq

/-- How `atomic_write` ends: it can fail before the rename, or after it when
the directory cannot be synced. -/
inductive RenameOutcome where
  | failed
  | unsynced
  | renamed
  deriving DecidableEq

/-- What becomes of a JSON-RPC request while no cancellation is pending. -/
inductive RpcOutcome where
  | invalid (message : String)
  | processLost (message : String)
  | protocol (message : String)
  | remote (code : Int) (message : String) (diagnostic : Option ProofDiagnostic)
  | returned (value : PetReply Unit)

/-- How a Dune build ends, unless the request is cancelled first. -/
inductive BuildOutcome where
  | unavailable
  | timedOut
  | overflow
  | rejected (stderr : String)
  | succeeded
  deriving DecidableEq

/-- How `Layout::load` ends, unless the request is cancelled first. -/
inductive LayoutOutcome where
  | unavailable (message : String)
  | timedOut
  | ambiguous (message : String)
  | loaded (root : Path) (layout : Layout)

/-- What one interaction with the outside meets. The edits take place before
it; `during` is what happens while a build runs. -/
structure Tick where
  arrival : Option Arrival := none
  edits : List Edit := []
  /-- The file operation fails although the file is there. -/
  fault : Bool := false
  rename : RenameOutcome := .renamed
  /-- The spawn of a PET child, or the error that prevents it. -/
  spawn : Option PetError := none
  /-- The deadline of a request that has one expires before the reply. -/
  expired : Bool := false
  rpc : PetCall → RpcOutcome := fun _ => .returned .malformed
  /-- A pending cancellation stops the Dune process before it ends. -/
  interrupted : Bool := false
  build : BuildOutcome := .succeeded
  during : List Edit := []
  /-- The files of the build tree that the build replaces. -/
  outputs : List (Path × Option Bytes) := []
  layout : LayoutOutcome := .unavailable ""
  probe : Option Digest := none
  /-- The verdict of the glob index, or of the source text, on a symbol. -/
  candidate : Bool := false
  /-- A request of another connection keeps an unattached runtime alive. -/
  pinned : Bool := false

/-- The value of `DUNE_BUILD_DIR`. -/
inductive BuildDir where
  | absolute (path : Path)
  | relative (path : Path)

structure Environment where
  tick : Nat → Tick
  sha256 : Bytes → Digest
  /-- `fs::canonicalize` of a root joined with a relative path. -/
  canonicalize : Path → String → Path
  duneBuildDir : Option BuildDir

/-- `RequestCancellation`. -/
inductive Signal where
  | active
  | cancelled
  | committed
  | timedOut
  deriving DecidableEq

namespace Signal

def isCancelled : Signal → Bool
  | .cancelled | .timedOut => true
  | .active | .committed => false

/-- `cancel` and `timeout`: only an active request is interrupted. -/
def receive (signal : Signal) : Option Arrival → Signal
  | none => signal
  | some arrival =>
    match signal, arrival with
    | .active, .cancel => .cancelled
    | .active, .timeout => .timedOut
    | other, _ => other

end Signal

/-- A running PET child. `epoch` is the time of its start or of its last
workspace refresh; an epoch starts with no exported state. -/
structure PetProcess where
  epoch : Nat
  next : Nat
  exported : List PetStateId
  distinct : (exported.map PetStateId.value).Nodup
  bounded : ∀ state ∈ exported, state.value < next

structure PetActor where
  process : Option PetProcess := none
  workspace : Option PetWorkspace := none

structure DuneProject where
  root : Path
  layout : Layout
  probe : Digest

structure ProjectRuntime where
  project : DuneProject
  actor : PetActor
  artifacts : FileId → Option ArtifactFingerprint

structure Selection where
  project : Option ProjectId
  checkpoints : CheckpointBook

inductive Author where
  | external
  | server
  deriving DecidableEq

/-- One change of a source file, in the order in which they happened. -/
structure Write where
  path : Path
  content : Option Bytes
  author : Author
  deriving DecidableEq

/-- A named branch of the source, or an event outside, that a result about runs
excludes. Recording one does not change what the server does. -/
inductive Mishap where
  /-- A swallowed best-effort PET call dropped the installed process. -/
  | silentLoss (project : ProjectId)
  /-- PET is alive and rejects a release request. -/
  | releaseRefused (project : ProjectId)
  /-- A publication error before the epoch begins clears a proof unreleased. -/
  | clearedUnreleased (project : ProjectId)
  /-- State ids are forgotten before the refresh that clears them, which then
  does not take place. -/
  | forgottenUnrefreshed (project : ProjectId)
  /-- Restoring the original source failed during rollback. -/
  | restoreFailed (project : ProjectId)
  /-- The bytes digested for an anchor differ from the document PET read. -/
  | staleDocument (path : Path)
  /-- A changed fingerprint was recorded, and a later fingerprint of the same
  request could not be read. -/
  | boundarySkipped (project : ProjectId)
  /-- An epoch boundary has not reached the states of a closed connection, which
  still waits for the barrier to release them. -/
  | boundaryMissed (project : ProjectId)
  /-- An external write between a digest check and the rename that follows it. -/
  | raced (path : Path)
  /-- An external write of bytes that the file had before. -/
  | putBack (path : Path)
  /-- A failed publication is rolled back before its own rename, and finds the
  replacement bytes on disk. -/
  | foreignReplacement (path : Path)
  /-- A build that succeeds leaves other bytes in the build tree than the source has. -/
  | staleCopy (path : Path)
  deriving DecidableEq

/-- A step of the way to a completed proof. -/
inductive ChainEvent where
  /-- The server has replaced a source file. -/
  | wrote (source : Path) (at' : Nat)
  /-- A build, with the contents that the source had while it ran. -/
  | built (source : Path) (began : Nat) (contents : List (Option Bytes)) (succeeded : Bool)
  | refreshed (project : ProjectId) (epoch : Nat)
  | resolved (identity : DeclarationIdentity) (finished : Bool) (epoch : Nat)
  | audited (identity : DeclarationIdentity) (passed : Bool) (epoch : Nat)
  deriving DecidableEq

/-- A change of the layout or of a recorded fingerprint, and the beginning of
the request that made it. -/
structure Change where
  began : Nat
  at' : Nat
  deriving DecidableEq

/-- The application of an anchor's ranges to the bytes of a source file. -/
structure Splice where
  anchor : SourceAnchor
  original : Bytes
  deriving DecidableEq

/-- A request to PET, and what became of it. -/
structure PetTurn where
  project : ProjectId
  call : PetCall
  outcome : Except PetError (PetReply PetStateId)

/-- The fragments that `check` hands to publication, and the book it reads. -/
structure Submission where
  book : CheckpointBook
  winner : String
  fragments : List String

/-- Records for the statement of results; no decision of the server reads them. -/
structure Ghost where
  mishaps : List Mishap := []
  chain : List ChainEvent := []
  splices : List Splice := []
  turns : List PetTurn := []
  submissions : List Submission := []
  /-- When the running request was admitted. -/
  began : Nat := 0
  /-- The last change of each project. -/
  changed : ProjectId → Option Change := fun _ => none

structure World where
  environment : Environment
  now : Nat
  signal : Signal
  /-- The files outside the build trees, before the first write. -/
  initialSources : Path → Option Bytes
  /-- The writes to these files, the latest one first. -/
  journal : List Write
  /-- The files below the build roots. -/
  outputs : Path → Option Bytes
  /-- The number of connections so far: the sessions in use are below it. -/
  connections : Nat
  /-- The closed connections: their cells are no longer shared, but not yet dropped. -/
  closing : SessionId → Bool
  selections : SessionId → Selection
  projects : ProjectId → ProjectRuntime
  ghost : Ghost

abbrev EngineM (α : Type) := Act World Error α
abbrev PetM (α : Type) := Act World PetError α

def ProjectRuntime.fresh (project : DuneProject) : ProjectRuntime where
  project := project
  actor := {}
  artifacts _ := none

def DuneProject.unattached (root : ProjectId) : DuneProject where
  root := root
  layout := .empty
  probe := []

def Selection.empty : Selection where
  project := none
  checkpoints := .empty

/-- A server process before its first connection. -/
def World.initial (environment : Environment) (sources outputs : Path → Option Bytes) : World where
  environment := environment
  now := 0
  signal := .active
  initialSources := sources
  journal := []
  outputs := outputs
  connections := 0
  closing _ := false
  selections _ := .empty
  projects root := .fresh (.unattached root)
  ghost := {}

namespace World

def digest (world : World) (bytes : Bytes) : Digest := world.environment.sha256 bytes

/-- The current content of a source file. -/
def sources (world : World) (path : Path) : Option Bytes :=
  match world.journal.find? fun write => write.path = path with
  | some write => write.content
  | none => world.initialSources path

def actor (world : World) (project : ProjectId) : PetActor := (world.projects project).actor

def process (world : World) (project : ProjectId) : Option PetProcess :=
  (world.actor project).process

def layout (world : World) (project : ProjectId) : Layout := (world.projects project).project.layout

def setRuntime (world : World) (project : ProjectId) (runtime : ProjectRuntime) : World :=
  { world with projects := Function.update world.projects project runtime }

def setActor (world : World) (project : ProjectId) (actor : PetActor) : World :=
  world.setRuntime project { world.projects project with actor }

def setSelection (world : World) (session : SessionId) (selection : Selection) : World :=
  { world with selections := Function.update world.selections session selection }

def setClosing (world : World) (session : SessionId) (closing : Bool) : World :=
  { world with closing := Function.update world.closing session closing }

def setCheckpoints (world : World) (session : SessionId) (book : CheckpointBook) : World :=
  world.setSelection session { world.selections session with checkpoints := book }

/-- The state ids that the installed process exports. -/
def exports (world : World) (project : ProjectId) : List PetStateId :=
  match world.process project with
  | none => []
  | some process => process.exported

def attachedTo (world : World) (project : ProjectId) (session : SessionId) : Bool :=
  (world.selections session).project = some project

/-- The state ids retained by the sessions attached to a project. -/
def held (world : World) (project : ProjectId) : List PetStateId :=
  ((List.range world.connections).filter (world.attachedTo project)).flatMap fun session =>
    (world.selections session).checkpoints.states

def note (world : World) (mishap : Mishap) : World :=
  { world with ghost := { world.ghost with mishaps := mishap :: world.ghost.mishaps } }

def Suffered (world : World) (mishap : Mishap) : Prop := mishap ∈ world.ghost.mishaps

instance (world : World) (mishap : Mishap) : Decidable (world.Suffered mishap) :=
  inferInstanceAs (Decidable (mishap ∈ world.ghost.mishaps))

def record (world : World) (event : ChainEvent) : World :=
  { world with ghost := { world.ghost with chain := event :: world.ghost.chain } }

/-- The content of the file that PET opens. -/
def document (world : World) (source : PetSource) : Option Bytes :=
  if source.inBuildTree then world.outputs source.path else world.sources source.path

/-- The layout or a recorded fingerprint of the project has changed. -/
def recordChange (world : World) (project : ProjectId) : World :=
  { world with ghost := { world.ghost with
      changed := Function.update world.ghost.changed project
        (some { began := world.ghost.began, at' := world.now }) } }

def recordSplice (world : World) (splice : Splice) : World :=
  { world with ghost := { world.ghost with splices := splice :: world.ghost.splices } }

def recordTurn (world : World) (turn : PetTurn) : World :=
  { world with ghost := { world.ghost with turns := turn :: world.ghost.turns } }

def recordSubmission (world : World) (submission : Submission) : World :=
  { world with ghost := { world.ghost with submissions := submission :: world.ghost.submissions } }

/-- The contents that a source file has had, the initial one last. -/
def history (world : World) (path : Path) : List (Option Bytes) :=
  (world.journal.filter fun write => write.path = path).map Write.content ++
    [world.initialSources path]

def writeSource (world : World) (author : Author) (path : Path) (content : Option Bytes) : World :=
  { world with journal := { path, content, author } :: world.journal }

/-- The server has written the file since the journal had the given length. -/
def serverWroteSince (world : World) (mark : Nat) (path : Path) : Bool :=
  (world.journal.take (world.journal.length - mark)).any fun write =>
    write.author = .server && write.path = path

/-- An external write. It is noted when it puts back bytes that the file had
before its current content. -/
def edit (world : World) (edit : Edit) : World :=
  let putBack := edit.content.isSome && edit.content ∈ world.history edit.path &&
    edit.content ≠ world.sources edit.path
  let edited := world.writeSource .external edit.path edit.content
  if putBack then edited.note (.putBack edit.path) else edited

def edits (world : World) (list : List Edit) : World := list.foldl edit world

end World

/-- One interaction with the outside: time passes, a cancellation may arrive
and other programs may write to the source tree. -/
def tick : Act World ε Tick := fun world =>
  let tick := world.environment.tick world.now
  (.ok tick,
    { world with now := world.now + 1, signal := world.signal.receive tick.arrival }.edits
      tick.edits)

/-- Record a mishap where the condition holds. -/
def noteWhen (condition : Bool) (mishap : Mishap) : Act World ε Unit :=
  .when condition (.modify fun world => world.note mishap)

/-- Record a mishap if the action fails. -/
def noteOnError (mishap : Mishap) (action : Act World ε α) : Act World ε α := do
  match ← Act.attempt action with
  | .ok value => return value
  | .error error =>
    noteWhen true mishap
    .throw error

/-- `fs::read` of a source file. -/
def readSource (path : Path) : Act World ε (Option Bytes) := do
  let tick ← tick
  let content ← Act.gets fun world => world.sources path
  return if tick.fault then none else content

/-- `request_cancelled`. -/
def requestCancelled : Act World ε Bool := do
  let _ ← tick
  .gets fun world => world.signal.isCancelled

/-- `commit_request`: false exactly when a cancellation won. -/
def commitRequest : Act World ε Bool := do
  let _ ← tick
  let cancelled ← Act.gets fun world => world.signal.isCancelled
  .when (!cancelled) (.modify fun world => { world with signal := .committed })
  return !cancelled

/-- `reject_cancelled`. -/
def rejectCancelled : EngineM Unit := do
  let cancelled ← requestCancelled
  .ensure (!cancelled) (.new .requestCancelled "request cancelled")

/-- `commit_or_cancelled`. -/
def commitOrCancelled : EngineM Unit := do
  let committed ← commitRequest
  .ensure committed (.new .requestCancelled "request cancelled")

end RocqMcp
