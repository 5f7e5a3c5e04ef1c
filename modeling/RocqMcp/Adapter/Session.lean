import RocqMcp.Adapter.Arguments
import RocqMcp.Engine.Publication

/-! What the tools share: the coordination of Dune builds with the PET epoch of
a project, and the lazy replay and the retirement of a proof. -/

namespace RocqMcp

open Library

/-- A closed connection retains states of the project. -/
def World.waiting (world : World) (project : ProjectId) : Bool :=
  (List.range world.connections).any fun session =>
    world.closing session && world.attachedTo project session &&
      (world.selections session).checkpoints.states ≠ []

/-- `invalidate_project_states`: the calling session and every session attached
to the project forget their PET states. `Weak::upgrade` no longer finds the cell
of a closed connection. -/
def World.invalidateProjectStates (world : World) (project : ProjectId) (session : SessionId) :
    World :=
  { world with
    selections := fun other =>
      let selection := world.selections other
      if other = session || (world.attachedTo project other && !world.closing other) then
        { selection with checkpoints := selection.checkpoints.invalidateStates }
      else selection
    ghost := { world.ghost with
      mishaps := (if world.waiting project then [.boundaryMissed project] else []) ++
        world.ghost.mishaps } }

/-- A recorded fingerprint of the project has changed at or after a time. -/
def World.changedSince (world : World) (project : ProjectId) (time : Nat) : Bool :=
  (world.ghost.changed project).any fun change => time ≤ change.at'

namespace Adapter

def checkpointError : CheckpointError → Error
  | .noActiveProof => .new .invalidRequest "call prove first"
  | .activeProof => .new .invalidConfiguration "active proof was not retired before replacement"
  | .unknown => .new .invalidRequest "checkpoint is not active"
  | .tooFar => .new .invalidRequest "rewind exceeds available check history"
  | .exhausted => .new .invalidConfiguration "checkpoint identifier space is exhausted"

def ofBook : Except CheckpointError α → EngineM α
  | .ok value => return value
  | .error error => .throw (checkpointError error)

/-- A checkpoint that is being replayed: its new state and view. -/
structure Staged where
  id : CheckpointId
  state : PetStateId
  view : ProofState
  goalsNextOffset : Option Nat

def Staged.of (id : CheckpointId) (state : PetStateId) (view : ProofState) : Staged :=
  let bounded := boundedCheckpointView view
  { id, state, view := bounded.1, goalsNextOffset := bounded.2 }

/-- The replayed node: its text is the old one. -/
def Staged.install (staged : List Staged) (id : CheckpointId) (node : Checkpoint) : Checkpoint :=
  match staged.find? fun entry => entry.id = id with
  | none => node
  | some entry =>
    { node with
      petState := some entry.state
      view := entry.view
      goalsNextOffset := entry.goalsNextOffset }

theorem Staged.install_edge (staged : List Staged) (id : CheckpointId) (node : Checkpoint) :
    (Staged.install staged id node).edge = node.edge := by
  unfold Staged.install
  split <;> rfl

theorem Staged.install_finished (staged : List Staged) (id : CheckpointId) (node : Checkpoint) :
    (Staged.install staged id node).finished = node.finished := by
  unfold Staged.install
  split <;> rfl

/-- The states that the replayed ones replace. -/
def Staged.replaced (staged : List Staged) (book : CheckpointBook) : List PetStateId :=
  staged.filterMap fun entry =>
    match book.lookup entry.id with
    | .ok node => node.petState
    | .error _ => none

section

variable (project : ProjectId) (session : SessionId)

def book : Act World ε CheckpointBook := .gets fun world => (world.selections session).checkpoints

def setBook (book : CheckpointBook) : Act World ε Unit :=
  .modify fun world => world.setCheckpoints session book

def recordSubmission (submission : Submission) : Act World ε Unit :=
  .modify fun world => world.recordSubmission submission

def activeProof : EngineM ProofSession := do
  let book ← book session
  Act.ofExcept (require "call prove first" book.proof)

def invalidateProjectStates : Act World ε Unit :=
  .modify fun world => world.invalidateProjectStates project session

def release (states : List PetStateId) : EngineM Unit :=
  Act.mapError petReleaseError (PetActor.releaseStates project states)

/-- `record_artifact`. -/
def recordArtifact (file : FileId) (fingerprint : ArtifactFingerprint) : Act World ε Unit :=
  .modify fun world =>
    let runtime := world.projects project
    let recorded := world.setRuntime project
      { runtime with artifacts := Function.update runtime.artifacts file (some fingerprint) }
    if (runtime.artifacts file).any fun previous => previous ≠ fingerprint then
      recorded.recordChange project
    else recorded

def forgetArtifact (file : FileId) : Act World ε Unit :=
  .modify fun world =>
    let runtime := world.projects project
    world.setRuntime project
      { runtime with artifacts := Function.update runtime.artifacts file none }

def clearArtifacts : Act World ε Unit :=
  .modify fun world =>
    world.setRuntime project { world.projects project with artifacts := fun _ => none }

/-- A project epoch boundary: no state of the project survives it. -/
def epochBoundary : Act World ε Unit := do
  PetActor.restart project
  invalidateProjectStates project session

/-- Whether a build has changed what PET may have loaded: the recorded artifacts,
or the ones on disk where none are recorded. -/
def buildChanged (cached : Option ArtifactFingerprint) (before built : ArtifactFingerprint) : Bool :=
  match cached with
  | some previous => previous ≠ built
  | none => (before.vo.isSome || before.glob.isSome) && before ≠ built

/-- Build one consumer; the result tells whether PET has to be restarted.
`mark` is the start of the loop, and serves the records only. -/
def reconcileFile (mark : Nat) (file : FileId) : EngineM Bool := do
  rejectCancelled
  let skipping ← Act.gets fun world => world.changedSince project mark
  let fingerprint ← Act.attempt (Engine.artifactFingerprint project file)
  noteWhen (skipping && !fingerprint.isOk) (.boundarySkipped project)
  let before ← Act.ofExcept fingerprint
  let cached ← Act.gets fun world => (world.projects project).artifacts file
  match ← Act.attempt (Engine.reconcileSource project file) with
  | .error error =>
    -- A failed build can still have replaced an intermediate artifact.
    forgetArtifact project file
    epochBoundary project session
    .throw error
  | .ok built =>
    recordArtifact project file built
    return buildChanged cached before built

def reconcileFiles (mark : Nat) (boundary : Bool) : List FileId → EngineM Bool
  | [] => return boundary
  | file :: rest => do
    let changed ← reconcileFile project session mark file
    reconcileFiles mark (boundary || changed) rest

/-- Build a set of consumers, then perform at most one PET epoch transition. -/
def reconcileArtifacts (files : List FileId) : EngineM Unit := do
  let mark ← Act.gets World.now
  let boundary ← reconcileFiles project session mark false files.eraseDups
  Act.when boundary (epochBoundary project session)

def reconcileArtifact (file : FileId) : EngineM Unit := reconcileArtifacts project session [file]

def releaseStaged (staged : List Staged) : EngineM Unit :=
  release project (staged.map Staged.state)

/-- Replay one checkpoint after its parent. -/
def replayStep (target : DeclarationTarget) (state : PetStateId) (staged : List Staged)
    (id : CheckpointId) (checkpoint : Checkpoint) : EngineM Staged := do
  let input ← Act.ofExcept (match checkpoint.acceptedInput with
    | some input => .ok input
    | none => .error (.new .invalidConfiguration "non-root checkpoint has no accepted input"))
  match ← Act.attempt (Engine.run project target state input none) with
  | .error error =>
    -- An error that ends the epoch has discarded the staged states already.
    Act.when (!error.kind.invalidatesPetEpoch) (releaseStaged project staged)
    .throw error
  | .ok step =>
    if step.finished ≠ checkpoint.finished then
      release project (staged.map Staged.state ++ [step.state])
      .throw (.new .declarationChanged "proof completion changed while restoring the checkpoint")
    else
      let view :=
        if checkpoint.view.structuredGoals.isSome then step.view
        else { step.view with structuredGoals := none }
      return Staged.of id step.state view

/-- Replay the rest of a path; the result ends with the last checkpoint. -/
def replaySteps (target : DeclarationTarget) (state : PetStateId) (staged : List Staged) :
    List (CheckpointId × Checkpoint) → EngineM (PetStateId × List Staged)
  | [] => return (state, staged)
  | (id, checkpoint) :: rest => do
    let step ← replayStep project target state staged id checkpoint
    replaySteps target step.state (staged ++ [step]) rest

/-- Replay the root of a proof. -/
def replayRoot (target : DeclarationTarget) (id : CheckpointId) (root : Checkpoint) :
    EngineM Staged := do
  let opened ← Engine.replayRoot project target
  if opened.finished ≠ root.finished then
    release project [opened.state]
    .throw (.new .declarationChanged
      "proof completion changed while restoring the initial checkpoint")
  else return Staged.of id opened.state opened.view

/-- Replay the checkpoints of a path from the first one without a state. -/
def replayMissing (target : DeclarationTarget) (retained : Option PetStateId)
    (missing : List (CheckpointId × Checkpoint)) : EngineM (PetStateId × List Staged) :=
  match retained, missing with
  | some state, missing => replaySteps project target state [] missing
  | none, (id, root) :: rest => do
    let opened ← replayRoot project target id root
    replaySteps project target opened.state [opened] rest
  | none, [] => .throw (checkpointError .unknown)

/-- Store the replayed states and release the ones they replace. The records
come from the same book, so that no checkpoint can have disappeared. -/
def installStaged (staged : List Staged) : EngineM Unit := do
  let book ← book session
  setBook session (book.mapNodes (Staged.install staged) (Staged.install_edge staged))
  release project (Staged.replaced staged book)

/-- Lazily rebuild the missing suffix of one root-to-checkpoint path. -/
def replayCheckpoint (target : CheckpointId) : EngineM PetStateId := do
  let book ← book session
  let records ← ofBook (book.records target)
  let retained := records.takeWhile fun record => record.2.petState.isSome
  let missing := records.dropWhile fun record => record.2.petState.isSome
  let last := retained.getLast?.bind fun record => record.2.petState
  let proof ← activeProof session
  let replayed ← replayMissing project proof.target last missing
  installStaged project session replayed.2
  return replayed.1

def ensureCurrentState : EngineM (CheckpointId × PetStateId) := do
  let book ← book session
  let current ← ofBook book.current
  match current.2.petState with
  | some state => return (current.1, state)
  | none =>
    let state ← replayCheckpoint project session current.1
    return (current.1, state)

def clearBook : Act World ε Unit := do
  let book ← book session
  setBook session book.clear

/-- Retire the selected proof. The result is true only when the release
discovered that the complete PET epoch was already lost. -/
def retireProof : EngineM Bool := do
  let book ← book session
  match ← Act.attempt (PetActor.releaseStates project book.states) with
  | .error error =>
    if error.isTransportLoss then
      clearBook session
      return true
    else .throw (petReleaseError error)
  | .ok () =>
    clearBook session
    return false

def stateResponse (id : CheckpointId) (node : Checkpoint) : Response :=
  .state
    { state := node.view
      checkpoint := some id
      retainedNextOffset := node.goalsNextOffset
      structured := false }

def beginProof (opened : OpenedProof) : EngineM Response := do
  let view := boundedCheckpointView opened.view
  commitOrCancelled
  let book ← book session
  match book.begin opened.target opened.state opened.finished view.1 view.2 with
  | (.error error, _) =>
    release project [opened.state]
    .throw (checkpointError error)
  | (.ok checkpoint, book) =>
    setBook session book
    let node ← ofBook (book.lookup checkpoint)
    return stateResponse checkpoint node

def rejectActiveProof (operation : String) : EngineM Unit := do
  let book ← book session
  Act.ensure book.proof.isNone
    (.new .invalidRequest ("abandon the active proof before calling " ++ operation))

end

end Adapter

end RocqMcp
