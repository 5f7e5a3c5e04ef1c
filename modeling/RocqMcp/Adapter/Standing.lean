import RocqMcp.Adapter.Boundary
import RocqMcp.Engine.Records

/-! What a client may know of its session: the project, the last id that was
handed out, and the tree of its proof. The states and the views of the
checkpoints are a cache of the server, and no operation but five tools changes
where a session stands. -/

namespace RocqMcp

open Library

/-- A proof without its PET states and views. -/
structure ProofTree where
  target : DeclarationTarget
  current : CheckpointId
  /-- Every checkpoint with its parent, its input and whether it is finished. -/
  nodes : List (CheckpointId × (Option CheckpointId × Option String) × Bool)
  deriving DecidableEq

structure Standing where
  project : Option ProjectId
  last : CheckpointId
  tree : Option ProofTree
  deriving DecidableEq

/-- What a tool may do to the standing of its session. -/
inductive ProofAction where
  | attach (project : ProjectId)
  | leave
  | open' (target : DeclarationTarget) (finished : Bool)
  | grow (input : String) (finished : Bool)
  | move (id : CheckpointId)
  | retire
  deriving DecidableEq

namespace ProofTree

def root (target : DeclarationTarget) (id : CheckpointId) (finished : Bool) : ProofTree where
  target := target
  current := id
  nodes := [(id, (none, none), finished)]

/-- A child of the selected checkpoint, which is selected. -/
def grow (tree : ProofTree) (id : CheckpointId) (input : String) (finished : Bool) : ProofTree where
  target := tree.target
  current := id
  nodes := tree.nodes ++ [(id, (some tree.current, some input), finished)]

def ids (tree : ProofTree) : List CheckpointId := tree.nodes.map Prod.fst

end ProofTree

namespace Standing

def act (standing : Standing) : ProofAction → Option Standing
  | .attach project => some { standing with project := some project }
  | .leave => some { standing with project := none }
  | .open' target finished =>
    if standing.tree.isNone then
      some { standing with
        last := standing.last + 1
        tree := some (.root target (standing.last + 1) finished) }
    else none
  | .grow input finished =>
    standing.tree.map fun tree =>
      { standing with
        last := standing.last + 1
        tree := some (tree.grow (standing.last + 1) input finished) }
  | .move id =>
    match standing.tree with
    | none => none
    | some tree =>
      if id ∈ tree.ids then some { standing with tree := some { tree with current := id } } else none
  | .retire => some { standing with tree := none }

def run (standing : Standing) (actions : List ProofAction) : Option Standing :=
  actions.foldlM act standing

/-- The checkpoint that is selected. -/
def current (standing : Standing) : Option CheckpointId := standing.tree.map ProofTree.current

end Standing

def ProofSession.tree (proof : ProofSession) : ProofTree where
  target := proof.target
  current := proof.current
  nodes := proof.checkpoints.map fun entry => (entry.1, entry.2.edge, entry.2.finished)

def CheckpointBook.tree (book : CheckpointBook) : Option ProofTree :=
  book.proof.map ProofSession.tree

def Selection.standing (selection : Selection) : Standing where
  project := selection.project
  last := selection.checkpoints.next
  tree := selection.checkpoints.tree

def World.standing (world : World) (session : SessionId) : Standing :=
  (world.selections session).standing

theorem ProofSession.tree_ids (proof : ProofSession) : proof.tree.ids = proof.ids := by
  simp [tree, ProofTree.ids, ids, Function.comp_def]

theorem ProofSession.tree_topology (proof : ProofSession) :
    proof.tree = ⟨proof.topology.1, proof.topology.2.1, proof.topology.2.2⟩ := rfl

theorem CheckpointBook.mapNodes_tree (book : CheckpointBook)
    (change : CheckpointId → Checkpoint → Checkpoint)
    (edges : ∀ id node, (change id node).edge = node.edge)
    (finished : ∀ id node, (change id node).finished = node.finished) :
    (book.mapNodes change edges).tree = book.tree := by
  simp only [tree, mapNodes, Option.map_map]
  congr 1
  funext proof
  simp only [Function.comp_apply, ProofSession.tree_topology,
    proof.mapNodes_topology change edges finished]

theorem CheckpointBook.invalidateStates_tree (book : CheckpointBook) :
    book.invalidateStates.tree = book.tree :=
  book.mapNodes_tree _ _ fun _ _ => rfl

/-- No session stands elsewhere than before. -/
def Still (before after : World) : Prop := after.standing = before.standing

instance : IsPreorder World Still where
  refl _ := rfl
  trans _ _ _ first second := Eq.trans second first

theorem Spares.still {before after : World} (spares : Spares before after) : Still before after := by
  funext session
  rw [World.standing, spares.selections, World.standing]

namespace World

variable {world : World}

theorem standing_setCheckpoints (world : World) (session : SessionId) (book : CheckpointBook) :
    (world.setCheckpoints session book).standing =
      Function.update world.standing session
        { project := (world.selections session).project, last := book.next, tree := book.tree } := by
  funext other
  by_cases same : other = session
  · subst same
    simp [standing, Selection.standing, setCheckpoints, setSelection]
  · simp [standing, setCheckpoints, setSelection, same]

/-- A book of the same tree makes no difference. -/
theorem still_setCheckpoints (world : World) (session : SessionId) {book : CheckpointBook}
    (last : book.next = (world.selections session).checkpoints.next)
    (tree : book.tree = (world.selections session).checkpoints.tree) :
    Still world (world.setCheckpoints session book) := by
  rw [Still, standing_setCheckpoints, last, tree]
  exact Function.update_eq_self session world.standing

theorem still_invalidated (world : World) (project : ProjectId) (session : SessionId) :
    Still world (world.invalidateProjectStates project session) := by
  funext other
  simp only [standing, Selection.standing, invalidateProjectStates]
  split
  · rw [CheckpointBook.invalidateStates_tree]
    rfl
  · rfl

end World

/-- What an operation may do to the caches of the server stays within the relation. -/
class Caches (relation : World → World → Prop) : Prop extends Frames relation where
  shelve : ∀ world session book, book.next = (World.selections world session).checkpoints.next →
    book.tree = (World.selections world session).checkpoints.tree →
      relation world (World.setCheckpoints world session book)
  invalidate : ∀ world project session,
    relation world (World.invalidateProjectStates world project session)

instance : Caches Still where
  idle _ _ idle := idle.spares.still
  setRuntime _ _ _ := rfl
  record _ _ := rfl
  recordTurn _ _ := rfl
  recordChange _ _ := rfl
  recordSplice _ _ := rfl
  shelve world session _ last tree := world.still_setCheckpoints session last tree
  invalidate world project session := world.still_invalidated project session

theorem still_writes (path : Path) : Writeback.Writes Still path := fun _ _ => rfl

/-- A request that has committed stays so. -/
def StaysCommitted (before after : World) : Prop :=
  before.signal = .committed → after.signal = .committed

instance : IsPreorder World StaysCommitted where
  refl _ := id
  trans _ _ _ first second := second ∘ first

instance : Caches StaysCommitted where
  idle _ _ idle := idle.committed
  setRuntime _ _ _ := id
  record _ _ := id
  recordTurn _ _ := id
  recordChange _ _ := id
  recordSplice _ _ := id
  shelve _ _ _ _ _ := id
  invalidate _ _ _ := id

namespace Adapter

section

variable {relation : World → World → Prop} [Caches relation] (project : ProjectId)
  (session : SessionId)

theorem activeProof_cached : Stays relation (activeProof session) :=
  .bind (.gets _) fun _ => .ofExcept _

theorem ofBook_cached (result : Except CheckpointError α) : Stays relation (ofBook result) := by
  cases result with
  | ok value => exact .pure value
  | error error => exact .throw _

theorem invalidateProjectStates_cached :
    Stays relation (invalidateProjectStates project session : Act World ε Unit) :=
  .modify fun world => Caches.invalidate world project session

theorem release_cached (states : List PetStateId) : Stays relation (release project states) :=
  .mapError (PetActor.releaseStates_framed project states)

theorem recordArtifact_cached (file : FileId) (fingerprint : ArtifactFingerprint) :
    Stays relation (recordArtifact project file fingerprint : Act World ε Unit) := by
  refine .modify fun world => ?_
  dsimp only
  split
  · exact trans_of relation (Frames.setRuntime world project _) (Frames.recordChange _ project)
  · exact Frames.setRuntime world project _

theorem forgetArtifact_cached (file : FileId) :
    Stays relation (forgetArtifact project file : Act World ε Unit) :=
  .modify fun world => Frames.setRuntime world project _

theorem epochBoundary_cached : Stays relation (epochBoundary project session : Act World ε Unit) :=
  .bind (PetActor.restart_framed project) fun _ =>
    invalidateProjectStates_cached project session

theorem reconcileFile_cached (mark : Nat) (file : FileId) :
    Stays relation (reconcileFile project session mark file) := by
  refine .bind (framed rejectCancelled_idle) fun _ => .bind (.gets _) fun _ =>
    .bind (.attempt (framed (Engine.artifactFingerprint_idle project file))) fun _ =>
    .bind (framed (noteWhen_idle _ _)) fun _ => .bind (.ofExcept _) fun _ => .bind (.gets _) fun _ =>
    .bind (.attempt (framed (Engine.reconcileSource_idle project file))) fun result => ?_
  cases result with
  | error error =>
    exact .bind (forgetArtifact_cached project file) fun _ =>
      .bind (epochBoundary_cached project session) fun _ => .throw error
  | ok built => exact .bind (recordArtifact_cached project file built) fun _ => .pure _

theorem reconcileFiles_cached (mark : Nat) (boundary : Bool) (files : List FileId) :
    Stays relation (reconcileFiles project session mark boundary files) := by
  induction files generalizing boundary with
  | nil => exact .pure boundary
  | cons file rest ih => exact .bind (reconcileFile_cached project session mark file) fun _ => ih _

theorem reconcileArtifacts_cached (files : List FileId) :
    Stays relation (reconcileArtifacts project session files) :=
  .bind (.gets _) fun mark => .bind (reconcileFiles_cached project session mark false _) fun _ =>
    .when _ (epochBoundary_cached project session)

theorem reconcileArtifact_cached (file : FileId) :
    Stays relation (reconcileArtifact project session file) :=
  reconcileArtifacts_cached project session [file]

/-! ### Replay -/

theorem replayStep_cached (target : DeclarationTarget) (state : PetStateId) (staged : List Staged)
    (id : CheckpointId) (checkpoint : Checkpoint) :
    Stays relation (replayStep project target state staged id checkpoint) := by
  refine .bind (.ofExcept _) fun input =>
    .bind (.attempt (Engine.run_framed project target state input none)) fun result => ?_
  cases result with
  | error error =>
    exact .bind (.when _ (release_cached project _)) fun _ => .throw error
  | ok step =>
    exact .ite (fun _ => .bind (release_cached project _) fun _ => .throw _) fun _ => .pure _

theorem replaySteps_cached (target : DeclarationTarget) (state : PetStateId) (staged : List Staged)
    (records : List (CheckpointId × Checkpoint)) :
    Stays relation (replaySteps project target state staged records) := by
  induction records generalizing state staged with
  | nil => exact .pure _
  | cons record rest ih =>
    exact .bind (replayStep_cached project target state staged record.1 record.2) fun _ => ih _ _

theorem replayRoot_cached (target : DeclarationTarget) (id : CheckpointId) (root : Checkpoint) :
    Stays relation (replayRoot project target id root) :=
  .bind (Engine.replayRoot_framed project target) fun _ =>
    .ite (fun _ => .bind (release_cached project _) fun _ => .throw _) fun _ => .pure _

theorem replayMissing_cached (target : DeclarationTarget) (retained : Option PetStateId)
    (missing : List (CheckpointId × Checkpoint)) :
    Stays relation (replayMissing project target retained missing) := by
  cases retained with
  | some state => exact replaySteps_cached project target state [] missing
  | none =>
    cases missing with
    | nil => exact .throw _
    | cons record rest =>
      exact .bind (replayRoot_cached project target record.1 record.2) fun _ =>
        replaySteps_cached project target _ _ rest

/-- The replayed states take the place of the lost ones. -/
theorem installStaged_cached (staged : List Staged) :
    Stays relation (installStaged project session staged) := by
  intro world
  have installed : relation world (world.setCheckpoints session
      ((world.selections session).checkpoints.mapNodes (Staged.install staged)
        (Staged.install_edge staged))) :=
    Caches.shelve world session _ rfl
      (CheckpointBook.mapNodes_tree _ _ _ (Staged.install_finished staged))
  exact trans_of relation installed (release_cached project _ _)

theorem replayCheckpoint_cached (target : CheckpointId) :
    Stays relation (replayCheckpoint project session target) :=
  .bind (.gets _) fun _ => .bind (ofBook_cached _) fun _ => .bind (activeProof_cached session) fun _ =>
    .bind (replayMissing_cached project _ _ _) fun _ =>
    .bind (installStaged_cached project session _) fun _ => .pure _

theorem ensureCurrentState_cached : Stays relation (ensureCurrentState project session) := by
  refine .bind (.gets _) fun _ => .bind (ofBook_cached _) fun current => ?_
  split
  · exact .pure _
  · exact .bind (replayCheckpoint_cached project session _) fun _ => .pure _

theorem restoreCheckpoint_cached (target : CheckpointId) :
    Stays relation (restoreCheckpoint project session target) :=
  .bind (.gets _) fun _ => .bind (ofBook_cached _) fun _ =>
    .ite (fun _ => .bind (replayCheckpoint_cached project session target) fun _ => .pure ())
      fun _ => .pure ()

/-! ### Attempts -/

theorem enterProof_cached (arguments : AttemptArguments) :
    Stays relation (enterProof project session arguments) :=
  .bind (activeProof_cached session) fun proof =>
    .bind (framed (Engine.validateTarget_idle project proof.target)) fun _ =>
    .bind (reconcileArtifact_cached project session _) fun _ =>
    .bind (ensureCurrentState_cached project session) fun _ =>
    .bind (activeProof_cached session) fun _ =>
    .bind (Engine.goals_framed project _ _ _ _) fun _ => .pure _

theorem evaluate_cached (context : CheckContext) (fragment : String) :
    Stays relation (evaluate project session context fragment) := by
  refine .bind (ensureCurrentState_cached project session) fun current =>
    .bind (.attempt (Engine.runTraced_framed project _ _ _ _ _)) fun result => ?_
  cases result with
  | ok outcome => exact .pure _
  | error error =>
    exact .ite (fun _ => .bind (invalidateProjectStates_cached project session) fun _ => .pure _)
      fun _ => .throw error

theorem tryFragment_cached (context : CheckContext) (fragment : String) :
    Stays relation (tryFragment project session context fragment) := by
  refine .bind (evaluate_cached project session context fragment) fun result => ?_
  split
  · exact .bind (framed rejectCancelled_idle) fun _ => .bind (release_cached project _) fun _ =>
      .pure _
  · exact .pure _
  · exact .pure _

theorem tryEach_cached (context : CheckContext) (fragments : List String) :
    Stays relation (tryEach project session context fragments) := by
  induction fragments with
  | nil => exact .pure []
  | cons fragment rest ih =>
    exact .bind (tryFragment_cached project session context fragment) fun _ => .bind ih fun _ => .pure _

theorem openRuntime_cached (attached : DuneProject) : Stays relation (openRuntime attached) :=
  .bind (framed tick_idle) fun _ => .bind (.gets _) fun _ => .when _
    (.modify fun world => Frames.setRuntime world _ _)

end

theorem admitLayout_cached {relation : World → World → Prop} [Caches relation]
    {project : ProjectId} {session : SessionId} (changed : Bool) :
    Stays relation (admitLayout project session changed) :=
  .when _ <| .bind (.modify fun world => Frames.setRuntime world project _) fun _ =>
    epochBoundary_cached project session

end Adapter

end RocqMcp
