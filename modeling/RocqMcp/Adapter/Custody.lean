import Mathlib.Data.List.Perm.Basic
import RocqMcp.Adapter.Lineage
import RocqMcp.Adapter.Session
import RocqMcp.Engine.Admission
import RocqMcp.Engine.Provenance

/-! Who holds the exported states between two operations of the engine: the
checkpoints of the sessions, and the temporary states of the running request. -/

namespace RocqMcp

open Library

/-- Everything that a client can observe of a proof's checkpoints, without the
PET states and the cached views. -/
def ProofSession.topology (proof : ProofSession) :=
  (proof.target, proof.current,
    proof.checkpoints.map fun entry => (entry.1, entry.2.edge, entry.2.finished))

def CheckpointBook.topology (book : CheckpointBook) := book.proof.map ProofSession.topology

/-- Since then, only other programs have written source files. -/
def World.Unwritten (before after : World) : Prop :=
  ∃ writes, after.journal = writes ++ before.journal ∧ ∀ write ∈ writes, write.author = .external

/-- The attachments, the topology and the source files are as before, up to
writes of other programs. -/
structure Untouched (before after : World) : Prop where
  attached : ∀ session, (after.selections session).project = (before.selections session).project
  topology : ∀ session, (after.selections session).checkpoints.topology =
    (before.selections session).checkpoints.topology
  written : World.Unwritten before after

/-- The bytes to which ranges were applied have the digest of the anchor, and
so has the document on which PET computed them. -/
def Splice.Faithful (splice : Splice) (world : World) : Prop :=
  world.digest splice.original = splice.anchor.digest ∧
    (world.digest splice.anchor.document = splice.anchor.digest ∨
      world.Suffered (.staleDocument splice.anchor.source))

/-- A checkpoint with a PET state has a parent with one: the states reach up to
the root. -/
def ProofSession.Live (proof : ProofSession) : Prop :=
  ∀ id node, proof.get? id = some node → node.petState.isSome →
    ∀ parent ∈ node.parent, ∃ above, proof.get? parent = some above ∧ above.petState.isSome

/-- PET has made every state where its checkpoint is: at the root of the proof,
or with the accepted input from the state of the parent. -/
def ProofSession.Derived (proof : ProofSession) (world : World) : Prop :=
  ∀ id node state, proof.get? id = some node → node.petState = some state →
    (node.parent = none → proof.target.RootAt world state node.finished) ∧
      ∀ parent ∈ node.parent, ∃ above source input,
        proof.get? parent = some above ∧ above.petState = some source ∧
          node.acceptedInput = some input ∧ world.Ran source input state node.finished

theorem ProofSession.Derived.live {proof : ProofSession} {world : World}
    (derived : proof.Derived world) : proof.Live := by
  intro id node found alive parent isParent
  obtain ⟨state, held⟩ := Option.isSome_iff_exists.mp alive
  obtain ⟨above, source, _, found', held', _⟩ := (derived id node state found held).2 parent isParent
  exact ⟨above, found', by rw [held']; rfl⟩

/-- The target is coherent, all views are views of an open proof, and all PET
states are derived from the root. -/
structure ProofSession.Sound (proof : ProofSession) (world : World) : Prop where
  coherent : proof.target.Coherent world
  views : ∀ entry ∈ proof.checkpoints, entry.2.view.lifecycle = .open'
  derived : proof.Derived world

theorem ProofSession.Sound.live {proof : ProofSession} {world : World} (sound : proof.Sound world) :
    proof.Live :=
  sound.derived.live

/-- The fragments are the accepted inputs on the way from the root to the
selected checkpoint, which is the one of the winner. -/
def Submission.Linear (submission : Submission) : Prop :=
  ∃ proof records, submission.book.proof = some proof ∧
    submission.book.PathTo proof.current records ∧
    submission.fragments = records.filterMap (fun record => record.2.acceptedInput) ∧
    submission.fragments.getLast? = some submission.winner

structure Consistent (world : World) : Prop where
  proofs : ∀ session, ∀ proof ∈ (world.selections session).checkpoints.proof, proof.Sound world
  spliced : ∀ splice ∈ world.ghost.splices, splice.Faithful world
  submitted : ∀ submission ∈ world.ghost.submissions, submission.Linear
  unattached : ∀ session, (world.selections session).project = none →
    (world.selections session).checkpoints.states = []

/-- What a request on a project keeps, whatever becomes of the project's PET:
the other projects account for what their sessions hold. -/
structure Adrift (project : ProjectId) (world : World) : Prop where
  consistent : Consistent world
  begun : world.ghost.began ≤ world.now
  others : ∀ other, other ≠ project → Owned other (world.held other) world
  bounded : ¬ world.Bypassed project → ∀ change ∈ world.ghost.changed project,
    change.began ≤ world.now ∧ change.at' ≤ world.now

/-- Every project accounts for what its sessions hold, and the running request
for the temporary states. -/
structure Serving (project : ProjectId) (temps : List PetStateId) (world : World) : Prop
    extends Adrift project world where
  owned : Owned project (temps ++ world.held project) world

/-- The error makes the end of the request forget all states: it says that the
request was cancelled, or that the process is gone. -/
def Ending (project : ProjectId) (error : Error) (world : World) : Prop :=
  error.kind = .requestCancelled ∨
    (error.kind.invalidatesPetEpoch = true ∧ world.process project = none)

/-- A failed operation has left the temporary states, or the error ends all states. -/
def Stranded (project : ProjectId) (temps : List PetStateId) (error : Error) (world : World) : Prop :=
  (Serving project temps world ∧ error.Mild) ∨ (Adrift project world ∧ Ending project error world)

/-- The session that a request runs for. -/
structure Own (project : ProjectId) (session : SessionId) (world : World) : Prop where
  attached : world.attachedTo project session = true
  used : session < world.connections

/-- The book is the same, or has lost its PET states. -/
def CheckpointBook.Forgets (before after : CheckpointBook) : Prop :=
  after = before ∨ after = before.invalidateStates

/-- What a request of a session on a project leaves alone: the other projects,
the sessions elsewhere, and all but the states of the project's other sessions. -/
structure Within (project : ProjectId) (session : SessionId) (start world : World) : Prop where
  connections : world.connections = start.connections
  others : ∀ other, other ≠ project → world.projects other = start.projects other
  attached : ∀ other, (world.selections other).project = (start.selections other).project
  elsewhere : ∀ other, other ≠ session → start.attachedTo project other = false →
    (world.selections other).checkpoints = (start.selections other).checkpoints
  siblings : ∀ other, other ≠ session →
    (start.selections other).checkpoints.Forgets (world.selections other).checkpoints
  grown : (start.selections session).checkpoints.Grows (world.selections session).checkpoints

/-- The session that a request runs for is attached to the project, and the
request stays within what it may touch. -/
structure Bound (project : ProjectId) (session : SessionId) (start world : World) : Prop where
  own : Own project session world
  within : Within project session start world

/-- The request has changed nothing that a client can observe. -/
structure Unseen (project : ProjectId) (session : SessionId) (start world : World) : Prop
    extends Bound project session start world where
  untouched : Untouched start world

structure Clean (project : ProjectId) (session : SessionId) (start : World)
    (temps : List PetStateId) (world : World) : Prop
    extends Serving project temps world, Unseen project session start world

structure Failing (project : ProjectId) (session : SessionId) (start : World)
    (temps : List PetStateId) (error : Error) (world : World) : Prop
    extends Unseen project session start world where
  stranded : Stranded project temps error world

namespace World

/-- What the sessions of a project hold depends on their attachment and their
books only. -/
theorem held_congr {world after : World} {project : ProjectId}
    (connections : after.connections = world.connections)
    (attached : ∀ session, after.attachedTo project session = world.attachedTo project session)
    (books : ∀ session, world.attachedTo project session = true →
      (after.selections session).checkpoints.states =
        (world.selections session).checkpoints.states) :
    after.held project = world.held project := by
  have same : after.attachedTo project = world.attachedTo project := funext attached
  unfold held
  rw [connections, same]
  apply List.flatMap_congr
  intro session member
  exact books session (List.mem_filter.mp member).2

theorem held_selections {world after : World} (project : ProjectId)
    (connections : after.connections = world.connections)
    (selections : after.selections = world.selections) :
    after.held project = world.held project :=
  held_congr connections (fun _ => by rw [attachedTo, selections, attachedTo])
    fun _ _ => by rw [selections]

/-- Nobody holds a state of the project, unless a closed connection was missed. -/
def Forgotten (world : World) (project : ProjectId) : Prop :=
  world.held project = [] ∨ world.Suffered (.boundaryMissed project)

/-- What the other sessions of a project hold. -/
def heldByOthers (world : World) (project : ProjectId) (session : SessionId) : List PetStateId :=
  (((List.range world.connections).filter (world.attachedTo project)).filter (· != session)).flatMap
    fun other => (world.selections other).checkpoints.states

theorem heldByOthers_congr {world after : World} {project : ProjectId} {session : SessionId}
    (connections : after.connections = world.connections)
    (selections : after.selections = world.selections) :
    after.heldByOthers project session = world.heldByOthers project session := by
  have same : after.attachedTo project = world.attachedTo project := by
    funext other
    rw [attachedTo, selections, attachedTo]
  rw [heldByOthers, heldByOthers, connections, same, selections]

theorem held_own {world : World} {project : ProjectId} {session : SessionId}
    (own : Own project session world) :
    (world.held project).Perm
      ((world.selections session).checkpoints.states ++ world.heldByOthers project session) := by
  have member : session ∈ (List.range world.connections).filter (world.attachedTo project) :=
    List.mem_filter.mpr ⟨List.mem_range.mpr own.used, own.attached⟩
  have distinct : ((List.range world.connections).filter (world.attachedTo project)).Nodup :=
    List.nodup_range.filter _
  have split := List.perm_cons_erase member
  rw [distinct.erase_eq_filter] at split
  refine (split.flatMap_right _).trans ?_
  rw [List.flatMap_cons]
  exact .refl _

theorem attachedTo_setCheckpoints (world : World) (project : ProjectId) (session other : SessionId)
    (book : CheckpointBook) :
    (world.setCheckpoints session book).attachedTo project other =
      world.attachedTo project other := by
  unfold attachedTo setCheckpoints setSelection
  by_cases same : other = session
  · subst same
    simp
  · simp [Function.update_of_ne same]

/-- Replacing a book replaces what its session holds. -/
theorem held_setCheckpoints {world : World} {project : ProjectId} {session : SessionId}
    (own : Own project session world) (book : CheckpointBook) :
    ((world.setCheckpoints session book).held project).Perm
      (book.states ++ world.heldByOthers project session) := by
  have own' : Own project session (world.setCheckpoints session book) :=
    ⟨(attachedTo_setCheckpoints ..).trans own.attached, own.used⟩
  refine (held_own own').trans ?_
  have others : (world.setCheckpoints session book).heldByOthers project session =
      world.heldByOthers project session := by
    have same : (world.setCheckpoints session book).attachedTo project =
        world.attachedTo project := funext fun other => attachedTo_setCheckpoints ..
    unfold heldByOthers
    rw [same]
    apply List.flatMap_congr
    intro other member
    have different : other ≠ session := by simpa using (List.mem_filter.mp member).2
    simp [setCheckpoints, setSelection, Function.update_of_ne different]
  rw [others]
  simp [setCheckpoints, setSelection]

end World

section

variable {project : ProjectId} {session : SessionId} {start world after : World}
  {temps temps' states : List PetStateId} {live : Bool}

theorem DeclarationTarget.Coherent.framed {target : DeclarationTarget}
    (coherent : target.Coherent world) (environment : after.environment = world.environment)
    (mishaps : ∀ mishap, world.Suffered mishap → after.Suffered mishap) :
    target.Coherent after := by
  rcases coherent with same | noted
  · exact .inl (by rw [World.digest, environment]; exact same)
  · exact .inr (mishaps _ noted)

theorem Splice.Faithful.framed {splice : Splice} (faithful : splice.Faithful world)
    (environment : after.environment = world.environment)
    (mishaps : ∀ mishap, world.Suffered mishap → after.Suffered mishap) :
    splice.Faithful after := by
  obtain ⟨original, same | noted⟩ := faithful
  · exact ⟨by rw [World.digest, environment]; exact original,
      .inl (by rw [World.digest, environment]; exact same)⟩
  · exact ⟨by rw [World.digest, environment]; exact original, .inr (mishaps _ noted)⟩

theorem ProofSession.Derived.later {proof : ProofSession} (derived : proof.Derived world)
    (remembers : Remembers world after) : proof.Derived after := by
  intro id node state found held
  obtain ⟨root, step⟩ := derived id node state found held
  refine ⟨fun isRoot => (root isRoot).later remembers, fun parent isParent => ?_⟩
  obtain ⟨above, source, input, found', held', accepted, ran⟩ := step parent isParent
  exact ⟨above, source, input, found', held', accepted, ran.later remembers⟩

/-- Consistency where books are changed, but no splice is made. -/
theorem Consistent.framed (consistent : Consistent world)
    (environment : after.environment = world.environment)
    (mishaps : ∀ mishap, world.Suffered mishap → after.Suffered mishap)
    (splices : after.ghost.splices = world.ghost.splices)
    (submissions : after.ghost.submissions = world.ghost.submissions)
    (remembers : Remembers world after)
    (proofs : ∀ session, ∀ proof ∈ (after.selections session).checkpoints.proof,
      proof.Sound world)
    (unattached : ∀ session, (after.selections session).project = none →
      (after.selections session).checkpoints.states = []) : Consistent after where
  proofs session proof active :=
    { proofs session proof active with
      coherent := (proofs session proof active).coherent.framed environment mishaps
      derived := (proofs session proof active).derived.later remembers }
  submitted submission member := consistent.submitted submission (submissions ▸ member)
  spliced splice member :=
    (consistent.spliced splice (splices ▸ member)).framed environment mishaps
  unattached := unattached

theorem Consistent.meanwhile (consistent : Consistent world) (meanwhile : Meanwhile world after) :
    Consistent after :=
  consistent.framed meanwhile.environment meanwhile.mishaps meanwhile.splices
    meanwhile.submissions meanwhile.remembers (by rw [meanwhile.selections]; exact consistent.proofs)
    (by rw [meanwhile.selections]; exact consistent.unattached)

theorem Calm.held (calm : Calm project world after) (other : ProjectId) :
    after.held other = world.held other :=
  World.held_selections other calm.connections calm.selections

theorem World.Forgotten.later (forgotten : world.Forgotten project)
    (held : after.held project = world.held project)
    (mishaps : ∀ mishap, world.Suffered mishap → after.Suffered mishap) : after.Forgotten project :=
  forgotten.imp held.trans (mishaps _)

/-- Where nobody holds a state, only the listed ones are to be accounted for. -/
theorem World.Forgotten.owned (forgotten : world.Forgotten project) :
    Owned project (states ++ world.held project) world ↔ Owned project states world := by
  rcases forgotten with nobody | missed
  · rw [nobody, List.append_nil]
  · exact ⟨fun _ => .missed missed, fun _ => .missed missed⟩

theorem Owned.bounded (owned : Owned project states world) :
    ¬ world.Bypassed project → ∀ change ∈ world.ghost.changed project,
      change.began ≤ world.now ∧ change.at' ≤ world.now := by
  intro spared change recorded
  obtain ⟨began, changed, _⟩ := owned.stamped spared change recorded
  exact ⟨began, changed⟩

/-- The account of the other projects, where only one project is touched. -/
theorem Adrift.keepsOthers (adrift : Adrift project world)
    (projects : ∀ other, other ≠ project → after.projects other = world.projects other)
    (held : ∀ other, other ≠ project → after.held other = world.held other)
    (now : world.now ≤ after.now)
    (mishaps : ∀ mishap, world.Suffered mishap → after.Suffered mishap)
    (changed : ∀ other, other ≠ project →
      after.ghost.changed other = world.ghost.changed other) :
    ∀ other, other ≠ project → Owned other (after.held other) after := by
  intro other different
  rw [held other different]
  have same := projects other different
  exact (adrift.others other different).framed (by rw [World.actor, same, World.actor])
    (by rw [World.layout, same, World.layout]) now mishaps (changed other different)

theorem Adrift.calm (adrift : Adrift project world) (calm : Calm project world after) :
    Adrift project after where
  consistent := adrift.consistent.meanwhile calm.toMeanwhile
  begun := calm.began ▸ Nat.le_trans adrift.begun calm.now
  others := adrift.keepsOthers calm.others (fun other _ => calm.held other) calm.now calm.mishaps
    fun _ _ => by rw [calm.changed]
  bounded spared change recorded := by
    rw [calm.changed] at recorded
    obtain ⟨began, changed⟩ :=
      adrift.bounded (fun bypassed => spared (bypassed.mono calm.mishaps)) change recorded
    exact ⟨Nat.le_trans began calm.now, Nat.le_trans changed calm.now⟩

theorem CheckpointBook.invalidateStates_idem (book : CheckpointBook) :
    book.invalidateStates.invalidateStates = book.invalidateStates := by
  obtain ⟨next, proof, bounded⟩ := book
  cases proof with
  | none => rfl
  | some proof => simp [invalidateStates, mapNodes, ProofSession.mapNodes, Function.comp_def]

theorem CheckpointBook.Forgets.trans {first second third : CheckpointBook}
    (early : first.Forgets second) (late : second.Forgets third) : first.Forgets third := by
  rcases late with rfl | rfl
  · exact early
  · rcases early with rfl | rfl
    · exact .inr rfl
    · exact .inr first.invalidateStates_idem

theorem World.attachedTo_congr
    (same : (after.selections session).project = (world.selections session).project)
    (project : ProjectId) : after.attachedTo project session = world.attachedTo project session := by
  rw [attachedTo, same, attachedTo]

theorem Within.refl (world : World) : Within project session world world where
  connections := rfl
  others _ _ := rfl
  attached _ := rfl
  elsewhere _ _ _ := rfl
  siblings _ _ := .inl rfl
  grown := .refl _

theorem Within.trans (first : Within project session start world)
    (second : Within project session world after) : Within project session start after where
  connections := second.connections.trans first.connections
  others other different := (second.others other different).trans (first.others other different)
  attached other := (second.attached other).trans (first.attached other)
  elsewhere other different away :=
    (second.elsewhere other different
      ((World.attachedTo_congr (first.attached other) project).trans away)).trans
        (first.elsewhere other different away)
  siblings other different := (first.siblings other different).trans (second.siblings other different)
  grown := first.grown.trans second.grown

theorem Within.sameSessions (selections : after.selections = world.selections)
    (connections : after.connections = world.connections)
    (others : ∀ other, other ≠ project → after.projects other = world.projects other) :
    Within project session world after where
  connections := connections
  others := others
  attached _ := by rw [selections]
  elsewhere _ _ _ := by rw [selections]
  siblings _ _ := .inl (by rw [selections])
  grown := by rw [selections]; exact .refl _

theorem Bound.step (bound : Bound project session start world)
    (within : Within project session world after) : Bound project session start after where
  own :=
    ⟨(World.attachedTo_congr (within.attached session) project).trans bound.own.attached,
      within.connections ▸ bound.own.used⟩
  within := bound.within.trans within

theorem World.Unwritten.refl (world : World) : World.Unwritten world world :=
  ⟨[], rfl, List.forall_mem_nil _⟩

theorem World.Unwritten.trans (first : World.Unwritten start world)
    (second : World.Unwritten world after) : World.Unwritten start after := by
  obtain ⟨early, grown, external⟩ := first
  obtain ⟨late, grown', external'⟩ := second
  refine ⟨late ++ early, by rw [grown', grown, List.append_assoc], ?_⟩
  intro write member
  rcases List.mem_append.mp member with member | member
  · exact external' write member
  · exact external write member

theorem Untouched.refl (world : World) : Untouched world world :=
  ⟨fun _ => rfl, fun _ => rfl, .refl world⟩

theorem Untouched.trans (first : Untouched start world) (second : Untouched world after) :
    Untouched start after where
  attached session := (second.attached session).trans (first.attached session)
  topology session := (second.topology session).trans (first.topology session)
  written := first.written.trans second.written

theorem Unseen.step (unseen : Unseen project session start world)
    (within : Within project session world after) (untouched : Untouched world after) :
    Unseen project session start after :=
  ⟨unseen.toBound.step within, unseen.untouched.trans untouched⟩

/-- No session, no connection, no source file and no other project is touched by
the server. -/
structure Unobserved (project : ProjectId) (before after : World) : Prop where
  selections : after.selections = before.selections
  connections : after.connections = before.connections
  others : ∀ other, other ≠ project → after.projects other = before.projects other
  journal : ∃ writes, after.journal = writes ++ before.journal ∧
    ∀ write ∈ writes, write.author = .external

theorem Calm.unobserved (calm : Calm project world after) : Unobserved project world after :=
  ⟨calm.selections, calm.connections, calm.others, calm.journal⟩

theorem Unobserved.untouched (unobserved : Unobserved project world after) :
    Untouched world after where
  attached session := by rw [unobserved.selections]
  topology session := by rw [unobserved.selections]
  written := unobserved.journal

theorem Unobserved.within (unobserved : Unobserved project world after) :
    Within project session world after :=
  .sameSessions unobserved.selections unobserved.connections unobserved.others

theorem Bound.calm (bound : Bound project session start world) (calm : Calm project world after) :
    Bound project session start after :=
  bound.step calm.unobserved.within

theorem Unseen.unobserved (unseen : Unseen project session start world)
    (unobserved : Unobserved project world after) : Unseen project session start after :=
  unseen.step unobserved.within unobserved.untouched

theorem Unseen.calm (unseen : Unseen project session start world)
    (calm : Calm project world after) : Unseen project session start after :=
  unseen.unobserved calm.unobserved

theorem Serving.holding (serving : Serving project temps world) :
    ∀ middle, middle = world →
      Holding project world false (temps ++ world.held project) middle := by
  rintro middle rfl
  exact ⟨refl_of (Calm project) middle, nofun, serving.owned⟩

theorem Serving.calm (serving : Serving project temps world)
    (later : Holding project world live (temps' ++ world.held project) after) :
    Serving project temps' after where
  toAdrift := serving.toAdrift.calm later.calm
  owned := by rw [later.calm.held]; exact later.owned

theorem World.selections_setCheckpoints (world : World) (session other : SessionId)
    (book : CheckpointBook) :
    ((world.setCheckpoints session book).selections other).checkpoints =
      if other = session then book else (world.selections other).checkpoints := by
  by_cases same : other = session
  · subst same
    simp [setCheckpoints, setSelection]
  · simp [setCheckpoints, setSelection, same]

theorem World.project_setCheckpoints (world : World) (session other : SessionId)
    (book : CheckpointBook) :
    ((world.setCheckpoints session book).selections other).project =
      (world.selections other).project := by
  by_cases same : other = session
  · subst same
    simp [setCheckpoints, setSelection]
  · simp [setCheckpoints, setSelection, Function.update_of_ne same]

/-- A change of the book of an attached session. -/
theorem Consistent.setBook (consistent : Consistent world)
    (attached : (world.selections session).project ≠ none) {book : CheckpointBook}
    (sound : ∀ proof ∈ book.proof, proof.Sound world) :
    Consistent (world.setCheckpoints session book) := by
  refine consistent.framed rfl (fun _ suffered => suffered) rfl rfl (.of_same rfl) ?_ ?_
  · intro other proof active
    rw [World.selections_setCheckpoints] at active
    split at active
    · exact sound proof active
    · exact consistent.proofs other proof active
  · intro other alone
    rw [World.project_setCheckpoints] at alone
    have different : other ≠ session := by
      rintro rfl
      exact attached alone
    rw [World.selections_setCheckpoints, if_neg different]
    exact consistent.unattached other alone

theorem Own.selected (own : Own project session world) :
    (world.selections session).project = some project := by
  simpa [World.attachedTo] using own.attached

theorem Adrift.setBook (adrift : Adrift project world) (own : Own project session world)
    {book : CheckpointBook} (sound : ∀ proof ∈ book.proof, proof.Sound world) :
    Adrift project (world.setCheckpoints session book) where
  consistent := adrift.consistent.setBook (by simp [own.selected]) sound
  begun := adrift.begun
  others := by
    refine adrift.keepsOthers (fun _ _ => rfl) (fun other different => ?_) (Nat.le_refl _)
      (fun _ suffered => suffered) fun _ _ => rfl
    refine World.held_congr rfl (fun _ => World.attachedTo_setCheckpoints ..) fun other' attached => ?_
    have stranger : other' ≠ session := by
      rintro rfl
      rw [World.attachedTo, own.selected] at attached
      simp only [Option.some.injEq, decide_eq_true_eq] at attached
      exact different attached.symm
    rw [World.selections_setCheckpoints, if_neg stranger]
  bounded := adrift.bounded

/-- States move between the book of the request and its temporary states. -/
theorem Serving.setBook (serving : Serving project temps world) (own : Own project session world)
    {book : CheckpointBook} (sound : ∀ proof ∈ book.proof, proof.Sound world)
    (moved : (temps ++ (world.selections session).checkpoints.states).Perm (temps' ++ book.states)) :
    Serving project temps' (world.setCheckpoints session book) where
  toAdrift := serving.toAdrift.setBook own sound
  owned := by
    have owned := serving.owned.perm ((World.held_own own).append_left temps)
    rw [← List.append_assoc] at owned
    have shifted := owned.perm (moved.append_right _)
    rw [List.append_assoc] at shifted
    refine (shifted.perm ((World.held_setCheckpoints own book).symm.append_left temps')).framed
      rfl rfl (Nat.le_refl _) (fun _ suffered => suffered) rfl

theorem Within.setBook {book : CheckpointBook}
    (grown : (world.selections session).checkpoints.Grows book) :
    Within project session world (world.setCheckpoints session book) where
  connections := rfl
  others _ _ := rfl
  attached _ := World.project_setCheckpoints ..
  elsewhere other different _ := by rw [World.selections_setCheckpoints, if_neg different]
  siblings other different := .inl (by rw [World.selections_setCheckpoints, if_neg different])
  grown := by
    rw [World.selections_setCheckpoints, if_pos rfl]
    exact grown

theorem Untouched.setBook {book : CheckpointBook}
    (same : book.topology = (world.selections session).checkpoints.topology) :
    Untouched world (world.setCheckpoints session book) where
  attached other := World.project_setCheckpoints ..
  topology other := by
    rw [World.selections_setCheckpoints]
    split
    · rename_i here
      rw [same, here]
    · rfl
  written := .refl _

theorem Clean.setBook (clean : Clean project session start temps world) {book : CheckpointBook}
    (sound : ∀ proof ∈ book.proof, proof.Sound world)
    (moved : (temps ++ (world.selections session).checkpoints.states).Perm (temps' ++ book.states))
    (same : book.topology = (world.selections session).checkpoints.topology)
    (grown : (world.selections session).checkpoints.Grows book) :
    Clean project session start temps' (world.setCheckpoints session book) where
  toServing := clean.toServing.setBook clean.own sound moved
  toUnseen := clean.toUnseen.step (.setBook grown) (.setBook same)

theorem Serving.perm (serving : Serving project temps world) (same : temps.Perm temps') :
    Serving project temps' world :=
  { serving with owned := serving.owned.perm (same.append_right _) }

theorem Clean.perm (clean : Clean project session start temps world) (same : temps.Perm temps') :
    Clean project session start temps' world :=
  { clean with toServing := clean.toServing.perm same }

theorem Own.mem_held {state : PetStateId} (own : Own project session world)
    (member : state ∈ (world.selections session).checkpoints.states) : state ∈ world.held project :=
  (World.held_own own).mem_iff.mpr (List.mem_append_left _ member)

/-- An operation of the engine, in the middle of a request. -/
theorem Clean.engine {action : EngineM α} (keeps : World → Prop) (after : α → List PetStateId)
    (post : α → World → Prop) {left : List PetStateId}
    (stable : ∀ world world', Meanwhile world world' → keeps world → keeps world')
    (triple : ∀ middle, keeps middle → Own project session middle →
      Triple (Holding project middle false (temps ++ middle.held project)) action
        (fun value world =>
          Holding project middle false (after value ++ middle.held project) world ∧
            post value world)
        (EngineFails project middle (left ++ middle.held project))) :
    Triple (fun world => Clean project session start temps world ∧ keeps world) action
      (fun value world => Clean project session start (after value) world ∧ post value world ∧
        keeps world)
      (fun error world => Failing project session start left error world ∧ keeps world) := by
  refine .each_state fun middle ⟨clean, kept⟩ => ?_
  refine (triple middle kept clean.own).weaken clean.toServing.holding ?_ ?_
  · intro value world ⟨later, holds⟩
    exact ⟨⟨clean.toServing.calm later, clean.toUnseen.calm later.calm⟩, holds,
      stable _ _ later.calm.toMeanwhile kept⟩
  · rintro error world (⟨later, mild⟩ | ⟨gone, told⟩)
    · exact ⟨⟨clean.toUnseen.calm later.calm, .inl ⟨clean.toServing.calm later, mild⟩⟩,
        stable _ _ later.calm.toMeanwhile kept⟩
    · exact ⟨⟨clean.toUnseen.calm gone.calm,
        .inr ⟨clean.toAdrift.calm gone.calm, .inr ⟨told, gone.absent⟩⟩⟩,
          stable _ _ gone.calm.toMeanwhile kept⟩

/-- An operation of the engine, with a fact that it keeps. -/
theorem Clean.keeping {action : EngineM α} (keeps : World → Prop) (after : α → List PetStateId)
    {left : List PetStateId}
    (stable : ∀ world world', Meanwhile world world' → keeps world → keeps world')
    (triple : ∀ middle, keeps middle → Own project session middle →
      Triple (Holding project middle false (temps ++ middle.held project)) action
        (fun value => Holding project middle false (after value ++ middle.held project))
        (EngineFails project middle (left ++ middle.held project))) :
    Triple (fun world => Clean project session start temps world ∧ keeps world) action
      (fun value world => Clean project session start (after value) world ∧ keeps world)
      (fun error world => Failing project session start left error world ∧ keeps world) :=
  (Clean.engine keeps after (fun _ _ => True) stable fun middle kept own =>
    (triple middle kept own).weaken (fun _ holds => holds)
      (fun _ _ holding => ⟨holding, trivial⟩) fun _ _ fails => fails).weaken
        (fun _ holds => holds) (fun _ _ holds => ⟨holds.1, holds.2.2⟩) fun _ _ fails => fails

theorem Clean.step {action : EngineM α} {after : α → List PetStateId} {left : List PetStateId}
    (triple : ∀ middle, Own project session middle →
      Triple (Holding project middle false (temps ++ middle.held project)) action
        (fun value => Holding project middle false (after value ++ middle.held project))
        (EngineFails project middle (left ++ middle.held project))) :
    Triple (Clean project session start temps) action
      (fun value => Clean project session start (after value))
      (Failing project session start left) :=
  (Clean.keeping (fun _ => True) after (fun _ _ _ holds => holds)
    fun middle _ own => triple middle own).weaken (fun _ clean => ⟨clean, trivial⟩)
      (fun _ _ holds => holds.1) fun _ _ fails => fails.1

/-- An operation that touches no runtime, with a fact that it keeps. -/
theorem Clean.idle_keeping {action : EngineM α} (keeps : World → Prop)
    (stable : ∀ world world', Meanwhile world world' → keeps world → keeps world')
    (stays : Stays Idle action) (throws : Throws Error.Mild action) :
    Triple (fun world => Clean project session start temps world ∧ keeps world) action
      (fun _ world => Clean project session start temps world ∧ keeps world)
      (fun error world => Failing project session start temps error world ∧ keeps world) :=
  Clean.keeping keeps (fun _ => temps) stable fun _ _ _ => Holding.of_idle stays throws

theorem Clean.of_idle {action : EngineM α} (stays : Stays Idle action)
    (throws : Throws Error.Mild action) :
    Triple (Clean project session start temps) action
      (fun _ => Clean project session start temps) (Failing project session start temps) :=
  Clean.step fun _ _ => Holding.of_idle stays throws

end

end RocqMcp
