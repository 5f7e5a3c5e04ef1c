import RocqMcp.Adapter.Commits

/-! `check`: the winning alternative becomes a checkpoint, and a finished proof
is handed to publication. -/

namespace RocqMcp

open Library

section

variable {project : ProjectId} {session : SessionId} {start world after : World}
  {temps : List PetStateId}

theorem Adrift.gone (adrift : Adrift project world) (absent : world.process project = none) :
    Gone project world world where
  calm := refl_of (Calm project) world
  absent := absent
  stamped := by
    intro spared change recorded
    obtain ⟨began, changed⟩ := adrift.bounded spared change recorded
    exact ⟨began, changed, by simp [absent], by simp⟩

theorem World.setCheckpoints_same (world : World) (session : SessionId) :
    world.setCheckpoints session (world.selections session).checkpoints = world := by
  simp [setCheckpoints, setSelection]

namespace Adapter

/-- The step was run with the fragment from the selected checkpoint. -/
def Accepting (session : SessionId) (fragment : String) (state : PetStateId) (finished : Bool)
    (world : World) : Prop :=
  ∃ current, CurrentState session current world ∧ world.Ran current.2 fragment state finished

theorem Accepting.meanwhile {fragment : String} {state : PetStateId} {finished : Bool}
    (world world' : World) (meanwhile : Meanwhile world world')
    (accepting : Accepting session fragment state finished world) :
    Accepting session fragment state finished world' := by
  obtain ⟨current, selected, ran⟩ := accepting
  exact ⟨current, selected.meanwhile world world' meanwhile, ran.later meanwhile.remembers⟩

/-- After the finalizer: an error that ends the epoch has lost the process. -/
def Closed (project : ProjectId) (session : SessionId) (start : World) (state : PetStateId)
    (closeError : Option Error) (world : World) : Prop :=
  if closeError.any fun error => error.kind.invalidatesPetEpoch then
    Adrift project world ∧ world.process project = none ∧ Unseen project session start world
  else Clean project session start [state] world

theorem Closed.adrift {state : PetStateId} {closeError : Option Error}
    (closed : Closed project session start state closeError world) :
    Adrift project world ∧ Unseen project session start world := by
  unfold Closed at closed
  split at closed
  · exact ⟨closed.1, closed.2.2⟩
  · exact ⟨closed.toAdrift, closed.toUnseen⟩

theorem Closed.idle {state : PetStateId} {closeError : Option Error} (idle : Idle world after)
    (closed : Closed project session start state closeError world) :
    Closed project session start state closeError after := by
  unfold Closed at closed ⊢
  split
  · rename_i ends
    rw [if_pos ends] at closed
    obtain ⟨adrift, absent, unseen⟩ := closed
    exact ⟨adrift.calm (idle.calm project), (idle.process project).trans absent,
      unseen.calm (idle.calm project)⟩
  · rename_i keeps
    rw [if_neg keeps] at closed
    exact ⟨closed.toServing.idle idle, closed.toUnseen.calm (idle.calm project)⟩

theorem closeAccepted_closed (context : CheckContext) (accepted : Accepted) :
    Triple (fun world => Clean project session start [accepted.step.state] world ∧
        Accepting session accepted.fragment accepted.step.state accepted.step.finished world)
      (closeAccepted project context accepted)
      (fun closeError world => Closed project session start accepted.step.state closeError world ∧
        Accepting session accepted.fragment accepted.step.state accepted.step.finished world)
      (Failing project session start []) := by
  let accepting : World → Prop :=
    Accepting session accepted.fragment accepted.step.state accepted.step.finished
  have ran : Triple (fun world => Clean project session start [accepted.step.state] world ∧
      accepting world) (Engine.closeProof project context.target accepted.step.state)
      (fun _ world => Clean project session start [accepted.step.state] world ∧ accepting world)
      (fun error world => Failing project session start [accepted.step.state] error world ∧
        accepting world) :=
    Clean.keeping accepting (fun _ => [accepted.step.state]) Accepting.meanwhile
      fun _ _ _ => Engine.closeProof_holding (List.mem_append_left _ (List.mem_singleton_self _)) _
  refine .ite (fun _ => .bind (.attempt ran) fun result => ?_) fun _ => .pure fun _ holds => holds
  cases result with
  | ok _ => exact .pure fun _ holds => holds
  | error error =>
    refine .ite (fun cancelled => .throw ?_) fun going => .pure ?_
    · rintro world ⟨⟨unseen, stranded⟩, _⟩
      exact ⟨unseen, .inr ⟨stranded.elim (fun kept => kept.1.toAdrift) And.left, .inl cancelled⟩⟩
    · rintro world ⟨⟨unseen, stranded⟩, accepted⟩
      refine ⟨?_, accepted⟩
      unfold Closed
      rcases stranded with ⟨serving, mild⟩ | ⟨adrift, cancelled | ⟨ends, absent⟩⟩
      · rw [if_neg fun ends => going (mild (by simpa using ends))]
        exact ⟨serving, unseen⟩
      · exact absurd cancelled going
      · rw [if_pos (by simpa using ends)]
        exact ⟨adrift, absent, unseen⟩

/-- The accepted step has become the selected checkpoint. -/
def Won (context : CheckContext) (accepted : Accepted) (checkpoint : CheckpointId)
    (session : SessionId) (world : World) : Prop :=
  ∃ proof node, (world.selections session).checkpoints.proof = some proof ∧
    proof.target = context.target ∧ proof.current = checkpoint ∧
    proof.get? checkpoint = some node ∧ node.acceptedInput = some accepted.fragment

/-- An accepted step is a sound child of the selected checkpoint. -/
theorem extend_sound {proof : ProofSession} {id : CheckpointId} {state : PetStateId}
    {input : String} {finished : Bool} {view : ProofState} {offset : Option Nat}
    (active : (world.selections session).checkpoints.proof = some proof)
    (sound : proof.Sound world) (isOpen : view.lifecycle = .open')
    (accepting : Accepting session input state finished world)
    (fresh : ∀ old ∈ proof.ids, old < id) :
    (proof.extend id (CheckpointBook.committed proof state input finished view offset)
      fresh rfl rfl).Sound world := by
  let node := CheckpointBook.committed proof state input finished view offset
  have survives : proof.Survives (proof.extend id node fresh rfl rfl) :=
    proof.survives_extend fresh rfl rfl
  refine ⟨sound.coherent, ?_, ?_⟩
  · intro entry member
    rcases List.mem_append.mp member with old | new
    · exact sound.views entry old
    · rw [List.mem_singleton.mp new]
      exact isOpen
  · intro other node held found has
    rcases List.mem_append.mp (ProofSession.mem_of_get? _ found) with old | new
    · obtain ⟨root, step⟩ := sound.derived other node held (proof.get?_of_mem old) has
      refine ⟨root, fun parent isParent => ?_⟩
      obtain ⟨above, source, accepted, found', rest⟩ := step parent isParent
      exact ⟨above, source, accepted, ProofSession.get?_of_mem _
        (List.mem_append_left _ (proof.mem_of_get? found')), rest⟩
    · obtain ⟨rfl, rfl⟩ := Prod.mk.inj (List.mem_singleton.mp new)
      obtain rfl := Option.some.inj has
      refine ⟨nofun, ?_⟩
      rintro _ ⟨⟩
      obtain ⟨current, ⟨proof', active', isCurrent, node, looked, holds⟩, ran⟩ := accepting
      obtain rfl := Option.some.inj (active.symm.trans active')
      have found' := proof.of_lookup active looked
      rw [isCurrent]
      exact ⟨node, current.2, input, ProofSession.get?_of_mem _
        (List.mem_append_left _ (proof.mem_of_get? found')), holds, rfl, ran⟩

/-- The rest of a request after its commit: at most the states of the project
are still to be forgotten. -/
def Sealed (project : ProjectId) (session : SessionId) (start : World)
    (closeError : Option Error) (world : World) : Prop :=
  if closeError.any fun error => error.kind.invalidatesPetEpoch then
    Adrift project world ∧ world.process project = none ∧ Bound project session start world
  else Served project session start world

theorem commit_sealed {context : CheckContext} {accepted : Accepted} {closeError : Option Error}
    {view : ProofState} {checkpoint : CheckpointId} {next : CheckpointBook}
    (of : context.Of session start) (isOpen : view.lifecycle = .open')
    (closed : Closed project session start accepted.step.state closeError world)
    (accepting : Accepting session accepted.fragment accepted.step.state accepted.step.finished world)
    (done : (world.selections session).checkpoints.commit accepted.step.state accepted.fragment
      accepted.step.finished view accepted.goalsNextOffset = (.ok checkpoint, next)) :
    Sealed project session start closeError (world.setCheckpoints session next) ∧
      Won context accepted checkpoint session (world.setCheckpoints session next) := by
  obtain ⟨adrift, unseen⟩ := closed.adrift
  obtain ⟨proof, active, target, _⟩ := of.congr (unseen.untouched.topology session)
  obtain ⟨fresh, active'⟩ := CheckpointBook.commit_ok done active
  have sound : ∀ proof' ∈ next.proof, proof'.Sound world := by
    intro proof' isProof
    obtain rfl := Option.some.inj (active'.symm.trans isProof)
    exact extend_sound active (adrift.consistent.proofs session proof active) isOpen accepting fresh
  have grown : (world.selections session).checkpoints.Grows next := by
    have grows := CheckpointBook.Grows.commit (world.selections session).checkpoints
      accepted.step.state accepted.fragment accepted.step.finished view accepted.goalsNextOffset
    rwa [done] at grows
  have bound := unseen.toBound.step (.setBook grown)
  let node := CheckpointBook.committed proof accepted.step.state accepted.fragment
    accepted.step.finished view accepted.goalsNextOffset
  refine ⟨?_, proof.extend checkpoint node fresh rfl rfl, node, ?_, target, rfl,
    ProofSession.get?_of_mem _ (List.mem_append_right _ (List.mem_singleton_self _)), rfl⟩
  · unfold Closed at closed
    unfold Sealed
    split
    · rename_i ends
      rw [if_pos ends] at closed
      exact ⟨closed.1.setBook unseen.own sound, closed.2.1, bound⟩
    · rename_i keeps
      rw [if_neg keeps] at closed
      refine ⟨closed.toServing.setBook unseen.own sound ?_, bound⟩
      simp only [CheckpointBook.states, active, active', ProofSession.states, ProofSession.extend,
        List.filterMap_append]
      exact List.perm_append_comm
  · rw [World.selections_setCheckpoints, if_pos rfl, active']

/-- What a publication relies on before the states are forgotten. -/
def Publishes (project : ProjectId) (session : SessionId) (start : World)
    (target : DeclarationTarget) (world : World) : Prop :=
  Served project session start world ∧ target.Coherent world

theorem Publishes.of_idle {target : DeclarationTarget} {action : EngineM α}
    (stays : Stays Idle action) :
    Triple (Publishes project session start target) action
      (fun _ => Publishes project session start target)
      fun _ => Served project session start := by
  refine (stays.keeps fun _ _ idle (⟨served, coherent⟩ : Publishes ..) =>
    (⟨⟨served.toServing.idle idle, served.toBound.calm (idle.calm project)⟩,
      coherent.meanwhile idle.toMeanwhile⟩ : Publishes project session start target _)).weaken
        (fun _ holds => holds) (fun _ _ holds => holds) fun _ _ holds => holds.1

theorem prepare_publishes (target : DeclarationTarget) (fragments : List String) :
    Triple (Publishes project session start target) (Writeback.prepare project target fragments)
      (fun publication world => Served project session start world ∧
        publication.workspace = (world.layout project).petWorkspace)
      fun _ => Served project session start := by
  let known : PetWorkspace → World → Prop := fun workspace world =>
    Publishes project session start target world ∧
      workspace = (world.layout project).petWorkspace
  have stable (workspace : PetWorkspace) : ∀ world world', Idle world world' →
      known workspace world → known workspace world' := by
    rintro world world' idle ⟨⟨served, coherent⟩, current⟩
    exact ⟨⟨⟨served.toServing.idle idle, served.toBound.calm (idle.calm project)⟩,
      coherent.meanwhile idle.toMeanwhile⟩, by rw [(idle.calm project).layout]; exact current⟩
  refine .bind (Publishes.of_idle (.ensure _ _)) fun _ => .through known ?_ fun workspace => ?_
  · refine .bind (.gets _) fun layout => ?_
    rintro world ⟨publishes, rfl⟩
    by_cases selected : (world.layout project).containsFile target.anchor.source
    · simp only [Layout.petWorkspaceOf, selected, if_true]
      exact ⟨publishes, rfl⟩
    · simp only [Layout.petWorkspaceOf, selected]
      exact publishes.1
  · refine .bind (((Engine.readOr_idle _ _).keeps (stable workspace)).weaken (fun _ holds => holds)
      (fun _ _ holds => holds) fun _ _ holds => holds.1.1) fun original => .bind (.gets _)
        fun digest => ?_
    refine .through (fun _ world => known workspace world ∧
      world.digest original = target.anchor.digest) (.ensure ?_ fun _ _ holds => holds.1.1.1)
        fun _ => ?_
    · rintro same world ⟨holds, rfl⟩
      exact ⟨holds, of_decide_eq_true same⟩
    refine .bind ((Triple.ofExcept _).weaken (fun _ holds => holds) (fun _ _ holds => holds.1)
      fun _ _ holds => holds.1.1.1.1) fun replacement => ?_
    refine .through (fun _ world => Served project session start world ∧
      workspace = (world.layout project).petWorkspace) ?_ fun _ => .bind (.gets _) fun _ =>
        .pure fun _ holds => holds.1
    rintro world ⟨⟨⟨served, coherent⟩, current⟩, same⟩
    exact ⟨⟨served.toServing.recordSplice ⟨same, coherent⟩,
      served.toBound.step (.sameSessions rfl rfl fun _ _ => rfl)⟩, current⟩

theorem Vacant.prepared {frame : World → Prop} {publication : PreparedPublication}
    {left : List PetStateId}
    (vacant : Vacant project (Writeback.Prepared project publication frame) left world) :
    Vacant project frame left world :=
  { vacant with framed := vacant.framed.framed }

theorem bound_frame : Writeback.Frame project (Bound project session start) where
  calmed := Bound.calmed
  written _ _ _ bound := bound.step (.overwrite _ _)

/-- A publication never leaves a state behind; a failed one may not have begun. -/
theorem publish_served (target : DeclarationTarget) (fragments : List String) :
    Triple (Publishes project session start target)
      (Engine.publish project target fragments (invalidateProjectStates project session))
      (fun _ world => Vacant project (Bound project session start) [] world ∧
        Recent project world)
      fun _ => Served project session start := by
  refine .bind (Publishes.of_idle (Engine.validateTarget_idle project target)) fun _ =>
    .bind (prepare_publishes target fragments) fun publication => ?_
  refine .through (fun _ world => ∃ left, Vacant project
    (Writeback.Prepared project publication (Bound project session start)) left world) ?_
      fun _ => ?_
  · rintro world ⟨served, current⟩
    exact ⟨_, served.toServing.invalidated served.own.attached, World.forgotten_invalidated ..,
      current, served.toBound.invalidated⟩
  · rintro world ⟨left, vacant⟩
    exact (Writeback.publish_vacant bound_frame (validateWritten_validates target)).weaken
      (fun _ holds => holds) (fun _ _ holds => ⟨Vacant.prepared holds.1, holds.2⟩)
      (fun _ _ vacant => (Vacant.prepared vacant).served) world vacant

theorem forgetArtifact_served (file : FileId) {failed : ε → World → Prop} :
    Triple (Served project session start) (forgetArtifact project file)
      (fun _ => Served project session start) failed :=
  fun world served => ⟨served.toServing.setArtifacts _,
    served.toBound.step (world.setRuntime_unobserved _).within⟩

theorem forgetArtifact_vacant {frame : World → Prop} (file : FileId)
    (kept : ∀ world world', Unobserved project world world' → frame world → frame world')
    {failed : ε → World → Prop} :
    Triple (Vacant project frame []) (forgetArtifact project file)
      (fun _ => Vacant project frame []) failed :=
  fun world vacant => ⟨vacant.toServing.setArtifacts _,
    vacant.forgotten.later (World.held_selections project rfl rfl) fun _ suffered => suffered,
    kept _ _ (world.setRuntime_unobserved _) vacant.framed⟩

/-- A book without states is cleared. -/
theorem clearBook_vacant {failed : ε → World → Prop} :
    Triple (Vacant project (Bound project session start) []) (clearBook session)
      (fun _ => Served project session start) failed := by
  refine .bind (.gets _) fun book => ?_
  rintro world ⟨vacant, rfl⟩
  refine ⟨?_, vacant.framed.step (.setBook (.clear _))⟩
  rcases vacant.forgotten with nobody | missed
  · have blank : (world.selections session).checkpoints.states = [] := by
      have split := World.held_own vacant.framed.own
      rw [nobody] at split
      exact (List.append_eq_nil_iff.mp (List.nil_perm.mp split)).1
    refine vacant.toServing.setBook vacant.framed.own nofun ?_
    rw [blank]
    exact .refl _
  · exact { toAdrift := vacant.toAdrift.setBook vacant.framed.own nofun, owned := .missed missed }

/-- The states of the book, if it has any, are leaked. -/
def Forfeits (session : SessionId) (project : ProjectId) (world : World) : Prop :=
  (world.selections session).checkpoints.states ≠ [] → world.Leaked project

theorem noteRetired_served (retired : CheckpointBook) {failed : Error → World → Prop} :
    Triple (fun world => Served project session start world ∧
        retired = (world.selections session).checkpoints)
      (noteWhen (!retired.states.isEmpty) (.clearedUnreleased project))
      (fun _ world => Served project session start world ∧ Forfeits session project world)
      failed := by
  intro world holds
  have idle := @noteWhen_idle Error (!retired.states.isEmpty) (.clearedUnreleased project) world
  obtain ⟨served, rfl⟩ := holds
  have kept : Served project session start _ :=
    ⟨served.toServing.idle idle, served.toBound.calm (idle.calm project)⟩
  cases blank : (world.selections session).checkpoints.states.isEmpty with
  | true =>
    rw [blank] at kept
    exact ⟨kept, fun nonempty => absurd (List.isEmpty_iff.mp blank) nonempty⟩
  | false =>
    rw [blank] at kept
    exact ⟨kept, fun _ => .inr (.inl List.mem_cons_self)⟩

/-- A book whose states are noted as leaked is cleared. -/
theorem clearForfeited_served {failed : Error → World → Prop} :
    Triple (fun world => Served project session start world ∧ Forfeits session project world)
      (clearBook session) (fun _ => Served project session start) failed := by
  rintro world ⟨served, leaked⟩
  refine (clearBook_served : Triple _ _ _ failed) world ⟨served.toAdrift, served.toBound, ?_⟩
  have owned := served.owned.perm (World.held_own served.own)
  by_cases blank : (world.selections session).checkpoints.states = []
  · rwa [blank] at owned
  · exact owned.leak (leaked blank)

/-- Where a publication leaves the request: a success has no state, and a process
of this request. -/
def Published (project : ProjectId) (session : SessionId) (start : World) :
    Except Error ProofState → World → Prop
  | .ok _, world => Vacant project (Bound project session start) [] world ∧ Recent project world
  | .error _, world => Served project session start world

/-- Settling a publication cannot fail. -/
theorem settlePublication_served (context : CheckContext) (accepted : Accepted)
    (checkpoint : CheckpointId) (published : Except Error ProofState)
    {failed : Error → World → Prop} :
    Triple (Published project session start published)
      (settlePublication project session context accepted checkpoint published)
      (fun _ => Served project session start) failed := by
  cases published with
  | ok state =>
    have unobserved : ∀ world world', Unobserved project world world' →
        Bound project session start world → Bound project session start world' :=
      fun _ _ unobserved bound => bound.step unobserved.within
    refine .bind (recordCompleted_vacant context.target.identity.file Bound.calmed unobserved
      (forgetArtifact_vacant _ unobserved)) fun _ => ?_
    exact .bind clearBook_vacant fun _ => .pure fun _ served => served
  | error error =>
    refine .bind (forgetArtifact_served _) fun _ => .ite (fun _ => .pure fun _ served => served)
      fun _ => ?_
    exact .bind (.gets _) fun retired => .bind (noteRetired_served retired) fun _ =>
      .bind clearForfeited_served fun _ => .pure fun _ served => served

/-- The fragments of the winner are those on the path from the root. -/
theorem Won.linear {context : CheckContext} {accepted : Accepted} {checkpoint : CheckpointId}
    (won : Won context accepted checkpoint session world) :
    ∃ path, (world.selections session).checkpoints.fragments checkpoint = .ok path ∧
      Submission.Linear
        { book := (world.selections session).checkpoints, winner := accepted.fragment,
          fragments := path } := by
  obtain ⟨proof, node, active, _, isCurrent, found, input⟩ := won
  have known : checkpoint ∈ proof.ids := List.mem_map_of_mem (proof.mem_of_get? found)
  obtain ⟨records, path, read⟩ := CheckpointBook.fragments_ok active known
  refine ⟨_, read, proof, records, active, isCurrent ▸ path, rfl, ?_⟩
  exact path.last_input (ProofSession.lookup_of_get? active found) input

theorem publishAccepted_served (context : CheckContext) (accepted : Accepted)
    (checkpoint : CheckpointId) {failed : Error → World → Prop} :
    Triple (fun world => Served project session start world ∧
        Won context accepted checkpoint session world)
      (publishAccepted project session context accepted checkpoint)
      (fun _ => Served project session start) failed := by
  refine .bind (.gets _) fun book => .through (fun path world =>
    (Served project session start world ∧ context.target.Coherent world) ∧
      Submission.Linear { book, winner := accepted.fragment, fragments := path }) ?_ fun path =>
        .assume fun linear => ?_
  · rintro world ⟨⟨served, won⟩, rfl⟩
    obtain ⟨path, read, linear⟩ := won.linear
    obtain ⟨proof, _, active, target, _⟩ := won
    have coherent := (served.consistent.proofs session proof active).coherent
    rw [read]
    exact ⟨⟨served, target ▸ coherent⟩, linear⟩
  refine .through (fun _ => Publishes project session start context.target) ?_ fun _ => ?_
  · rintro world ⟨served, coherent⟩
    exact ⟨⟨served.toServing.recordSubmission linear,
      served.toBound.step (.sameSessions rfl rfl fun _ _ => rfl)⟩, coherent⟩
  · refine .bind (.attempt (publish_served context.target path)) fun published => ?_
    refine (settlePublication_served context accepted checkpoint published).weaken ?_
      (fun _ _ served => served) fun _ _ fails => fails
    intro world ended
    cases published <;> exact ended

theorem finishAccepted_served (context : CheckContext) (accepted : Accepted)
    (closeError : Option Error) (checkpoint : CheckpointId) {failed : Error → World → Prop} :
    Triple (fun world => Sealed project session start closeError world ∧
        Won context accepted checkpoint session world)
      (finishAccepted project session context accepted closeError checkpoint)
      (fun _ => Served project session start) failed := by
  cases closeError with
  | none =>
    refine .ite (fun _ => publishAccepted_served context accepted checkpoint) fun _ => .pure ?_
    exact fun _ holds => holds.1
  | some error =>
    refine .through (fun _ => Served project session start) ?_ fun _ => .pure fun _ served => served
    rintro world ⟨settled, _⟩
    unfold Sealed at settled
    simp only [Option.any_some] at settled
    cases ends : error.kind.invalidatesPetEpoch with
    | false =>
      rw [if_neg (by simp [ends])] at settled
      exact settled
    | true =>
      rw [if_pos ends] at settled
      exact (forgetLost_served true : Triple _ _ _ failed) world settled

/-- A release by a process that is gone. -/
theorem releaseAbsent_failing (states : List PetStateId) {after : Unit → World → Prop}
    (some : states ≠ []) :
    Triple (fun world => Adrift project world ∧ world.process project = none ∧
        Unseen project session start world) (release project states) after
      (Failing project session start []) := by
  refine .mapError (.each_state fun middle ⟨adrift, absent, unseen⟩ => ?_)
  have released : Triple (Gone project middle) (PetActor.releaseStates project states) _ _ :=
    PetActor.releaseStates_absent
  refine released.weaken ?_ (fun _ _ holds => absurd holds.2 some) ?_
  · rintro _ rfl
    exact adrift.gone absent
  · rintro error world ⟨gone, told⟩
    refine ⟨unseen.calm gone.calm, .inr ⟨adrift.calm gone.calm, .inr ⟨?_, gone.absent⟩⟩⟩
    rw [petReleaseError_telling]
    exact told

/-- A checkpoint that cannot be allocated is not one: its state is released. -/
theorem releaseUncommitted_failing (accepted : Accepted) (closeError : Option Error)
    (error : CheckpointError) {after : α → World → Prop} :
    Triple (Closed project session start accepted.step.state closeError)
      (do release project [accepted.step.state]
          Act.throw (checkpointError error)) after (Failing project session start []) := by
  intro world closed
  unfold Closed at closed
  split at closed
  · exact (Triple.bind (releaseAbsent_failing _ (List.cons_ne_nil _ _)) fun _ =>
      .throw fun _ impossible => impossible) world closed
  · exact (Triple.bind (release_clean [accepted.step.state]) fun _ =>
      Clean.rejects (checkpointError_mild error)) world closed

theorem accept_served (context : CheckContext) (accepted : Accepted)
    (isOpen : accepted.step.view.lifecycle = .open') (of : context.Of session start) :
    Triple (fun world => Clean project session start [accepted.step.state] world ∧
        Accepting session accepted.fragment accepted.step.state accepted.step.finished world)
      (accept project session context accepted) (fun _ => Served project session start)
      (Failing project session start []) := by
  refine .bind (closeAccepted_closed context accepted) fun closeError => ?_
  refine .bind (commitOrCancelled_adrift (fun _ _ idle ⟨closed, accepting⟩ =>
    ⟨closed.idle idle, accepting.meanwhile _ _ idle.toMeanwhile⟩) fun _ holds => holds.1.adrift)
      fun _ => .bind (.gets _) fun book => ?_
  have view : (if context.arguments.structured then accepted.step.view
      else { accepted.step.view with structuredGoals := none }).lifecycle = .open' := by
    split <;> exact isOpen
  rcases done : book.commit accepted.step.state accepted.fragment accepted.step.finished
    (if context.arguments.structured then accepted.step.view
      else { accepted.step.view with structuredGoals := none }) accepted.goalsNextOffset with
    ⟨error | checkpoint, next⟩
  · refine .through (fun _ => Closed project session start accepted.step.state closeError) ?_
      fun _ => releaseUncommitted_failing accepted closeError error
    rintro world ⟨⟨closed, _⟩, rfl⟩
    obtain ⟨_, active, _⟩ := of.congr (closed.adrift.2.untouched.topology session)
    rw [CheckpointBook.commit_error done active]
    simp only [setBook, Act.modify, World.setCheckpoints_same]
    exact closed
  · refine .through (fun _ world => Sealed project session start closeError world ∧
      Won context accepted checkpoint session world) ?_ fun _ =>
        finishAccepted_served context accepted closeError checkpoint
    rintro world ⟨⟨closed, accepting⟩, rfl⟩
    exact commit_sealed of view closed accepting done

theorem unselected_served (context : CheckContext) (rejected : List Rejection) :
    Triple (Clean project session start []) (unselected session context rejected)
      (fun _ => Served project session start) (Failing project session start []) :=
  .bind Clean.reads fun _ => .bind (ofBook_clean _) fun _ => .pure fun _ clean => clean.served

theorem checkFragments_served (context : CheckContext) (of : context.Of session start)
    (fragments : List String) (index : Nat) (rejected : List Rejection) :
    Triple (Clean project session start [])
      (checkFragments project session context index rejected fragments)
      (fun _ => Served project session start) (Failing project session start []) := by
  induction fragments generalizing index rejected with
  | nil => exact unselected_served context rejected
  | cons fragment rest ih =>
    refine .bind (evaluate_clean context fragment) fun result => ?_
    match result with
    | .ok (.success step) =>
      rintro world ⟨clean, isOpen, accepting⟩
      have viewed : (Accepted.of index fragment step rejected).step.view.lifecycle = .open' :=
        (boundedCheckpointView_lifecycle step.view).trans isOpen
      exact accept_served context _ viewed of world ⟨clean, accepting⟩
    | .ok (.failure failure) => exact ih _ _
    | .error error => exact ih _ _

theorem check_served (args : Value) :
    Triple (Clean project session start []) (check project session args)
      (fun _ => Served project session start) (Failing project session start []) :=
  .bind (Clean.check attemptArguments_mild) fun arguments => .bind (enterProof_clean arguments)
    fun context => .assume fun known => checkFragments_served context known.1 _ _ _

theorem Clean.serves {action : EngineM α}
    (triple : Triple (Clean project session start []) action
      (fun _ => Clean project session start []) (Failing project session start [])) :
    Triple (Clean project session start []) action (fun _ => Served project session start)
      (Ended project session start) :=
  Failing.ends (triple.weaken (fun _ clean => clean) (fun _ _ clean => clean.served)
    fun _ _ fails => fails)

/-- Every tool of an attached connection accounts for the states of its project,
and changes nothing that a client can observe if it fails. -/
theorem dispatchAttached_served (name : String) (args : Value) :
    Triple (Clean project session start []) (dispatchAttached project session name args)
      (fun _ => Served project session start) (Ended project session start) := by
  refine .ite (fun _ => Clean.serves (listFiles_clean args)) fun _ => ?_
  refine .ite (fun _ => Clean.serves (listDecls_clean args)) fun _ => ?_
  refine .ite (fun _ => prove_served args) fun _ => ?_
  refine .ite (fun _ => Failing.ends (declare_served args)) fun _ => ?_
  refine .ite (fun _ => Failing.ends (abandon_served args)) fun _ => ?_
  refine .ite (fun _ => Failing.ends (check_served args)) fun _ => ?_
  refine .ite (fun _ => Clean.serves (tryFragments_clean args)) fun _ => ?_
  refine .ite (fun _ => Failing.ends (rewind_served args)) fun _ => ?_
  refine .ite (fun _ => Clean.serves (query_clean args)) fun _ => ?_
  exact Failing.ends (Clean.rejects (.of_kind rfl))

end Adapter

end

end RocqMcp
