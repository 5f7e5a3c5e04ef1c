import RocqMcp.Adapter.Publication
import RocqMcp.Adapter.Service

/-! The tools that commit: until then they change nothing that a client can
observe, and after it they do not fail. -/

namespace RocqMcp

open Library

/-- The project accounts for its states, and the request has stayed within what
it may touch. -/
structure Served (project : ProjectId) (session : SessionId) (start world : World) : Prop
    extends Serving project [] world, Bound project session start world

section

variable {project : ProjectId} {session : SessionId} {start world after : World}
  {temps : List PetStateId}

theorem Clean.served (clean : Clean project session start [] world) :
    Served project session start world :=
  ⟨clean.toServing, clean.toBound⟩

theorem Unseen.calmed : Calmed project (Unseen project session start) :=
  fun _ _ calm unseen => unseen.calm calm

theorem Bound.calmed : Calmed project (Bound project session start) :=
  fun _ _ calm bound => bound.calm calm

theorem Vacant.served (vacant : Vacant project (Bound project session start) [] world) :
    Served project session start world :=
  ⟨vacant.toServing, vacant.framed⟩

theorem Vacant.clean (vacant : Vacant project (Unseen project session start) [] world) :
    Clean project session start [] world :=
  ⟨vacant.toServing, vacant.framed⟩

namespace Adapter

/-- Until it commits, a request can still be cancelled, and then all states end. -/
theorem commitOrCancelled_adrift {before : World → Prop}
    (stable : ∀ world world', Idle world world' → before world → before world')
    (adrift : ∀ world, before world → Adrift project world ∧ Unseen project session start world) :
    Triple before commitOrCancelled (fun _ => before) (Failing project session start []) := by
  have cancelled : Throws (fun error => error.kind = .requestCancelled) commitOrCancelled :=
    .bind commitRequest_throws fun _ => .ensure rfl
  refine (cancelled.triple (commitOrCancelled_idle.keeps stable)).weaken
    (fun _ holds => holds) (fun _ _ holds => holds) ?_
  rintro error world ⟨holds, kind⟩
  obtain ⟨drifting, unseen⟩ := adrift world holds
  exact ⟨unseen, .inr ⟨drifting, .inl kind⟩⟩

theorem commitOrCancelled_failing :
    Triple (Clean project session start temps) commitOrCancelled
      (fun _ => Clean project session start temps) (Failing project session start []) :=
  commitOrCancelled_adrift
    (fun _ _ idle clean => ⟨clean.toServing.idle idle, clean.toUnseen.calm (idle.calm project)⟩)
    fun _ clean => ⟨clean.toAdrift, clean.toUnseen⟩

/-- A new proof with its root, where the book had none. -/
theorem begin_served {opened : OpenedProof} {view : ProofState} {offset : Option Nat}
    {id : CheckpointId} {next : CheckpointBook}
    (clean : Clean project session start [opened.state] world)
    (coherent : opened.target.Coherent world) (rooted : Engine.Rooted opened world)
    (isOpen : view.lifecycle = .open')
    (begun : (world.selections session).checkpoints.begin opened.target opened.state
      opened.finished view offset = (.ok id, next)) :
    Served project session start (world.setCheckpoints session next) := by
  obtain ⟨bare, active⟩ := CheckpointBook.begin_ok begun
  refine ⟨clean.toServing.setBook clean.own ?_ ?_, clean.toBound.step (.setBook ?_)⟩
  · intro proof isProof
    obtain rfl := Option.some.inj (active.symm.trans isProof)
    refine ⟨coherent, by simpa [ProofSession.root] using isOpen, ?_⟩
    intro id' node state found held
    have member := ProofSession.mem_of_get? _ found
    simp only [ProofSession.root, List.mem_singleton, Prod.mk.injEq] at member
    obtain ⟨rfl, rfl⟩ := member
    obtain rfl := Option.some.inj held
    refine ⟨fun _ => rooted, ?_⟩
    rintro parent ⟨⟩
  · simp [CheckpointBook.states, bare, active, ProofSession.states, ProofSession.root]
  · rw [← show (_ : CheckpointBook) = next from (Prod.mk.inj begun).2]
    exact .begin ..

theorem beginProof_served (opened : OpenedProof) (isOpen : opened.view.lifecycle = .open') :
    Triple (fun world => Clean project session start [opened.state] world ∧
        opened.target.Coherent world ∧ Engine.Rooted opened world)
      (beginProof project session opened) (fun _ => Served project session start)
      (Failing project session start []) := by
  let known : World → Prop := fun world =>
    opened.target.Coherent world ∧ Engine.Rooted opened world
  have stable : ∀ world world', Meanwhile world world' → known world → known world' :=
    fun _ _ meanwhile ⟨coherent, rooted⟩ =>
      ⟨coherent.meanwhile meanwhile, rooted.later meanwhile.remembers⟩
  refine .through (fun _ world => Clean project session start [opened.state] world ∧ known world)
    ?_ fun _ => .bind (.gets _) fun book => ?_
  · refine (Triple.both commitOrCancelled_failing (commitOrCancelled_idle.kept
      fun _ _ idle => stable _ _ idle.toMeanwhile)).weaken (fun _ holds => holds)
        (fun _ _ holds => holds) fun _ _ fails => fails.1
  · rcases begun : book.begin opened.target opened.state opened.finished
      (boundedCheckpointView opened.view).1 (boundedCheckpointView opened.view).2 with
      ⟨error | checkpoint, next⟩
    · refine .bind ((release_clean [opened.state]).weaken (fun _ holds => holds.1.1)
        (fun _ _ clean => clean) fun _ _ fails => fails) fun _ => ?_
      exact Clean.rejects (checkpointError_mild _)
    · rintro world ⟨⟨clean, coherent, rooted⟩, rfl⟩
      obtain ⟨_, active⟩ := CheckpointBook.begin_ok begun
      have served := begin_served clean coherent rooted
        (boundedCheckpointView_lifecycle opened.view ▸ isOpen) begun
      obtain ⟨node, found⟩ :=
        CheckpointBook.lookup_active active (List.mem_singleton_self checkpoint)
      simp only [setBook, Act.modify, bind, Act.bind, ofBook, found, pure, Act.pure]
      exact served

/-- An operation of the engine that opens a proof. -/
theorem Clean.opens {action : EngineM α} {post : α → World → Prop} (after : α → List PetStateId)
    (triple : ∀ middle, Triple (Holding project middle false (temps ++ middle.held project)) action
      (fun value world =>
        Holding project middle false (after value ++ middle.held project) world ∧ post value world)
      (EngineFails project middle (temps ++ middle.held project))) :
    Triple (Clean project session start temps) action
      (fun value world => Clean project session start (after value) world ∧ post value world)
      (Failing project session start temps) :=
  (Clean.engine (fun _ => True) after post (fun _ _ _ holds => holds)
    fun middle _ _ => triple middle).weaken (fun _ clean => ⟨clean, trivial⟩)
      (fun _ _ holds => ⟨holds.1, holds.2.1⟩) fun _ _ fails => fails.1

/-- A failed operation leaves what the end of a request can settle: at most an
error that is about to end all states, or nothing that is held. -/
def Ended (project : ProjectId) (session : SessionId) (start : World) (error : Error)
    (world : World) : Prop :=
  Failing project session start [] error world ∨
    Vacant project (Unseen project session start) [] world

theorem invalidate_vacant {failed : ε → World → Prop} :
    Triple (Clean project session start temps) (invalidateProjectStates project session)
      (fun _ world => ∃ left, Vacant project (Unseen project session start) left world) failed := by
  intro world clean
  exact ⟨_, clean.toServing.invalidated clean.own.attached, World.forgotten_invalidated ..,
    clean.toUnseen.invalidated⟩

theorem validateBuilt_validates (target : DeclarationTarget) :
    Writeback.Validates project (Engine.validateBuilt project target) :=
  fun _ _ => (Engine.validateBuilt_holding target).weaken (fun _ holds => holds)
    (fun _ _ holds => holds.1) fun _ _ holds => holds

theorem validateWritten_validates (target : DeclarationTarget) :
    Writeback.Validates project (Engine.validateWritten project target) :=
  fun _ _ => (Engine.validateWritten_holding target).weaken (fun _ holds => holds)
    (fun _ _ holds => holds.1) fun _ _ holds => holds

/-- After a build epoch, a recorded fingerprint is one of this request. -/
theorem recordArtifact_vacant {frame : World → Prop} (file : FileId)
    (fingerprint : ArtifactFingerprint)
    (kept : ∀ world world', Unobserved project world world' → frame world → frame world')
    {failed : ε → World → Prop} :
    Triple (fun world => Vacant project frame [] world ∧ Recent project world)
      (recordArtifact project file fingerprint)
      (fun _ => Vacant project frame []) failed := by
  rintro world ⟨vacant, recent⟩
  have recorded := vacant.toServing.setArtifacts
    (Function.update (world.projects project).artifacts file (some fingerprint))
  let runtime := { world.projects project with
    artifacts := Function.update (world.projects project).artifacts file (some fingerprint) }
  have unobserved : Unobserved project world (world.setRuntime project runtime) :=
    world.setRuntime_unobserved runtime
  have forgotten : (world.setRuntime project runtime).Forgotten project :=
    vacant.forgotten.later (World.held_selections project rfl rfl) fun _ suffered => suffered
  simp only [recordArtifact, Act.modify]
  split
  · refine ⟨recorded.recordChange forgotten ?_,
      forgotten.later (World.held_selections project rfl rfl) fun _ suffered => suffered,
      kept _ _ (unobserved.trans (World.recordChange_unobserved _)) vacant.framed⟩
    intro process installed
    simp only [World.process, World.actor, World.setRuntime, Function.update_self] at installed
    exact recent process installed
  · exact ⟨recorded, forgotten, kept _ _ unobserved vacant.framed⟩

theorem recordCompleted_vacant {frame : World → Prop} (file : FileId)
    {otherwise : Act World Error Unit} (calmed : Calmed project frame)
    (kept : ∀ world world', Unobserved project world world' → frame world → frame world')
    {failed : Error → World → Prop}
    (fallback : Triple (Vacant project frame []) otherwise (fun _ => Vacant project frame [])
      failed) :
    Triple (fun world => Vacant project frame [] world ∧ Recent project world)
      (recordCompleted project file otherwise) (fun _ => Vacant project frame []) failed := by
  have attempted : Triple (fun world => Vacant project frame [] world ∧ Recent project world)
      (Act.attempt (Engine.artifactFingerprint project file)) _ failed :=
    .attempt (Vacant.of_idle_recent calmed (Engine.artifactFingerprint_idle project file))
  refine .bind attempted fun result => ?_
  cases result with
  | ok fingerprint => exact recordArtifact_vacant file fingerprint kept
  | error error => exact fallback

theorem validatePublished_ended (target : DeclarationTarget) :
    Triple (Clean project session start []) (validatePublished project session target)
      (fun _ => Clean project session start []) (Ended project session start) := by
  have vacates {α : Type} {action : EngineM α} {before : World → Prop} {after : α → World → Prop}
      (triple : Triple before action after
        fun _ => Vacant project (Unseen project session start) []) :
      Triple before action after (Ended project session start) :=
    triple.weaken (fun _ holds => holds) (fun _ _ holds => holds) fun _ _ vacant => .inr vacant
  have validated (left : List PetStateId) :
      Triple (Vacant project (Unseen project session start) left)
        (Engine.validatePublished project target)
        (fun _ world => Vacant project (Unseen project session start) [] world ∧
          Recent project world) fun _ => Vacant project (Unseen project session start) [] :=
    .bind (Writeback.noteForgotten_vacant Unseen.calmed
      (Vacant.of_idle Unseen.calmed (Engine.validateTarget_idle project target))) fun _ =>
        Writeback.buildAndRefresh_vacant Unseen.calmed _ (validateBuilt_validates target)
  refine .bind invalidate_vacant fun _ => .through (fun _ world =>
    Vacant project (Unseen project session start) [] world ∧ Recent project world)
      (vacates fun world ⟨left, vacant⟩ => validated left world vacant) fun state => ?_
  · refine .bind (recordCompleted_vacant target.identity.file Unseen.calmed
      (fun _ _ unobserved unseen => unseen.unobserved unobserved)
        (.pure fun _ vacant => vacant)) fun _ => .pure ?_
    exact fun _ vacant => vacant.clean

theorem rejectActiveProof_clean (operation : String) :
    Triple (Clean project session start []) (rejectActiveProof session operation)
      (fun _ => Clean project session start []) (Failing project session start []) :=
  .bind Clean.reads fun _ => Clean.ensure (.of_kind rfl)

/-- The state that an opened declaration leaves. -/
def openStates : OpenResult → List PetStateId
  | .open' opened => [opened.state]
  | .published _ => []

/-- A proof that is ready to be begun. -/
def Begins (project : ProjectId) (session : SessionId) (start : World) (opened : OpenedProof)
    (world : World) : Prop :=
  opened.view.lifecycle = .open' ∧ Clean project session start [opened.state] world ∧
    opened.target.Coherent world ∧ Engine.Rooted opened world

theorem begins_served (opened : OpenedProof) :
    Triple (Begins project session start opened) (beginProof project session opened)
      (fun _ => Served project session start) (Failing project session start []) :=
  fun world ⟨isOpen, ready⟩ => beginProof_served opened isOpen world ready

/-- What an opened declaration leaves: a published one has no state. -/
def Resolves (project : ProjectId) (session : SessionId) (start : World) :
    OpenResult → World → Prop
  | .open' opened, world => Begins project session start opened world
  | .published _, world => Clean project session start [] world

theorem openDeclaration_resolves (identity : DeclarationIdentity) :
    Triple (Clean project session start []) (Engine.openDeclaration project identity)
      (Resolves project session start) (Failing project session start []) := by
  let ready : OpenResult → World → Prop := fun result world => ∀ opened,
    result = .open' opened → opened.target.Coherent world ∧ opened.view.lifecycle = .open'
  have opening : Triple (Clean project session start []) (Engine.openDeclaration project identity)
      (fun result world => Clean project session start (openStates result) world ∧
        ready result world) (Failing project session start []) := by
    refine Clean.opens openStates fun middle => (Engine.openDeclaration_holding identity).weaken
      (fun _ holds => holds) ?_ fun _ _ fails => fails
    intro result world ended
    cases result with
    | open' opened =>
      obtain ⟨holding, coherent, isOpen⟩ := ended
      refine ⟨holding, ?_⟩
      rintro _ ⟨⟩
      exact ⟨coherent, isOpen⟩
    | published target =>
      refine ⟨ended.1, fun opened impossible => ?_⟩
      cases impossible
  refine (opening.both (Engine.openDeclaration_rooted identity)).weaken
    (fun _ clean => ⟨clean, clean⟩) ?_ fun _ _ fails => fails.1
  intro result world ended
  obtain ⟨⟨clean, isReady⟩, isRooted⟩ := ended
  cases result with
  | open' opened =>
    obtain ⟨coherent, isOpen⟩ := isReady opened rfl
    have rooted := (isRooted opened rfl).1
    exact And.intro isOpen ⟨clean, coherent, rooted⟩
  | published target => exact clean

theorem Failing.ends {action : EngineM α} {before : World → Prop} {after : α → World → Prop}
    (triple : Triple before action after (Failing project session start [])) :
    Triple before action after (Ended project session start) :=
  triple.weaken (fun _ holds => holds) (fun _ _ holds => holds) fun _ _ failing => .inl failing

theorem prove_served (args : Value) :
    Triple (Clean project session start []) (prove project session args)
      (fun _ => Served project session start) (Ended project session start) := by
  refine .bind (Failing.ends (Clean.check rejectUnknown_mild)) fun _ =>
    .bind (Failing.ends (Clean.check requiredTarget_mild)) fun identity =>
      .bind (Failing.ends (rejectActiveProof_clean "prove")) fun _ =>
        .bind (Failing.ends (reconcileArtifact_clean identity.file)) fun _ =>
          .bind (Failing.ends (openDeclaration_resolves identity)) fun result => ?_
  cases result with
  | published target =>
    exact (validatePublished_ended target).weaken (fun _ holds => holds)
      (fun _ _ clean => clean.served) fun _ _ ended => ended
  | open' opened => exact Failing.ends (begins_served opened)

theorem declare_served (args : Value) :
    Triple (Clean project session start []) (declare project session args)
      (fun _ => Served project session start) (Failing project session start []) := by
  refine .bind (Clean.check rejectUnknown_mild) fun _ => .bind (Clean.check requiredString_mild)
    fun name => .bind (Clean.check requiredString_mild) fun file =>
      .bind (Clean.check (declarationKind_mild _)) fun kind =>
        .bind (Clean.check requiredString_mild) fun statement =>
          .bind (rejectActiveProof_clean "declare") fun _ =>
            .bind (reconcileArtifact_clean _) fun _ => ?_
  have opening : Triple (Clean project session start [])
      (Engine.declare project kind (fileOf file) name statement)
      (fun opened world => Clean project session start [opened.state] world ∧
        opened.target.Coherent world ∧ opened.view.lifecycle = .open')
      (Failing project session start []) :=
    Clean.opens (fun opened : OpenedProof => [opened.state]) fun middle =>
      Engine.declare_holding kind (fileOf file) name statement
  refine .bind ((opening.both (Engine.declare_rooted kind (fileOf file) name statement)).weaken
    (fun _ clean => ⟨clean, clean⟩) ?_ fun _ _ fails => fails.1) begins_served
  rintro opened world ⟨⟨clean, coherent, isOpen⟩, rooted, _⟩
  exact ⟨isOpen, clean, coherent, rooted⟩

/-- The proof is retired; if the release has lost the process, the states of the
other sessions are still to be forgotten. -/
def Retired (project : ProjectId) (session : SessionId) (start : World) (lost : Bool)
    (world : World) : Prop :=
  if lost then
    Adrift project world ∧ world.process project = none ∧ Bound project session start world
  else Served project session start world

theorem clearBook_adrift {failed : ε → World → Prop} :
    Triple (fun world => Adrift project world ∧ world.process project = none ∧
        Bound project session start world) (clearBook session)
      (fun _ => Retired project session start true) failed := by
  refine .bind (.gets _) fun book => ?_
  rintro world ⟨⟨adrift, absent, bound⟩, rfl⟩
  exact ⟨adrift.setBook bound.own nofun, absent, bound.step (.setBook (.clear _))⟩

/-- Once its states are released, the book is cleared. -/
theorem clearBook_served {failed : ε → World → Prop} :
    Triple (fun world => Adrift project world ∧ Bound project session start world ∧
        Owned project (world.heldByOthers project session) world) (clearBook session)
      (fun _ => Served project session start) failed := by
  refine .bind (.gets _) fun book => ?_
  rintro world ⟨⟨adrift, bound, owned⟩, rfl⟩
  refine ⟨⟨adrift.setBook bound.own nofun, ?_⟩, bound.step (.setBook (.clear _))⟩
  have held : (world.heldByOthers project session).Perm
      ((world.setCheckpoints session (world.selections session).checkpoints.clear).held project) :=
    (World.held_setCheckpoints bound.own (world.selections session).checkpoints.clear).symm
  exact (owned.perm held).framed rfl rfl (Nat.le_refl _) (fun _ suffered => suffered) rfl

theorem retireProof_retired :
    Triple (Clean project session start []) (retireProof project session)
      (Retired project session start) (Failing project session start []) := by
  refine .each_state fun middle clean => ?_
  refine .through (fun book world => world = middle ∧
    book = (middle.selections session).checkpoints) ?_ fun book => .assume fun read => ?_
  · rintro _ rfl
    exact ⟨rfl, rfl⟩
  subst read
  let held := (middle.selections session).checkpoints.states
  let others := middle.heldByOthers project session
  have released : Triple (· = middle) (PetActor.releaseStates project held)
      (fun _ => Holding project middle false others) (PetFails project middle (held ++ others)) := by
    refine (PetActor.releaseStates_refused held).weaken ?_ (fun _ _ holds => holds)
      fun _ _ fails => fails
    rintro _ rfl
    exact (clean.toServing.holding _ rfl).perm (World.held_own clean.own)
  refine .bind (.attempt released) fun result => ?_
  cases result with
  | ok _ =>
    refine .bind (clearBook_served.weaken ?_ (fun _ _ holds => holds) fun _ _ holds => holds)
      fun _ => .pure fun _ served => served
    exact fun world holding => ⟨clean.toAdrift.calm holding.calm, clean.toBound.calm holding.calm, by
      rw [show world.heldByOthers project session = others from
        World.heldByOthers_congr holding.calm.connections holding.calm.selections]
      exact holding.owned⟩
  | error error =>
    refine .ite (fun loss => ?_) fun kept => .throw ?_
    · refine .bind (clearBook_adrift.weaken ?_ (fun _ _ holds => holds) fun _ _ holds => holds)
        fun _ => .pure fun _ retired => retired
      rintro world (⟨_, mild⟩ | ⟨gone, _⟩)
      · simp [PetError.invalidatesProcess, loss] at mild
      · exact ⟨clean.toAdrift.calm gone.calm, gone.absent, clean.toBound.calm gone.calm⟩
    · rintro world (⟨holding, mild⟩ | ⟨gone, told⟩)
      · have back : Holding project middle false ([] ++ middle.held project) world :=
          holding.perm (World.held_own clean.own).symm
        refine ⟨clean.toUnseen.calm holding.calm, .inl ⟨clean.toServing.calm back, .of_kind ?_⟩⟩
        rw [petReleaseError_telling]
        exact mild
      · refine ⟨clean.toUnseen.calm gone.calm, .inr ⟨clean.toAdrift.calm gone.calm, .inr ⟨?_, gone.absent⟩⟩⟩
        rw [petReleaseError_telling]
        exact told

/-- A loss that the release has found reaches every session of the project. -/
theorem forgetLost_served (lost : Bool) {failed : ε → World → Prop} :
    Triple (Retired project session start lost)
      (Act.when lost (invalidateProjectStates project session))
      (fun _ => Served project session start) failed := by
  cases lost with
  | false => exact .pure fun _ served => served
  | true =>
    rintro world ⟨adrift, absent, bound⟩
    exact ⟨(adrift.invalidated bound.own.attached).serving absent (World.forgotten_invalidated ..),
      bound.invalidated⟩

theorem abandon_served (args : Value) :
    Triple (Clean project session start []) (abandon project session args)
      (fun _ => Served project session start) (Failing project session start []) :=
  .bind (Clean.check rejectUnknown_mild) fun _ => .bind (Clean.check requiredTarget_mild)
    fun _ => .bind activeProof_clean fun _ => .bind (Clean.ensure (.of_kind rfl)) fun _ =>
      .bind commitOrCancelled_failing fun _ => .bind retireProof_retired fun lost =>
        .bind (forgetLost_served lost) fun _ => .pure fun _ served => served

theorem ofBook_clean (result : Except CheckpointError α) :
    Triple (Clean project session start temps) (ofBook result)
      (fun _ => Clean project session start temps) (Failing project session start temps) := by
  cases result with
  | ok value => exact .pure fun _ clean => clean
  | error error => exact Clean.rejects (checkpointError_mild error)

theorem rewindTarget_clean (args : Value) :
    Triple (Clean project session start []) (rewindTarget session args)
      (fun _ => Clean project session start []) (Failing project session start []) := by
  refine .bind Clean.reads fun book => ?_
  split
  · exact Clean.check (require_mild _)
  · exact .bind (Clean.check (require_mild _)) fun _ => ofBook_clean _
  · exact ofBook_clean _

theorem restoreCheckpoint_clean (target : CheckpointId) :
    Triple (Clean project session start []) (restoreCheckpoint project session target)
      (fun _ => Clean project session start []) (Failing project session start []) := by
  refine .bind (.gets _) fun book => .through (fun _ world => Clean project session start [] world ∧
    Kept session book world) ?_ fun node => .ite (fun _ => ?_) fun _ => .pure fun _ holds => holds.1
  · rintro world ⟨clean, rfl⟩
    exact (ofBook_kept.weaken (fun _ holds => holds) (fun _ _ holds => holds.1)
      fun _ _ fails => fails.1) world ⟨clean, rfl⟩
  · exact .bind (replayCheckpoint_clean target) fun _ => .pure fun _ holds => holds.1

/-- Another checkpoint of the proof is selected. -/
theorem select_served {target : CheckpointId} {next : CheckpointBook}
    (clean : Clean project session start [] world)
    (selected : (world.selections session).checkpoints.select target = .ok next) :
    Served project session start (world.setCheckpoints session next) := by
  obtain ⟨proof, known, active, active'⟩ := CheckpointBook.select_ok selected
  refine ⟨clean.toServing.setBook clean.own ?_ ?_, clean.toBound.step (.setBook (.select selected))⟩
  · intro proof' isProof
    obtain rfl := Option.some.inj (active'.symm.trans isProof)
    have sound := clean.consistent.proofs session proof active
    exact ⟨sound.coherent, sound.views, sound.derived⟩
  · simp only [CheckpointBook.states, active, active']
    exact .refl _

theorem rewind_served (args : Value) :
    Triple (Clean project session start []) (rewind project session args)
      (fun _ => Served project session start) (Failing project session start []) := by
  refine .bind (Clean.check rejectUnknown_mild) fun _ => .bind (Clean.ensure (.of_kind rfl))
    fun _ => .bind (rewindTarget_clean args) fun target => .bind activeProof_clean fun proof =>
      .bind (validateTarget_clean _) fun _ => .bind (reconcileArtifact_clean _) fun _ =>
        .bind (restoreCheckpoint_clean target) fun _ => .bind commitOrCancelled_failing
          fun _ => .bind (.gets _) fun before => ?_
  rcases selected : before.select target with error | next
  · exact (Clean.rejects (checkpointError_mild error)).weaken (fun _ holds => holds.1)
      (fun _ _ holds => holds) fun _ _ fails => fails
  · rintro world ⟨clean, rfl⟩
    obtain ⟨proof, known, _, active⟩ := CheckpointBook.select_ok selected
    obtain ⟨node, found⟩ := CheckpointBook.lookup_active active known
    simp only [setBook, Act.modify, bind, Act.bind, ofBook, found, pure, Act.pure]
    exact select_served clean selected

end Adapter

end

end RocqMcp
