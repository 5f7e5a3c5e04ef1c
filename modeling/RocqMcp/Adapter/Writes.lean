import RocqMcp.Adapter.Explained
import RocqMcp.Adapter.Events

/-! Which source files the server writes. Only a `check` writes one, and it is
the file of the proof that is selected in its session; every other event leaves
the source tree to the other programs. -/

namespace RocqMcp

open Library

/-- A later state of the same server, which has since written only what it may. -/
structure Onward (may : Path → Prop) (before after : World) : Prop where
  environment : after.environment = before.environment
  initialSources : after.initialSources = before.initialSources
  now : before.now ≤ after.now
  journal : ∃ writes, after.journal = writes ++ before.journal ∧
    ∀ write ∈ writes, write.author = .server → may write.path
  noted : ∃ mishaps, after.ghost.mishaps = mishaps ++ before.ghost.mishaps

/-- The file of the proof that is selected in a session. -/
def Selects (world : World) (session : SessionId) (path : Path) : Prop :=
  ∃ tree ∈ (world.standing session).tree, tree.target.anchor.source = path

/-- The event is a check of a session whose selected proof lies in the file. -/
def Event.Publishes (world : World) (path : Path) : Event → Prop
  | .request session name _ => name = "check" ∧ Selects world session path
  | _ => False

section

variable {may wider : Path → Prop} {first middle last world after : World}

instance : IsPreorder World (Onward may) where
  refl _ := ⟨rfl, rfl, Nat.le_refl _, ⟨[], rfl, by simp⟩, ⟨[], rfl⟩⟩
  trans _ _ _ early late := by
    obtain ⟨writes, grown, allowed⟩ := early.journal
    obtain ⟨writes', grown', allowed'⟩ := late.journal
    obtain ⟨mishaps, noted⟩ := early.noted
    obtain ⟨mishaps', noted'⟩ := late.noted
    refine ⟨late.environment.trans early.environment,
      late.initialSources.trans early.initialSources, Nat.le_trans early.now late.now,
      ⟨writes' ++ writes, by rw [grown', grown, List.append_assoc], ?_⟩,
      ⟨mishaps' ++ mishaps, by rw [noted', noted, List.append_assoc]⟩⟩
    intro write member
    rcases List.mem_append.mp member with new | old
    · exact allowed' write new
    · exact allowed write old

theorem Onward.weaken (onward : Onward may first last) (implied : ∀ path, may path → wider path) :
    Onward wider first last where
  environment := onward.environment
  initialSources := onward.initialSources
  now := onward.now
  journal := by
    obtain ⟨writes, grown, allowed⟩ := onward.journal
    exact ⟨writes, grown, fun write member server => implied _ (allowed write member server)⟩
  noted := onward.noted

theorem Meanwhile.onward (meanwhile : Meanwhile first last) : Onward may first last where
  environment := meanwhile.environment
  initialSources := meanwhile.initialSources
  now := meanwhile.now
  journal := by
    obtain ⟨writes, grown, external⟩ := meanwhile.journal
    refine ⟨writes, grown, fun write member server => ?_⟩
    rw [external write member] at server
    cases server
  noted := meanwhile.noted

theorem Onward.of_same (environment : last.environment = first.environment)
    (initialSources : last.initialSources = first.initialSources) (now : last.now = first.now)
    (journal : last.journal = first.journal) (mishaps : last.ghost.mishaps = first.ghost.mishaps) :
    Onward may first last where
  environment := environment
  initialSources := initialSources
  now := Nat.le_of_eq now.symm
  journal := ⟨[], journal, by simp⟩
  noted := ⟨[], mishaps⟩

instance : Caches (Onward may) where
  idle _ _ idle := idle.toMeanwhile.onward
  setRuntime _ _ _ := .of_same rfl rfl rfl rfl rfl
  record _ _ := .of_same rfl rfl rfl rfl rfl
  recordTurn _ _ := .of_same rfl rfl rfl rfl rfl
  recordChange _ _ := .of_same rfl rfl rfl rfl rfl
  recordSplice _ _ := .of_same rfl rfl rfl rfl rfl
  shelve _ _ _ _ _ := .of_same rfl rfl rfl rfl rfl
  invalidate _ _ _ := ⟨rfl, rfl, Nat.le_refl _, ⟨[], rfl, by simp⟩, ⟨_, rfl⟩⟩

theorem onward_writes {path : Path} (allowed : may path) :
    Writeback.Writes (Onward may) path := by
  refine fun world bytes => ⟨rfl, rfl, Nat.le_refl _, ⟨[_], rfl, ?_⟩, ⟨[], rfl⟩⟩
  intro write member _
  rw [List.mem_singleton.mp member]
  exact allowed

namespace Adapter

variable {project : ProjectId} {session : SessionId} {name : String} {args : Value}

theorem setBook_onward (book : CheckpointBook) :
    Stays (Onward may) (setBook session book : Act World ε Unit) :=
  .modify fun _ => .of_same rfl rfl rfl rfl rfl

theorem clearBook_onward : Stays (Onward may) (clearBook session : Act World ε Unit) :=
  .bind (.gets _) fun _ => setBook_onward _

theorem setProject_onward (selected : Option ProjectId) :
    Stays (Onward may) (.modify fun world => world.setSelection session
      { world.selections session with project := selected } : EngineM Unit) :=
  .modify fun _ => .of_same rfl rfl rfl rfl rfl

theorem recordCompleted_onward (file : FileId) {otherwise : EngineM Unit}
    (stays : Stays (Onward may) otherwise) :
    Stays (Onward may) (recordCompleted project file otherwise) := by
  refine .bind (.attempt (framed (Engine.artifactFingerprint_idle project file))) fun result => ?_
  cases result with
  | ok fingerprint => exact recordArtifact_cached project file fingerprint
  | error error => exact stays

theorem rejectActiveProof_onward (operation : String) :
    Stays (Onward may) (rejectActiveProof session operation) :=
  .bind (.gets _) fun _ => .ensure _ _

theorem beginProof_onward (opened : OpenedProof) :
    Stays (Onward may) (beginProof project session opened) := by
  refine .bind (framed commitOrCancelled_idle) fun _ => .bind (.gets _) fun book => ?_
  split
  · exact .bind (release_cached project _) fun _ => .throw _
  · exact .bind (setBook_onward _) fun _ => .bind (ofBook_cached _) fun _ => .pure _

theorem validatePublished_onward (target : DeclarationTarget) :
    Stays (Onward may) (validatePublished project session target) :=
  .bind (invalidateProjectStates_cached project session) fun _ =>
    .bind (Engine.validatePublished_framed project target) fun _ =>
    .bind (recordCompleted_onward _ (.pure ())) fun _ => .pure _

theorem prove_onward : Stays (Onward may) (prove project session args) := by
  refine .bind (.ofExcept _) fun _ => .bind (.ofExcept _) fun identity =>
    .bind (rejectActiveProof_onward _) fun _ => .bind (reconcileArtifact_cached project session _)
    fun _ => .bind (Engine.openDeclaration_framed project identity) fun result => ?_
  cases result with
  | published target => exact validatePublished_onward target
  | open' opened => exact beginProof_onward opened

theorem declare_onward : Stays (Onward may) (declare project session args) :=
  .bind (.ofExcept _) fun _ => .bind (.ofExcept _) fun _ => .bind (.ofExcept _) fun _ =>
    .bind (.ofExcept _) fun _ => .bind (.ofExcept _) fun _ =>
    .bind (rejectActiveProof_onward _) fun _ => .bind (reconcileArtifact_cached project session _)
    fun _ => .bind (Engine.declare_framed project _ _ _ _) fun opened => beginProof_onward opened

theorem retireProof_onward : Stays (Onward may) (retireProof project session) := by
  refine .bind (.gets _) fun _ => .bind (.attempt (PetActor.releaseStates_framed project _))
    fun result => ?_
  cases result with
  | ok _ => exact .bind clearBook_onward fun _ => .pure _
  | error error => exact .ite (fun _ => .bind clearBook_onward fun _ => .pure _) fun _ => .throw _

theorem abandon_onward : Stays (Onward may) (abandon project session args) :=
  .bind (.ofExcept _) fun _ => .bind (.ofExcept _) fun _ => .bind (activeProof_cached session)
    fun _ => .bind (.ensure _ _) fun _ => .bind (framed commitOrCancelled_idle) fun _ =>
    .bind retireProof_onward fun _ =>
    .bind (.when _ (invalidateProjectStates_cached project session)) fun _ => .pure _

/-! ### Check -/

section

variable {context : CheckContext} {accepted : Accepted} {checkpoint : CheckpointId}
  (allowed : may context.target.anchor.source)

theorem settlePublication_onward (result : Except Error ProofState) :
    Stays (Onward may)
      (settlePublication project session context accepted checkpoint result) := by
  cases result with
  | ok state =>
    exact .bind (recordCompleted_onward _ (forgetArtifact_cached project _)) fun _ =>
      .bind clearBook_onward fun _ => .pure _
  | error error =>
    exact .bind (forgetArtifact_cached project _) fun _ => .ite (fun _ => .pure _) fun _ =>
      .bind (.gets _) fun _ => .bind (framed (noteWhen_idle _ _)) fun _ =>
      .bind clearBook_onward fun _ => .pure _

include allowed

theorem publishAccepted_onward :
    Stays (Onward may) (publishAccepted project session context accepted checkpoint) :=
  .bind (.gets _) fun _ => .bind (ofBook_cached _) fun path =>
    .bind (.modify fun _ => .of_same rfl rfl rfl rfl rfl) fun _ =>
    .bind (.attempt (Engine.publish_framed project _ path (onward_writes allowed)
      (invalidateProjectStates_cached project session))) fun result =>
    settlePublication_onward result

theorem finishAccepted_onward (closeError : Option Error) :
    Stays (Onward may)
      (finishAccepted project session context accepted closeError checkpoint) := by
  cases closeError with
  | some error =>
    exact .bind (.when _ (invalidateProjectStates_cached project session)) fun _ => .pure _
  | none => exact .ite (fun _ => publishAccepted_onward allowed) fun _ => .pure _

omit allowed

theorem closeAccepted_cached {relation : World → World → Prop} [Caches relation] :
    Stays relation (closeAccepted project context accepted) := by
  refine .ite (fun _ => .bind (.attempt (Engine.closeProof_framed project _ _)) fun result => ?_)
    fun _ => .pure _
  cases result with
  | ok _ => exact .pure _
  | error error => exact .ite (fun _ => .throw error) fun _ => .pure _

include allowed

theorem accept_onward : Stays (Onward may) (accept project session context accepted) := by
  refine .bind closeAccepted_cached fun closeError => .bind (framed commitOrCancelled_idle)
    fun _ => .bind (.gets _) fun book => ?_
  dsimp only
  split
  · exact .bind (setBook_onward _) fun _ => .bind (release_cached project _) fun _ => .throw _
  · exact .bind (setBook_onward _) fun _ => finishAccepted_onward allowed closeError

theorem checkFragments_onward (fragments : List String) (index : Nat) (rejected : List Rejection) :
    Stays (Onward may) (checkFragments project session context index rejected fragments) := by
  induction fragments generalizing index rejected with
  | nil => exact .bind (.gets _) fun _ => .bind (ofBook_cached _) fun _ => .pure _
  | cons fragment rest ih =>
    refine .bind (evaluate_cached project session context fragment) fun result => ?_
    match result with
    | .ok (.success step) => exact accept_onward allowed
    | .ok (.failure failure) => exact ih _ _
    | .error error => exact ih _ _

end

/-- The alternatives are run in the proof that is selected. -/
theorem enterProof_selected {base : SessionId → Standing} (arguments : AttemptArguments) :
    Triple (At base) (enterProof project session arguments)
      (fun context _ => ∃ tree ∈ (base session).tree, context.target = tree.target)
      fun _ _ => True := by
  have still {α : Type} {action : EngineM α} (stays : Stays Still action) :
      Triple (At base) action (fun _ => At base) fun _ _ => True := (Still.at' stays).lax
  refine .bind (still (activeProof_cached session)) fun proof =>
    .bind (still (framed (Engine.validateTarget_idle project proof.target))) fun _ =>
    .bind (still (reconcileArtifact_cached project session _)) fun _ =>
    .bind (still (ensureCurrentState_cached project session)) fun current => .through
    (fun proof _ => ∃ tree ∈ (base session).tree, proof.target = tree.target) ?_ fun proof => ?_
  · refine .bind (.gets _) fun book => ?_
    rintro world ⟨holds, rfl⟩
    cases active : (world.selections session).checkpoints.proof with
    | none => trivial
    | some proof =>
      refine ⟨proof.tree, ?_, rfl⟩
      rw [← At.tree holds, CheckpointBook.tree, active]
      rfl
  · exact .given fun selected => .last fun _ => .pure fun _ _ => selected

theorem check_writes {start : World} :
    Triple (· = start) (check project session args)
      (fun _ => Onward (Selects start session) start)
      fun _ => Onward (Selects start session) start := by
  refine .through (fun _ => (· = start)) ?_ fun arguments => .through (fun context world =>
    Onward (Selects start session) start world ∧ Selects start session context.target.anchor.source)
    ?_ fun context => .assume fun allowed => ?_
  · exact ((Triple.ofExcept _).weaken (fun _ same => same) (fun _ _ holds => holds.1)
      fun _ _ holds => holds.1 ▸ refl_of (Onward _) _)
  · have entered : Stays (Onward (Selects start session)) (enterProof project session arguments) :=
      enterProof_cached project session arguments
    refine (Triple.both entered.started (enterProof_selected arguments)).weaken
      (fun _ same => ⟨same, congrArg World.standing same⟩) ?_ fun _ _ holds => holds.1
    rintro context world ⟨onward, tree, selected, same⟩
    exact ⟨onward, tree, selected, by rw [same]⟩
  · exact (checkFragments_onward allowed _ _ _).keeps fun _ _ late early =>
      trans_of (Onward _) early late

/-! ### The other tools, and the dispatch -/

theorem query_onward : Stays (Onward may) (query project session args) := by
  have locate : Stays (Onward may) (locateSymbol project session args) :=
    .bind (.ofExcept _) fun _ => .bind (.ofExcept _) fun _ => .bind (.ensure _ _) fun _ =>
      .bind (.ofExcept _) fun _ => .bind (framed (Engine.locateSymbolCandidates_idle project _))
      fun _ => .bind (reconcileArtifacts_cached project session _) fun _ =>
      .bind (Engine.resolveSymbolCandidates_framed project _ _ _) fun _ => .pure _
  have goals : Stays (Onward may) (queryGoals project session args) :=
    .bind (.ofExcept _) fun _ => .bind (activeProof_cached session) fun proof =>
      .bind (framed (Engine.validateTarget_idle project proof.target)) fun _ =>
      .bind (reconcileArtifact_cached project session _) fun _ =>
      .bind (ensureCurrentState_cached project session) fun _ =>
      .bind (activeProof_cached session) fun _ => .bind (Engine.goals_framed project _ _ _ _)
      fun _ => .bind (.ofExcept _) fun _ => .bind (.gets _) fun _ => .pure _
  have selected (query : PetQuery) (offset : Nat) :
      Stays (Onward may) (querySelected project session query offset) :=
    .bind (ensureCurrentState_cached project session) fun _ => .bind (activeProof_cached session)
      fun _ => .bind (Engine.queryState_framed project _ _ query) fun _ => .bind (.ofExcept _)
      fun _ => .pure _
  have context (identity : DeclarationIdentity) (query : PetQuery) (offset : Nat) :
      Stays (Onward may) (queryContext project identity query offset) :=
    .bind (Engine.queryAt_framed project identity query) fun _ => .bind (.ofExcept _) fun _ =>
      .pure _
  have declaration (query : String → PetQuery) :
      Stays (Onward may) (queryDeclaration project session args query) :=
    .bind (.ofExcept _) fun _ => .bind (.ofExcept _) fun _ => .bind (.ofExcept _) fun _ =>
      .bind (reconcileArtifact_cached project session _) fun _ => .bind (.gets _) fun _ =>
      .ite (fun _ => selected _ _) fun _ => context _ _ _
  have text (field : String) (query : String → PetQuery) :
      Stays (Onward may) (queryText project session args field query) := by
    refine .bind (.ofExcept _) fun _ => .bind (.ofExcept _) fun _ => .bind (.ofExcept _) fun _ => ?_
    split
    · exact .bind (.ofExcept _) fun _ => .bind (reconcileArtifact_cached project session _)
        fun _ => context _ _ _
    · refine .bind (.gets _) fun book => ?_
      split
      · exact .bind (reconcileArtifact_cached project session _) fun _ => selected _ _
      · exact .throw _
  exact .bind (.ofExcept _) fun _ => .ite (fun _ => locate) fun _ => .ite (fun _ => goals) fun _ =>
    .ite (fun _ => declaration _) fun _ => .ite (fun _ => declaration _) fun _ =>
    .ite (fun _ => declaration _) fun _ => .ite (fun _ => declaration _) fun _ =>
    .ite (fun _ => text _ _) fun _ => .ite (fun _ => text _ _) fun _ =>
    .ite (fun _ => text _ _) fun _ => .throw _

theorem rewind_onward : Stays (Onward may) (rewind project session args) := by
  refine .bind (.ofExcept _) fun _ => .bind (.ensure _ _) fun _ => .bind ?_ fun target =>
    .bind (activeProof_cached session) fun proof =>
    .bind (framed (Engine.validateTarget_idle project proof.target)) fun _ =>
    .bind (reconcileArtifact_cached project session _) fun _ =>
    .bind (restoreCheckpoint_cached project session target) fun _ =>
    .bind (framed commitOrCancelled_idle) fun _ => .bind (.gets _) fun _ =>
    .bind (ofBook_cached _) fun _ => .bind (setBook_onward _) fun _ => .bind (ofBook_cached _)
    fun _ => .pure _
  refine .bind (.gets _) fun book => ?_
  split
  · exact .ofExcept _
  · exact .bind (.ofExcept _) fun _ => ofBook_cached _
  · exact ofBook_cached _

/-- Only `check` writes. -/
theorem dispatchAttached_writes {start : World} :
    Triple (· = start) (dispatchAttached project session name args)
      (fun _ => Onward (fun path => (Event.request session name args).Publishes start path) start)
      fun _ => Onward (fun path => (Event.request session name args).Publishes start path) start := by
  refine .ite (fun _ => Stays.started ?_) fun _ => .ite (fun _ => Stays.started ?_) fun _ =>
    .ite (fun _ => prove_onward.started) fun _ => .ite (fun _ => declare_onward.started) fun _ =>
    .ite (fun _ => abandon_onward.started) fun _ => .ite (fun same => ?_) fun _ =>
    .ite (fun _ => Stays.started ?_) fun _ => .ite (fun _ => rewind_onward.started) fun _ =>
    .ite (fun _ => query_onward.started) fun _ => (Stays.throw _).started
  · exact .bind (.ofExcept _) fun _ => .bind (framed (Engine.listFiles_idle project)) fun _ => .pure _
  · exact .bind (.ofExcept _) fun _ => .bind (.ofExcept _) fun _ =>
      .bind (reconcileArtifact_cached project session _) fun _ =>
      .bind (Engine.listDecls_framed project _) fun _ => .pure _
  · exact check_writes.weaken (fun _ same => same)
      (fun _ _ onward => onward.weaken fun _ own => ⟨same, own⟩)
      fun _ _ onward => onward.weaken fun _ own => ⟨same, own⟩
  · exact .bind (.ofExcept _) fun _ => .bind (enterProof_cached project session _) fun _ =>
      .bind (tryEach_cached project session _ _) fun _ => .pure _

theorem settleRequest_cached {relation : World → World → Prop} [Caches relation]
    (result : Except Error Response) : Stays relation (settleRequest project session result) := by
  cases result with
  | ok response => exact .pure _
  | error error =>
    exact .bind (.when _ (PetActor.restart_framed project)) fun _ =>
      .bind (.when _ (invalidateProjectStates_cached project session)) fun _ => .throw _

theorem Event.Publishes.still {event : Event} {path : Path} (still : Still world after)
    (publishes : event.Publishes after path) : event.Publishes world path := by
  cases event with
  | request other _ _ =>
    obtain ⟨same, tree, selected, source⟩ := publishes
    exact ⟨same, tree, congrFun still other ▸ selected, source⟩
  | _ => exact publishes

theorem dispatchProject_writes {start : World} :
    Triple (· = start) (dispatchProject project session name args)
      (fun _ => Onward ((Event.request session name args).Publishes start) start)
      fun _ => Onward ((Event.request session name args).Publishes start) start := by
  let own : Path → Prop := (Event.request session name args).Publishes start
  let begun (world : World) : Prop := Still start world ∧ Onward own start world
  have kept {α : Type} {action : EngineM α} (still : Stays Still action)
      (onward : Stays (Onward own) action) :
      Triple begun action (fun _ => begun) fun _ => Onward own start :=
    (Triple.both (still.keeps fun _ _ late early => trans_of Still early late)
      (onward.keeps fun _ _ late early => trans_of (Onward own) early late)).weaken
        (fun _ holds => holds) (fun _ _ holds => holds) fun _ _ holds => holds.2
  have settles {result : Except Error Response} :
      Triple (Onward own start) (settleRequest project session result) (fun _ => Onward own start)
        fun _ => Onward own start :=
    (settleRequest_cached result).keeps fun _ _ late early => trans_of (Onward own) early late
  have dispatched : Triple begun (dispatchAttached project session name args)
      (fun _ => Onward own start) fun _ => Onward own start := by
    refine .each_state fun middle ⟨still, onward⟩ => ?_
    have later : ∀ world, Onward ((Event.request session name args).Publishes middle) middle world →
        Onward own start world := fun world late =>
      trans_of (Onward own) onward (late.weaken fun _ publishes => Event.Publishes.still still publishes)
    exact dispatchAttached_writes.weaken (fun _ same => same) (fun _ => later) fun _ => later
  rintro _ rfl
  refine Triple.bind (kept (framed rejectCancelled_idle) (framed rejectCancelled_idle)) (fun _ =>
    .bind (kept (Engine.refreshProject_framed project) (Engine.refreshProject_framed project))
    fun changed => .bind (kept (admitLayout_cached changed) (admitLayout_cached changed)) fun _ =>
    .bind (kept (framed rejectCancelled_idle) (framed rejectCancelled_idle)) fun _ =>
    .bind (.attempt dispatched) fun result => ?_) _ ⟨rfl, refl_of (Onward own) _⟩
  cases result with
  | ok response => exact settles
  | error error => exact settles

theorem installStartView_onward : Stays (Onward may) (installStartView project session) :=
  .bind (Engine.refreshProject_framed project) fun changed => .bind (setProject_onward _) fun _ =>
    admitLayout_cached changed

theorem enterProject_onward : Stays (Onward may) (enterProject project session) :=
  .bind (framed rejectCancelled_idle) fun _ => .bind (framed commitOrCancelled_idle) fun _ =>
    installStartView_onward

theorem retireForStart_onward : Stays (Onward may) (retireForStart project session) :=
  .bind (framed rejectCancelled_idle) fun _ => .bind (framed commitOrCancelled_idle) fun _ =>
    .bind retireProof_onward fun _ => .when _ (invalidateProjectStates_cached project session)

theorem detach_onward : Stays (Onward may) (detach project session) :=
  .bind retireForStart_onward fun _ => setProject_onward none

theorem start_onward : Stays (Onward may) (start session args) := by
  refine .bind (.ofExcept _) fun _ => .bind (.ofExcept _) fun _ =>
    .bind (framed Engine.attach_idle) fun attached => .bind (openRuntime_cached attached) fun _ =>
    .bind (.gets _) fun found => ?_
  cases found with
  | none => exact .bind enterProject_onward fun _ => .pure _
  | some previous =>
    exact .ite (fun _ => .bind retireForStart_onward fun _ => .bind installStartView_onward
      fun _ => .pure _) fun _ => .bind detach_onward fun _ => .bind enterProject_onward fun _ =>
      .pure _

theorem dispatch_writes {start : World} :
    Triple (· = start) (dispatch session name args)
      (fun _ => Onward ((Event.request session name args).Publishes start) start)
      fun _ => Onward ((Event.request session name args).Publishes start) start := by
  let own : Path → Prop := (Event.request session name args).Publishes start
  have cancelled : Stays (Onward own) rejectCancelled := framed rejectCancelled_idle
  have still : Stays Still rejectCancelled := framed rejectCancelled_idle
  refine .bind ((Triple.both still.started cancelled.started).weaken (fun _ same => ⟨same, same⟩)
    (fun _ _ holds => holds) fun _ _ holds => holds.2) fun _ => .each_state
    fun middle ⟨still, onward⟩ => ?_
  have later : ∀ world, Onward ((Event.request session name args).Publishes middle) middle world →
      Onward own start world := fun world late =>
    trans_of (Onward own) onward (late.weaken fun _ publishes => Event.Publishes.still still publishes)
  refine Triple.weaken ?_ (fun _ same => same) (fun _ => later) fun _ => later
  refine .ite (fun _ => Stays.started ?_) fun _ => .ite (fun _ => start_onward.started) fun _ =>
    .bind (.gets _) fun found => ?_
  · exact .bind (.ofExcept _) fun _ => .bind (.ofExcept _) fun _ => .pure _
  · cases found with
    | none =>
      exact .throw fun world holds => holds.1 ▸ refl_of (Onward _) _
    | some project =>
      exact dispatchProject_writes.weaken (fun _ holds => holds.1) (fun _ _ holds => holds)
        fun _ _ holds => holds

theorem dropSession_onward : Stays (Onward may) (dropSession session) := by
  refine .bind (.gets _) fun found => ?_
  cases found with
  | none => exact .pure ()
  | some project =>
    exact .bind (.gets _) fun _ => .bind clearBook_onward fun _ =>
      .bind (PetActor.bestEffort_framed project (PetActor.releaseStates_framed project _))
      fun _ => .pure ()

end Adapter

namespace World

theorem begin_onward (world : World) (signal : Signal) : Onward may world (world.begin signal) :=
  .of_same rfl rfl rfl rfl rfl

/-- A request writes nothing but the source of a proof that it publishes. -/
theorem request_onward (world : World) (session : SessionId) (name : String) (args : Value) :
    Onward ((Event.request session name args).Publishes world) world
      (world.request session name args).2 :=
  trans_of (Onward _) (world.begin_onward .active)
    (Adapter.dispatch_writes.ends rfl (fun _ _ onward => onward) fun _ _ onward => onward)

theorem step_onward {event : Event} (moved : world.step event = some after) :
    Onward (event.Publishes world) world after := by
  cases event with
  | connect =>
    obtain rfl := Option.some.inj moved
    exact .of_same rfl rfl rfl rfl rfl
  | request session name args =>
    simp only [step] at moved
    split at moved
    · obtain rfl := Option.some.inj moved
      exact world.request_onward session name args
    · cases moved
  | detach session =>
    simp only [step] at moved
    split at moved
    · split at moved
      · obtain rfl := Option.some.inj moved
        exact trans_of (Onward _) (world.begin_onward .active) (Adapter.detach_onward _)
      · cases moved
    · cases moved
  | enter session committed =>
    simp only [step] at moved
    split at moved
    · obtain rfl := Option.some.inj moved
      have entered (may : Path → Prop) : Stays (Onward may) (do
          let attached ← Engine.attach
          Adapter.openRuntime attached
          Adapter.enterProject attached.root session) :=
        .bind (framed Engine.attach_idle) fun attached =>
          .bind (Adapter.openRuntime_cached attached) fun _ => Adapter.enterProject_onward
      exact trans_of (Onward _) (world.begin_onward _) (entered _ _)
    · cases moved
  | disconnect session =>
    simp only [step] at moved
    split at moved
    · obtain rfl := Option.some.inj moved
      exact .of_same rfl rfl rfl rfl rfl
    · cases moved
  | drop session =>
    simp only [step] at moved
    split at moved
    · obtain rfl := Option.some.inj moved
      have dropped (may : Path → Prop) : Stays (Onward may) (Adapter.dropSession session) :=
        Adapter.dropSession_onward
      have emptied (may : Path → Prop) (world : World) : Onward may world
          ((world.setSelection session .empty).setClosing session false) :=
        .of_same rfl rfl rfl rfl rfl
      exact trans_of (Onward _) (trans_of (Onward _) (world.begin_onward .active) (dropped _ _))
        (emptied _ _)
    · cases moved

/-- Whatever the connections do, the server does not touch a file unless some
session checks the proof that it has selected in that file. -/
theorem unpublished_unwritten {path : Path}
    (run : Reachable step (fun world event => ¬ event.Publishes world path) world after) :
    Onward (· ≠ path) world after := by
  refine run.invariant (Onward (· ≠ path) world) (refl_of (Onward _) world) ?_
  intro between event next onward spares moved
  refine trans_of (Onward _) onward ((step_onward moved).weaken fun other publishes same => ?_)
  exact spares (same ▸ publishes)

end World

end

namespace Sample

/-- A PET that accepts the fragment, and finds the declaration finished in the
new source. -/
def resolve (now : Nat) : PetCall → PetReply Unit
  | .documentDeclarations _ => .declarations [{ row with proofFinished := 60 ≤ now }]
  | .assumptions _ _ => .assumptions { assumptions := [], theory := ⟨false, false, false⟩ }
  | .runTrace _ _ _ => .traceSuccess () true
  | .run _ _ => .run () true (some "")
  | .goals state =>
    if state.value = 3 then .null else .goals { PetGoals.outsideProof with proofMode := true }
  | call => answer call

def resolving : Environment :=
  { environment with
    tick := fun now => { tick with rpc := fun call => .returned (resolve now call) } }

def opening : List Event := [.connect, attach, prove]

/-- The check publishes the proof, whose file is not the other one. -/
def publishes (world : World) : Bool :=
  (world.step check).any fun after =>
    world.sources ["p", "B.v"] = some [] &&
      after.sources ["p", "A.v"] ≠ world.sources ["p", "A.v"] &&
      (world.standing 0).tree.all fun tree => tree.target.anchor.source ≠ ["p", "B.v"]

@[irreducible]
def publishingRun : { world : World // World.Reached world ∧ publishes world = true } :=
  World.reaching resolving twoSources opening publishes (by decide +kernel)

def publishing : World := publishingRun.val

end Sample

theorem World.unpublished_unwritten_published : ∃ after,
    Sample.publishing.step Sample.check = some after ∧
      Sample.publishing.sources ["p", "B.v"] = some [] ∧
      after.sources ["p", "A.v"] ≠ Sample.publishing.sources ["p", "A.v"] ∧
      Onward (· ≠ ["p", "B.v"]) Sample.publishing after := by
  obtain ⟨-, facts⟩ := Sample.publishingRun.property
  obtain ⟨after, moved, facts⟩ := (Option.any_eq_true _ _).mp facts
  simp only [Bool.and_eq_true, decide_eq_true_eq] at facts
  obtain ⟨⟨there, published⟩, elsewhere⟩ := facts
  refine ⟨after, moved, there, published, World.unpublished_unwritten (.next .initial ?_ moved)⟩
  rintro ⟨-, tree, selected, source⟩
  exact of_decide_eq_true ((Option.all_eq_true _ _).mp elsewhere tree selected) source

end RocqMcp
