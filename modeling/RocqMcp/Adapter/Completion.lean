import RocqMcp.Adapter.Reads
import RocqMcp.Adapter.Transaction

/-! What a result rests on that reports a completed proof: in this request and in
one PET epoch, the source was built, and the declaration was resolved as finished
and audited. -/

namespace RocqMcp

open Library

/-- The chain of the running request ends with these steps, in this order. -/
structure World.Certifies (world : World) (project : ProjectId) (path : Path) (bytes : Bytes)
    (identity : DeclarationIdentity) (events : List ChainEvent) : Prop where
  chain : ∃ epoch began contents,
    (certificate project path identity epoch began contents events).Sublist world.ghost.chain ∧
      (∀ event ∈ certificate project path identity epoch began contents events,
        event.After world.ghost.began) ∧ Intact path bytes contents world

namespace Adapter

def AttemptView.state? : AttemptView → Option ProofState
  | .evaluated _ view _ => some view.state
  | .rejected _ => none

/-- The proof states that a result shows. -/
def Response.states : Response → List ProofState
  | .attempts list => list.filterMap AttemptView.state?
  | response => (response.view?.map StateView.state).toList

/-- What a completed declaration rests on. -/
inductive Vouched (start : World) (session : SessionId) (args : Value) (world : World) :
    String → DeclarationIdentity → Prop where
  /-- The declaration is finished in its file. -/
  | validated {target : DeclarationTarget}
      (attached : (start.selections session).project = some project)
      (requested : requiredTarget args = .ok target.identity)
      (opened : world.digest bytes = target.anchor.digest)
      (certified : world.Certifies project target.anchor.source bytes target.identity []) :
      Vouched start session args world "prove" target.identity
  /-- The selected proof has been spliced into the source it was opened in. -/
  | published {proof : ProofSession}
      (attached : (start.selections session).project = some project)
      (active : (start.selections session).checkpoints.proof = some proof)
      (opened : world.digest original = proof.target.anchor.digest)
      (spliced : Writeback.replacement original proof.target fragments = .ok bytes)
      (certified : world.Certifies project proof.target.anchor.source bytes proof.target.identity
        [.wrote proof.target.anchor.source at']) :
      Vouched start session args world "check" proof.target.identity

/-- Every completed declaration that the result shows is vouched for. -/
def Reports (start : World) (session : SessionId) (name : String) (args : Value)
    (response : Response) (world : World) : Prop :=
  ∀ state ∈ response.states, state.lifecycle = .completed →
    Vouched start session args world name state.theorem'.identity

end Adapter

section

variable {project : ProjectId} {path : Path} {bytes : Bytes} {identity : DeclarationIdentity}
  {events : List ChainEvent} {first start world after : World} {left : List PetStateId}
  {session : SessionId} {name : String} {args : Value}

theorem Certified.certifies (certified : Certified project path bytes identity events first world)
    (begun : first.ghost.began ≤ first.now) :
    world.Certifies project path bytes identity events := by
  obtain ⟨epoch, began, contents, since, intact⟩ := certified
  obtain ⟨grown, same, inside⟩ := since.chain
  refine ⟨epoch, began, contents, ?_, ?_, intact⟩
  · rw [same]
    exact inside.trans (List.sublist_append_left _ _)
  · intro event member
    rw [since.began]
    exact (since.timely event member).earlier begun

theorem World.Certifies.since (certified : world.Certifies project path bytes identity events)
    (since : Ensued world after []) : after.Certifies project path bytes identity events := by
  obtain ⟨epoch, began, contents, inside, timely, intact⟩ := certified
  obtain ⟨grown, same, -⟩ := since.chain
  refine ⟨epoch, began, contents, ?_, ?_, intact.since since⟩
  · rw [same]
    exact inside.trans (List.sublist_append_right _ _)
  · intro event member
    rw [since.began]
    exact timely event member

/-! ### Publication -/

namespace Writeback

/-- What a publication is made of. -/
structure Replaces (target : DeclarationTarget) (fragments : List String)
    (publication : PreparedPublication) (world : World) : Prop where
  path : publication.path = target.anchor.source
  opened : world.digest publication.original = target.anchor.digest
  spliced : replacement publication.original target fragments = .ok publication.replacement
  digested : Digested publication world

theorem Replaces.later {target : DeclarationTarget} {fragments : List String}
    {publication : PreparedPublication} (replaces : Replaces target fragments publication world)
    (environment : after.environment = world.environment) :
    Replaces target fragments publication after where
  path := replaces.path
  opened := by
    rw [World.digest, environment]
    exact replaces.opened
  spliced := replaces.spliced
  digested := replaces.digested.later environment

theorem prepare_replaces (target : DeclarationTarget) (fragments : List String) :
    Triple (fun _ => True) (prepare project target fragments) (Replaces target fragments)
      fun _ _ => True := by
  refine .bind .trivial fun _ => .bind .trivial fun workspace => .bind .trivial fun original =>
    .bind (.gets _) fun digest => .through
    (fun _ world => world.digest original = target.anchor.digest) (.ensure ?_ fun _ _ _ => trivial)
    fun _ => ?_
  · rintro same world ⟨_, rfl⟩
    exact of_decide_eq_true same
  · refine .bind ((Triple.ofExcept _).weaken (fun _ holds => holds) (fun _ _ holds => holds)
      fun _ _ _ => trivial) fun bytes => .through (fun _ world =>
        world.digest original = target.anchor.digest ∧
          replacement original target fragments = .ok bytes) (fun _ holds => holds) fun _ => ?_
    refine .bind (.gets _) fun digest => .pure ?_
    rintro world ⟨⟨opened, spliced⟩, rfl⟩
    exact ⟨rfl, opened, spliced, rfl⟩

/-- A publication returns what its validation has returned. -/
theorem publish_returns {publication : PreparedPublication} {validate : EngineM α} {fact : α → Prop}
    (validated : Triple (fun _ => True) validate (fun value _ => fact value) fun _ _ => True) :
    Triple (fun _ => True) (publish project publication validate) (fun value _ => fact value)
      fun _ _ => True := by
  have stays : Triple (fun _ => True) (validateReplacement publication validate)
      (fun value _ => fact value) fun _ _ => True := by
    refine .bind validated fun value => .through (fun _ _ => fact value) ?_ fun _ =>
      .pure fun _ holds => holds
    exact (requireDigest_idle _ _).kept fun _ _ _ holds => holds
  have built : Triple (fun _ => True) (buildAndValidate project publication validate)
      (fun value _ => fact value) fun _ _ => True := by
    unfold buildAndValidate
    repeat with_reducible refine .last fun _ => ?_
    exact stays
  unfold publish
  repeat with_reducible refine .last fun _ => ?_
  refine .ite (fun _ => .last fun _ => .throw fun _ _ => trivial) fun _ => .last fun written => ?_
  cases written with
  | error error => exact .last fun _ => .throw fun _ _ => trivial
  | ok _ =>
    refine .bind (.attempt built) fun result => ?_
    cases result with
    | ok value => exact .pure fun _ holds => holds
    | error error =>
      exact (rollback_throws _ error).weaken (fun _ _ => trivial)
        (fun _ _ impossible => impossible.elim) fun _ _ _ => trivial

end Writeback

namespace Engine

theorem validateWritten_names (target : DeclarationTarget) :
    Triple (fun _ => True) (validateWritten project target)
      (fun state _ => state.theorem'.identity = target.identity) fun _ _ => True := by
  refine .last fun current => .through
    (fun _ _ => current.info.identity = target.info.identity) (.ensure ?_ fun _ _ _ => trivial)
    fun _ => .through (fun _ _ => current.info.identity = target.info.identity) ?_
      fun _ => .pure fun _ same => same
  · rintro same world -
    simp only [Bool.and_eq_true, decide_eq_true_eq] at same
    exact same.1
  · have stays : Stays Spares (auditTarget project current) := auditTarget_framed project current
    exact stays.kept fun _ _ _ same => same

end Engine

namespace Adapter

/-- A published declaration rests on the bytes that were spliced. -/
theorem publish_certifies (target : DeclarationTarget) (fragments : List String) :
    Triple (Publishes project session start target)
      (Engine.publish project target fragments (invalidateProjectStates project session))
      (fun state world => state.theorem'.identity = target.identity ∧
        ∃ original bytes at', world.digest original = target.anchor.digest ∧
          Writeback.replacement original target fragments = .ok bytes ∧
          world.Certifies project target.anchor.source bytes target.identity
            [.wrote target.anchor.source at'])
      fun _ _ => True := by
  refine .bind (Publishes.of_idle (Engine.validateTarget_idle project target)).lax fun _ =>
    .bind ((prepare_publishes target fragments).also
      (Writeback.prepare_replaces target fragments)).lax fun publication => ?_
  refine .through (fun _ world => (∃ left, Vacant project
      (Writeback.Prepared project publication fun _ => True) left world) ∧
    Writeback.Replaces target fragments publication world) ?_ fun _ => ?_
  · rintro world ⟨⟨served, current⟩, replaces⟩
    refine ⟨⟨_, served.toServing.invalidated served.own.attached, World.forgotten_invalidated ..,
      current, trivial⟩, replaces.later rfl⟩
  · refine .each_state fun middle ⟨⟨left, vacant⟩, replaces⟩ => ?_
    have certified : Triple (fun world => Vacant project
        (Writeback.Prepared project publication fun _ => True) left world ∧ Ensued middle world [] ∧
          Writeback.Digested publication world)
        (Writeback.publish project publication (Engine.validateWritten project target)) _ _ :=
      Writeback.publish_certified
    refine (certified.also
      (Writeback.publish_returns (Engine.validateWritten_names target))).weaken ?_ ?_
        fun _ _ _ => trivial
    · rintro _ rfl
      exact ⟨vacant, .refl _, replaces.digested⟩
    · rintro state world ⟨⟨at', certified⟩, named⟩
      have certifies := certified.certifies vacant.begun
      rw [replaces.path] at certifies
      refine ⟨named, _, _, at', ?_, replaces.spliced, certifies⟩
      obtain ⟨_, _, _, since, _⟩ := certified
      rw [World.digest, since.environment]
      exact replaces.opened

/-! ### Results that show open proofs -/

theorem Reports.silent {response : Response} (silent : response.states = []) :
    Reports start session name args response world := by
  intro state member
  rw [silent] at member
  cases member

theorem Reports.of_open {response : Response}
    (open' : ∀ state ∈ response.states, state.lifecycle = .open') :
    Reports start session name args response world := by
  intro state member completed
  rw [open' state member] at completed
  cases completed

/-- The states of the result are those of checkpoints. -/
def Shelved (session : SessionId) (response : Response) (world : World) : Prop :=
  ∀ state ∈ response.states, ∃ id node,
    (world.selections session).checkpoints.lookup id = .ok node ∧
      state.lifecycle = node.view.lifecycle

/-- All checkpoints are open. -/
theorem Shelved.open' {response : Response} (shelved : Shelved session response world)
    (consistent : Consistent world) : ∀ state ∈ response.states, state.lifecycle = .open' := by
  intro state member
  obtain ⟨id, node, found, same⟩ := shelved state member
  rw [same]
  cases active : (world.selections session).checkpoints.proof with
  | none =>
    rw [CheckpointBook.lookup, active] at found
    cases found
  | some proof =>
    have inside := proof.mem_of_get? (proof.of_lookup active found)
    exact (consistent.proofs session proof active).views _ inside

theorem Shelved.reports {response : Response} (shelved : Shelved session response world)
    (consistent : Consistent world) : Reports start session name args response world :=
  .of_open (shelved.open' consistent)

theorem stateResponse_shelved (book : CheckpointBook) (id : CheckpointId) :
    Triple (fun world => (world.selections session).checkpoints = book)
      (do let node ← ofBook (book.lookup id)
          return stateResponse id node)
      (Shelved session) fun _ _ => True := by
  cases found : book.lookup id with
  | error error => exact fun _ _ => trivial
  | ok node =>
    refine fun world same => ?_
    intro state member
    rw [List.mem_singleton.mp member]
    exact ⟨id, node, by rw [same, found], rfl⟩

theorem setBook_same (book : CheckpointBook) {failed : Error → World → Prop} :
    Triple (fun _ => True) (setBook session book)
      (fun _ world => (world.selections session).checkpoints = book) failed := by
  intro world _
  simp [setBook, Act.modify, World.setCheckpoints, World.setSelection]

theorem beginProof_shelved (opened : OpenedProof) :
    Triple (fun _ => True) (beginProof project session opened) (Shelved session)
      fun _ _ => True := by
  unfold beginProof
  repeat with_reducible refine .last fun _ => ?_
  split
  · exact .last fun _ => .throw fun _ _ => trivial
  · exact .bind (setBook_same _) fun _ => stateResponse_shelved _ _

theorem selectCheckpoint_shelved (target : CheckpointId) :
    Triple (fun _ => True) (selectCheckpoint session target) (Shelved session) fun _ _ => True :=
  .last fun _ => .last fun selected => .bind (setBook_same selected) fun _ =>
    stateResponse_shelved selected target

theorem rewind_shelved :
    Triple (fun _ => True) (rewind project session args) (Shelved session) fun _ _ => True := by
  unfold rewind
  repeat with_reducible refine .last fun _ => ?_
  exact selectCheckpoint_shelved _

/-- A tool that shows checkpoints of its session. -/
theorem Shelved.tool {action : EngineM Response} {before : World → Prop}
    {failed : Error → World → Prop}
    (served : Triple before action (fun _ => Served project session start) failed)
    (shelved : Triple (fun _ => True) action (Shelved session) fun _ _ => True) :
    Triple before action (Reports start session name args) fun _ _ => True :=
  (served.also shelved).weaken (fun _ holds => holds)
    (fun _ _ holds => holds.2.reports holds.1.consistent) fun _ _ _ => trivial

end Adapter

/-! ### The records after a publication -/

/-- Some events, and no others, have been recorded: nothing else has happened to
the records of the request. -/
def Passing (before after : World) : Prop := Ensued before after []

instance : IsPreorder World Passing where
  refl := Ensued.refl
  trans _ _ _ early late := Ensued.trans early late

theorem Passing.of_same (environment : after.environment = world.environment)
    (now : after.now = world.now) (initialSources : after.initialSources = world.initialSources)
    (journal : after.journal = world.journal) (mishaps : after.ghost.mishaps = world.ghost.mishaps)
    (chain : after.ghost.chain = world.ghost.chain)
    (began : after.ghost.began = world.ghost.began) : Passing world after where
  environment := environment
  began := began
  now := Nat.le_of_eq now.symm
  noted mishap noted := by
    rw [World.Suffered, mishaps]
    exact noted
  recalled path content member := by
    rw [World.history, initialSources, journal]
    exact member
  chain := ⟨[], chain, .slnil⟩
  timely := nofun

theorem passing {action : Act World ε α} (stays : Stays Idle action) : Stays Passing action :=
  stays.weaken fun _ _ idle => (Ensued.refl _).meanwhile idle.toMeanwhile

namespace Adapter

theorem Vouched.since (vouched : Vouched start session args world name identity)
    (passing : Passing world after) : Vouched start session args after name identity := by
  have same (bytes : Bytes) : after.digest bytes = world.digest bytes := by
    rw [World.digest, World.digest, passing.environment]
  cases vouched with
  | validated attached requested opened certified =>
    exact .validated attached requested ((same _).trans opened) (certified.since passing)
  | published attached active opened spliced certified =>
    exact .published attached active ((same _).trans opened) spliced (certified.since passing)

theorem forgetArtifact_passes (file : FileId) :
    Stays Passing (forgetArtifact project file : Act World ε Unit) :=
  .modify fun _ => .of_same rfl rfl rfl rfl rfl rfl rfl

theorem recordArtifact_passes (file : FileId) (fingerprint : ArtifactFingerprint) :
    Stays Passing (recordArtifact project file fingerprint : Act World ε Unit) := by
  refine .modify fun world => ?_
  dsimp only
  split <;> exact .of_same rfl rfl rfl rfl rfl rfl rfl

theorem clearBook_passes : Stays Passing (clearBook session : Act World ε Unit) :=
  .bind (.gets _) fun _ => .modify fun _ => .of_same rfl rfl rfl rfl rfl rfl rfl

theorem recordCompleted_passes (file : FileId) {otherwise : Act World Error Unit}
    (passes : Stays Passing otherwise) : Stays Passing (recordCompleted project file otherwise) := by
  refine .bind (.attempt (passing (Engine.artifactFingerprint_idle project file))) fun result => ?_
  cases result with
  | ok fingerprint => exact recordArtifact_passes file fingerprint
  | error error => exact passes

/-! ### The winner of a check -/

section

variable {context : CheckContext} {accepted : Accepted} {checkpoint : CheckpointId}

theorem settlePublication_reports (isOpen : accepted.step.view.lifecycle = .open')
    (result : Except Error ProofState) :
    Triple (fun world => ∀ state, result = .ok state →
        Vouched start session args world "check" state.theorem'.identity)
      (settlePublication project session context accepted checkpoint result)
      (Reports start session "check" args) fun _ _ => True := by
  have failure (checkpoint : Option CheckpointId) (error : Error) (world : World) :
      Reports start session "check" args (accepted.failure context checkpoint error) world :=
    .of_open fun state member => by rwa [List.mem_singleton.mp member]
  cases result with
  | ok state =>
    let vouched (world : World) : Prop :=
      Vouched start session args world "check" state.theorem'.identity
    have passes {action : EngineM Unit} (stays : Stays Passing action) :
        Triple vouched action (fun _ => vouched) fun _ _ => True :=
      stays.kept fun _ _ passing vouched => vouched.since passing
    refine .through (fun _ => vouched) ?_ fun _ => .bind (passes clearBook_passes) fun _ => .pure ?_
    · exact ((passes (recordCompleted_passes context.target.identity.file
        (forgetArtifact_passes _))).weaken (fun _ vouched => vouched state rfl)
          (fun _ _ holds => holds) fun _ _ _ => trivial)
    · intro world vouched other member _
      rw [List.mem_singleton.mp member]
      exact vouched
  | error error =>
    refine Triple.trivial.bind fun _ => .ite (fun _ => .pure fun world _ => failure _ _ world) fun _ => ?_
    exact Triple.trivial.bind fun _ => Triple.trivial.bind fun _ => Triple.trivial.bind fun _ =>
      .pure fun world _ => failure _ _ world

theorem publishAccepted_reports (isOpen : accepted.step.view.lifecycle = .open')
    (of : context.Of session start) (attached : (start.selections session).project = some project) :
    Triple (fun world => Served project session start world ∧
        Won context accepted checkpoint session world)
      (publishAccepted project session context accepted checkpoint)
      (Reports start session "check" args) fun _ _ => True := by
  obtain ⟨proof, active, target, -⟩ := of
  refine .bind (.gets _) fun book => .through (fun path world =>
    (Served project session start world ∧ context.target.Coherent world) ∧
      Submission.Linear { book, winner := accepted.fragment, fragments := path }) ?_ fun path =>
        .assume fun linear => ?_
  · rintro world ⟨⟨served, won⟩, rfl⟩
    obtain ⟨path, read, linear⟩ := won.linear
    obtain ⟨proof, _, active, target, _⟩ := won
    have coherent := (served.consistent.proofs session proof active).coherent
    rw [read]
    exact ⟨⟨served, target ▸ coherent⟩, linear⟩
  refine .through (fun _ => Publishes project session start context.target) ?_ fun _ => ?_
  · rintro world ⟨served, coherent⟩
    exact ⟨⟨served.toServing.recordSubmission linear,
      served.toBound.step (.sameSessions rfl rfl fun _ _ => rfl)⟩, coherent⟩
  · refine .bind (.attempt (publish_certifies context.target path)) fun result =>
      (settlePublication_reports isOpen result).weaken ?_ (fun _ _ holds => holds) fun _ _ _ => trivial
    rintro world ended state rfl
    obtain ⟨named, original, bytes, at', opened, spliced, certified⟩ := ended
    rw [named, ← target]
    rw [← target] at opened spliced certified
    exact .published attached active opened spliced certified

theorem finishAccepted_reports (isOpen : accepted.step.view.lifecycle = .open')
    (of : context.Of session start) (attached : (start.selections session).project = some project)
    (closeError : Option Error) :
    Triple (fun world => Sealed project session start closeError world ∧
        Won context accepted checkpoint session world)
      (finishAccepted project session context accepted closeError checkpoint)
      (Reports start session "check" args) fun _ _ => True := by
  cases closeError with
  | none =>
    refine .ite (fun _ => publishAccepted_reports isOpen of attached) fun _ => .pure fun _ _ => ?_
    exact .of_open fun state member => by rwa [List.mem_singleton.mp member]
  | some error =>
    refine Triple.trivial.bind fun _ => .pure fun _ _ => ?_
    exact .of_open fun state member => by rwa [List.mem_singleton.mp member]

theorem accept_reports (isOpen : accepted.step.view.lifecycle = .open')
    (of : context.Of session start) (attached : (start.selections session).project = some project) :
    Triple (fun world => Clean project session start [accepted.step.state] world ∧
        Accepting session accepted.fragment accepted.step.state accepted.step.finished world)
      (accept project session context accepted) (Reports start session "check" args)
      fun _ _ => True := by
  refine .bind (closeAccepted_closed context accepted).lax fun closeError => ?_
  refine .bind (commitOrCancelled_adrift (fun _ _ idle ⟨closed, accepting⟩ =>
    ⟨closed.idle idle, accepting.meanwhile _ _ idle.toMeanwhile⟩) fun _ holds => holds.1.adrift).lax
      fun _ => .bind (.gets _) fun book => ?_
  have view : (if context.arguments.structured then accepted.step.view
      else { accepted.step.view with structuredGoals := none }).lifecycle = .open' := by
    split <;> exact isOpen
  rcases done : book.commit accepted.step.state accepted.fragment accepted.step.finished
    (if context.arguments.structured then accepted.step.view
      else { accepted.step.view with structuredGoals := none }) accepted.goalsNextOffset with
    ⟨error | checkpoint, next⟩
  · exact Triple.trivial.bind fun _ => Triple.trivial.bind fun _ => .throw fun _ _ => trivial
  · refine .through (fun _ world => Sealed project session start closeError world ∧
      Won context accepted checkpoint session world) ?_ fun _ =>
        finishAccepted_reports isOpen of attached closeError
    rintro world ⟨⟨closed, accepting⟩, rfl⟩
    exact commit_sealed of view closed accepting done

end

theorem unselected_shelved (context : CheckContext) (rejected : List Rejection) :
    Triple (fun _ => True) (unselected session context rejected) (Shelved session)
      fun _ _ => True := by
  refine .bind (.gets _) fun book => ?_
  cases found : book.lookup context.baseId with
  | error error => exact fun _ _ => trivial
  | ok node =>
    rintro world ⟨-, rfl⟩ state member
    refine ⟨context.baseId, node, found, ?_⟩
    rw [List.mem_singleton.mp member]
    unfold CheckContext.view
    dsimp only
    split <;> rfl

theorem checkFragments_reports (context : CheckContext) (of : context.Of session start)
    (attached : (start.selections session).project = some project) (fragments : List String)
    (index : Nat) (rejected : List Rejection) :
    Triple (Clean project session start [])
      (checkFragments project session context index rejected fragments)
      (Reports start session "check" args) fun _ _ => True := by
  induction fragments generalizing index rejected with
  | nil => exact Shelved.tool (unselected_served context rejected) (unselected_shelved context rejected)
  | cons fragment rest ih =>
    refine .bind (evaluate_clean context fragment).lax fun result => ?_
    match result with
    | .ok (.success step) =>
      rintro world ⟨clean, isOpen, accepting⟩
      have viewed : (Accepted.of index fragment step rejected).step.view.lifecycle = .open' :=
        (boundedCheckpointView_lifecycle step.view).trans isOpen
      exact accept_reports viewed of attached world ⟨clean, accepting⟩
    | .ok (.failure failure) => exact ih _ _
    | .error error => exact ih _ _

theorem check_reports (attached : (start.selections session).project = some project) :
    Triple (Clean project session start []) (check project session args)
      (Reports start session "check" args) fun _ _ => True :=
  .bind (Clean.check attemptArguments_mild).lax fun arguments =>
    .bind (enterProof_clean arguments).lax fun context => .assume fun known =>
      checkFragments_reports context known.1 attached _ _ _

end Adapter

namespace Engine

theorem resolveFinished_names (target : DeclarationTarget) (unfinished gone : String) :
    Triple (fun _ => True) (resolveFinished project target unfinished gone)
      (fun current _ => current.identity = target.identity) fun _ _ => True := by
  refine .bind (resolve_named target.info.identity) fun resolved => .through
    (fun _ _ => ∀ current ∈ resolved.target, current.identity = target.identity)
    (.ensure (fun _ _ named => named) fun _ _ _ => trivial) fun _ => ?_
  split
  · exact .throw fun _ _ => trivial
  · rename_i current found
    exact .pure fun _ named => named current found

theorem validateBuilt_names (target : DeclarationTarget) :
    Triple (fun _ => True) (validateBuilt project target)
      (fun state _ => state.theorem'.identity = target.identity) fun _ _ => True := by
  refine .last fun _ => .bind (resolveFinished_names target _ _) fun current =>
    .through (fun _ _ => current.identity = target.identity) ?_ fun _ => .pure fun _ same => same
  have stays : Stays Spares (auditTarget project current) := auditTarget_framed project current
  exact stays.kept fun _ _ _ same => same

end Engine

namespace Adapter

/-- A declaration that is finished in its file rests on the bytes that it was
opened with. -/
theorem engineValidatePublished_certifies {frame : World → Prop} (calmed : Calmed project frame)
    (target : DeclarationTarget) :
    Triple (Vacant project frame left) (Engine.validatePublished project target)
      (fun state world => state.theorem'.identity = target.identity ∧
        ∃ bytes, world.digest bytes = target.anchor.digest ∧
          world.Certifies project target.anchor.source bytes target.identity [])
      fun _ _ => True := by
  refine .through (fun _ world => Vacant project frame left world ∧
    Read target.anchor.source target.anchor.digest world) ?_ fun _ => ?_
  · have checked : Triple (Vacant project frame left) (Engine.validateTarget project target)
        (fun _ world => Vacant project frame left world ∧
          Read target.anchor.source target.anchor.digest world) fun _ _ => True :=
      ((Vacant.of_idle calmed (Engine.validateTarget_idle project target)).also
        (validateTarget_read target)).lax
    refine .bind (.attempt checked) fun result => ?_
    cases result with
    | ok _ => exact .pure fun _ holds => holds
    | error error => exact Triple.trivial.bind fun _ => .throw fun _ _ => trivial
  · refine .each_state fun middle ⟨vacant, bytes, then', expected⟩ => ?_
    have named : Triple (fun _ => True) (Writeback.buildAndRefresh project target.anchor.source
        (Engine.validateBuilt project target))
        (fun state _ => state.theorem'.identity = target.identity) fun _ _ => True := by
      unfold Writeback.buildAndRefresh
      repeat with_reducible refine .last fun _ => ?_
      exact Engine.validateBuilt_names target
    refine ((Writeback.buildAndRefresh_certified vacant calmed then' expected).also named).weaken
      (fun _ same => same) ?_ fun _ _ _ => trivial
    rintro state world ⟨certified, named⟩
    refine ⟨named, bytes, ?_, certified.certifies vacant.begun⟩
    obtain ⟨_, _, _, since, _⟩ := certified
    rw [World.digest, since.environment]
    exact expected

theorem validatePublished_reports {target : DeclarationTarget}
    (requested : requiredTarget args = .ok target.identity)
    (attached : (start.selections session).project = some project) :
    Triple (Clean project session start []) (validatePublished project session target)
      (Reports start session "prove" args) fun _ _ => True := by
  refine .bind invalidate_vacant fun _ => ?_
  rintro world ⟨left, vacant⟩
  refine Triple.bind (engineValidatePublished_certifies Unseen.calmed target) (fun state => ?_)
    world vacant
  let vouched (world : World) : Prop :=
    Vouched start session args world "prove" state.theorem'.identity
  refine .through (fun _ => vouched) ?_ fun _ => .pure ?_
  · refine ((recordCompleted_passes target.identity.file (.pure ())).kept fun _ _ passing vouched =>
      Vouched.since vouched passing).weaken ?_ (fun _ _ holds => holds) fun _ _ _ => trivial
    rintro world ⟨named, bytes, opened, certified⟩
    rw [named]
    exact .validated attached requested opened certified
  · intro world vouched other member _
    rw [List.mem_singleton.mp member]
    exact vouched

theorem prove_reports (attached : (start.selections session).project = some project) :
    Triple (Clean project session start []) (prove project session args)
      (Reports start session "prove" args) fun _ _ => True := by
  refine .bind (Clean.check rejectUnknown_mild).lax fun _ => .through (fun identity world =>
    Clean project session start [] world ∧ requiredTarget args = .ok identity)
    (Triple.ofExcept _).lax fun identity => .assume fun requested =>
    .bind (rejectActiveProof_clean "prove").lax fun _ =>
    .bind (reconcileArtifact_clean identity.file).lax fun _ => ?_
  refine .bind ((openDeclaration_resolves identity).also
    (Engine.openDeclaration_named identity)).lax fun result => .assume fun named => ?_
  cases result with
  | published target =>
    rw [← show target.identity = identity from named] at requested
    exact validatePublished_reports requested attached
  | open' opened => exact Shelved.tool (begins_served opened) (beginProof_shelved opened)

theorem declare_reports :
    Triple (Clean project session start []) (declare project session args)
      (Reports start session name args) fun _ _ => True := by
  refine Shelved.tool (declare_served args) ?_
  unfold declare
  repeat with_reducible refine .last fun _ => ?_
  exact beginProof_shelved _

/-! ### Tools that read -/

/-- A result without states. -/
def Mute (action : EngineM Response) : Prop :=
  Triple (fun _ => True) action (fun response _ => response.states = []) fun _ _ => True

theorem Mute.reports {action : EngineM Response} (mute : Mute action) {before : World → Prop} :
    Triple before action (Reports start session name args) fun _ _ => True :=
  mute.weaken (fun _ _ => trivial) (fun _ _ silent => .silent silent) fun _ _ _ => trivial

theorem Mute.next {action : EngineM α} {rest : α → EngineM Response}
    (then' : ∀ value, Mute (rest value)) : Mute (action >>= rest) :=
  .last then'

theorem Mute.done {response : Response} (silent : response.states = []) :
    Mute (pure response) :=
  .pure fun _ _ => silent

theorem listFiles_mute : Mute (listFiles project args) := by
  unfold listFiles
  repeat refine .next fun _ => ?_
  exact .done rfl

theorem listDecls_mute : Mute (listDecls project session args) := by
  unfold listDecls
  repeat refine .next fun _ => ?_
  exact .done rfl

theorem abandon_mute : Mute (abandon project session args) := by
  unfold abandon
  repeat refine .next fun _ => ?_
  exact .done rfl

theorem locateSymbol_mute : Mute (locateSymbol project session args) := by
  unfold locateSymbol
  repeat refine .next fun _ => ?_
  exact .done rfl

theorem querySelected_mute (query : PetQuery) (offset : Nat) :
    Mute (querySelected project session query offset) := by
  unfold querySelected
  repeat refine .next fun _ => ?_
  exact .done rfl

theorem queryContext_mute (identity : DeclarationIdentity) (query : PetQuery) (offset : Nat) :
    Mute (queryContext project identity query offset) := by
  unfold queryContext
  repeat refine .next fun _ => ?_
  exact .done rfl

theorem queryDeclaration_mute (query : String → PetQuery) :
    Mute (queryDeclaration project session args query) := by
  unfold queryDeclaration
  repeat with_reducible refine .next fun _ => ?_
  exact .ite (fun _ => querySelected_mute _ _) fun _ => queryContext_mute _ _ _

theorem queryText_mute (field : String) (query : String → PetQuery) :
    Mute (queryText project session args field query) := by
  unfold queryText
  repeat with_reducible refine .next fun _ => ?_
  split
  · exact .next fun _ => .next fun _ => queryContext_mute _ _ _
  · refine .next fun book => ?_
    split
    · exact .next fun _ => querySelected_mute _ _
    · exact .throw fun _ _ => trivial

theorem goals_open (target : DeclarationTarget) (state : PetStateId) (scope : GoalScope)
    (goalId : Option Evar) :
    Triple (fun _ => True) (Engine.goals project target state scope goalId)
      (fun view _ => view.lifecycle = .open') fun _ _ => True := by
  unfold Engine.goals
  repeat with_reducible refine .last fun _ => ?_
  split
  · exact .throw fun _ _ => trivial
  · exact .pure fun _ _ => rfl

/-- The goals are those of an open proof. -/
theorem goalsAt_reports (arguments : GoalsArguments) (current : CheckpointId × PetStateId)
    (target : DeclarationTarget) :
    Triple (fun _ => True) (goalsAt project session arguments current target)
      (Reports start session name args) fun _ _ => True := by
  refine .bind (goals_open target current.2 _ _) fun view => .given fun isOpen =>
    .last fun page => .last fun book => .pure fun _ _ => .of_open ?_
  intro state member
  rw [List.mem_singleton.mp member]
  exact isOpen

theorem queryGoals_reports {before : World → Prop} :
    Triple before (queryGoals project session args) (Reports start session name args)
      fun _ _ => True := by
  unfold queryGoals
  repeat with_reducible refine .last fun _ => ?_
  exact goalsAt_reports _ _ _

theorem query_reports {before : World → Prop} :
    Triple before (query project session args) (Reports start session name args)
      fun _ _ => True := by
  refine Triple.trivial.bind fun kind => .ite (fun _ => locateSymbol_mute.reports) fun _ =>
    .ite (fun _ => queryGoals_reports) fun _ => ?_
  have declaration (query : String → PetQuery) :
      Triple (fun _ => True) (queryDeclaration project session args query)
        (Reports start session name args) fun _ _ => True :=
    (queryDeclaration_mute query).reports
  have text (field : String) (query : String → PetQuery) :
      Triple (fun _ => True) (queryText project session args field query)
        (Reports start session name args) fun _ _ => True :=
    (queryText_mute field query).reports
  exact .ite (fun _ => declaration _) fun _ => .ite (fun _ => declaration _) fun _ =>
    .ite (fun _ => declaration _) fun _ => .ite (fun _ => declaration _) fun _ =>
    .ite (fun _ => text _ _) fun _ => .ite (fun _ => text _ _) fun _ =>
    .ite (fun _ => text _ _) fun _ => .throw fun _ _ => trivial

/-- An attempt shows an open proof. -/
theorem tryFragment_open (context : CheckContext) (fragment : String) :
    Triple (Clean project session start []) (tryFragment project session context fragment)
      (fun attempt _ => ∀ state ∈ attempt.state?, state.lifecycle = .open') fun _ _ => True := by
  refine .bind (evaluate_clean context fragment).lax fun result => ?_
  match result with
  | .ok (.success step) =>
    refine .weaken (.given fun isOpen => .last fun _ => .last fun _ => .pure fun _ _ => ?_)
      (fun _ holds => holds.2.1) (fun _ _ holds => holds) fun _ _ _ => trivial
    rintro state ⟨⟩
    exact isOpen
  | .ok (.failure failure) => exact .pure fun _ _ => nofun
  | .error error => exact .pure fun _ _ => nofun

theorem tryEach_open (context : CheckContext) (fragments : List String) :
    Triple (Clean project session start []) (tryEach project session context fragments)
      (fun attempts _ => ∀ attempt ∈ attempts, ∀ state ∈ attempt.state?, state.lifecycle = .open')
      fun _ _ => True := by
  induction fragments with
  | nil => exact .pure fun _ _ _ member => absurd member List.not_mem_nil
  | cons fragment rest ih =>
    refine .bind ((Triple.both (tryFragment_clean context fragment)
      (tryFragment_open context fragment)).lax.weaken (fun _ clean => ⟨clean, clean⟩)
        (fun _ _ holds => holds) fun _ _ _ => trivial) fun attempt => .assume fun isOpen =>
        .bind ih fun attempts => .pure fun _ areOpen => ?_
    intro other member
    rcases List.mem_cons.mp member with rfl | member
    · exact isOpen
    · exact areOpen other member

theorem tryFragments_reports :
    Triple (Clean project session start []) (tryFragments project session args)
      (Reports start session name args) fun _ _ => True := by
  refine .bind (Clean.check attemptArguments_mild).lax fun arguments =>
    .bind (enterProof_clean arguments).lax fun context => .assume fun _ =>
    .bind (tryEach_open context _) fun attempts => .pure fun _ areOpen => .of_open ?_
  intro state member
  obtain ⟨attempt, inside, shown⟩ := List.mem_filterMap.mp member
  exact areOpen attempt inside state shown

/-! ### The dispatch -/

theorem dispatchAttached_reports (attached : (start.selections session).project = some project) :
    Triple (Clean project session start []) (dispatchAttached project session name args)
      (Reports start session name args) fun _ _ => True := by
  refine .ite (fun _ => listFiles_mute.reports) fun _ => .ite (fun _ => listDecls_mute.reports)
    fun _ => .ite (fun same => ?_) fun _ => .ite (fun _ => declare_reports) fun _ =>
    .ite (fun _ => abandon_mute.reports) fun _ => .ite (fun same => ?_) fun _ =>
    .ite (fun _ => tryFragments_reports) fun _ =>
    .ite (fun _ => Shelved.tool (rewind_served args) rewind_shelved) fun _ =>
    .ite (fun _ => query_reports) fun _ => .throw fun _ _ => trivial
  · subst same
    exact prove_reports attached
  · subst same
    exact check_reports attached

theorem dispatchProject_reports (attached : (start.selections session).project = some project) :
    Triple (Clean project session start []) (dispatchProject project session name args)
      (Reports start session name args) fun _ _ => True := by
  refine .bind (Clean.idling rejectCancelled_idle).lax fun _ => ?_
  refine .through (fun changed world => Refreshed project changed world ∧
    Unseen project session start world) ?_ fun changed => ?_
  · exact (refreshProject_refreshed fun _ _ unobserved unseen =>
      Unseen.unobserved unseen unobserved).lax.weaken (fun _ clean => ⟨clean.toServing, clean.toUnseen⟩)
        (fun _ _ holds => holds) fun _ _ _ => trivial
  · refine .bind (admitLayout_clean changed) fun _ =>
      .bind (Clean.idling rejectCancelled_idle).lax fun _ =>
      .bind (.attempt (dispatchAttached_reports attached)) fun result => ?_
    cases result with
    | ok response => exact .pure fun _ reports => reports
    | error error =>
      exact Triple.trivial.bind fun _ => Triple.trivial.bind fun _ => .throw fun _ _ => trivial

theorem Vouched.congr {origin : World} (vouched : Vouched start session args world name identity)
    (same : start.selections = origin.selections) :
    Vouched origin session args world name identity := by
  cases vouched with
  | validated attached requested opened certified =>
    exact .validated (same ▸ attached) requested opened certified
  | published attached active opened spliced certified =>
    exact .published (same ▸ attached) (same ▸ active) opened spliced certified

theorem start_mute : Mute (Adapter.start session args) := by
  refine .next fun _ => .next fun _ => .next fun attached => .next fun _ => .next fun previous => ?_
  split
  · exact Mute.next fun _ => .done rfl
  · have moved (leave enter : EngineM Unit) : Mute do leave; enter; return .done :=
      .next fun _ => .next fun _ => .done rfl
    exact .ite (fun _ => moved _ _) fun _ => moved _ _

theorem dispatch_reports {touched : ProjectId → Prop} {origin : World} :
    Triple (fun world => Arriving touched session origin world ∧
        world.selections = origin.selections) (dispatch session name args)
      (Reports origin session name args) fun _ _ => True := by
  let arrived (world : World) : Prop :=
    Arriving touched session origin world ∧ world.selections = origin.selections
  have idle : Triple arrived rejectCancelled (fun _ => arrived) fun _ _ => True :=
    rejectCancelled_idle.kept fun _ _ idle ⟨arriving, same⟩ =>
      ⟨arriving.idle idle, idle.selections.trans same⟩
  refine .bind idle fun _ => .ite (fun _ => Mute.reports ?_) fun _ =>
    .ite (fun _ => start_mute.reports) fun _ => ?_
  · exact .next fun _ => .next fun _ => .done rfl
  · refine .bind (.gets _) fun selected => .each_state ?_
    rintro world ⟨⟨arriving, same⟩, read⟩
    cases selected with
    | none => exact .throw fun _ _ => trivial
    | some project =>
      have own : Own project session world := ⟨by simp [World.attachedTo, ← read], arriving.used⟩
      have reports : Triple (Clean project session world [])
          (dispatchProject project session name args) _ _ := dispatchProject_reports read.symm
      refine reports.weaken ?_ ?_ fun _ _ _ => trivial
      · rintro _ rfl
        exact arriving.toOrderly.clean own
      · intro response after reports state member completed
        exact (reports state member completed).congr same

end Adapter

/-- A result never reports a completed proof that the running request has not
built, refreshed, resolved and audited, in one PET epoch. -/
theorem World.completed_vouched {world : World} (reached : World.Reached world)
    (used : session < world.connections) {response : Adapter.Response}
    (answered : (world.request session name args).1 = .ok response) {state : ProofState}
    (shown : state ∈ response.states) (completed : state.lifecycle = .completed) :
    Adapter.Vouched world session args (world.request session name args).2 name
      state.theorem'.identity := by
  have arriving : Arriving (world.Concerns session name) session (world.begin .active)
      (world.begin .active) :=
    reached.lawful.arriving used (fun _ selected => .inl selected) .active
  have reports := Adapter.dispatch_reports.of_ok ⟨arriving, rfl⟩ answered
  exact (reports state shown completed).congr rfl

end

namespace Sample

/-- A PET that finds the declaration finished, with no axiom behind it. -/
def approve : PetCall → PetReply Unit
  | .documentDeclarations _ => .declarations [{ row with proofFinished := true }]
  | .assumptions _ _ => .assumptions { assumptions := [], theory := ⟨false, false, false⟩ }
  | call => answer call

def approving : Environment :=
  { environment with tick := fun _ => { tick with rpc := fun call => .returned (approve call) } }

def target : Value :=
  .object [("target", .object [("file", .string "A.v"),
    ("qualified_path", .array [.string "A", .string "t"])])]

def entering : List Event := [.connect, attach]

theorem entering_runs : (execute World.step (fun _ _ => True)
    (.initial approving sources fun _ => none) entering).isSome = true := by
  decide +kernel

def entered : World := (execute World.step (fun _ _ => True)
  (.initial approving sources fun _ => none) entering).get entering_runs

theorem entered_reached : World.Reached entered :=
  ⟨approving, sources, fun _ => none, Reachable.executed entering entering_runs⟩

end Sample

theorem World.completed_vouched_built : ∃ identity,
    Adapter.Vouched Sample.entered 0 Sample.target
      (Sample.entered.request 0 "prove" Sample.target).2 "prove" identity := by
  have completes : ((Sample.entered.request 0 "prove" Sample.target).1.toOption.any fun response =>
      response.states.any fun state => state.lifecycle = .completed) = true := by
    decide +kernel
  rcases ran : (Sample.entered.request 0 "prove" Sample.target).1 with error | response
  · rw [ran] at completes
    cases completes
  · rw [ran] at completes
    obtain ⟨state, shown, completed⟩ := List.any_eq_true.mp completes
    exact ⟨_, World.completed_vouched Sample.entered_reached (by decide +kernel) ran shown
      (of_decide_eq_true completed)⟩

end RocqMcp
