import RocqMcp.Engine.Audit
import RocqMcp.Pet.Operations

/-! The operations of the engine keep the account of exported states: a
temporary state is released on every way out, or the process is gone and the
error says so. -/

namespace RocqMcp

open Library

/-- The projection of a PET error ends the epoch exactly when the error does. -/
def Telling (projection : PetError → Error) : Prop :=
  ∀ error, (projection error).kind.invalidatesPetEpoch = error.invalidatesProcess

theorem remotePetKind_keeps (operation : PetOperation) (kind : PetRemoteKind) :
    (remotePetKind operation kind).invalidatesPetEpoch = false := by
  cases kind <;> cases operation <;> rfl

theorem PetError.kindFor_telling {operation : PetOperation} {invalid : ErrorKind}
    (keeps : invalid.invalidatesPetEpoch = false) (error : PetError) :
    (error.kindFor operation invalid).invalidatesPetEpoch = error.invalidatesProcess := by
  cases error with
  | remote code kind message diagnostic => exact remotePetKind_keeps operation kind
  | invalid message => exact keeps
  | _ => rfl

theorem PetError.transportKind_telling (error : PetError) :
    error.transportKind.invalidatesPetEpoch = error.invalidatesProcess := by
  cases error with
  | remote code kind message diagnostic =>
    simp only [PetError.transportKind]
    split <;> rfl
  | _ => rfl

theorem declarationPetError_telling : Telling declarationPetError := fun error =>
  PetError.kindFor_telling rfl error

theorem stepPetError_telling : Telling stepPetError := fun error =>
  PetError.kindFor_telling rfl error

theorem finalizerPetError_telling : Telling finalizerPetError := fun error =>
  PetError.kindFor_telling rfl error

theorem queryPetError_telling : Telling queryPetError := fun error =>
  PetError.kindFor_telling rfl error

theorem petReleaseError_telling : Telling petReleaseError := PetError.transportKind_telling

/-- The bytes of the anchor are the document that PET read, or a difference
between the two has been noted. -/
def DeclarationTarget.Coherent (target : DeclarationTarget) (world : World) : Prop :=
  world.digest target.anchor.document = target.anchor.digest ∨
    world.Suffered (.staleDocument target.anchor.source)

theorem DeclarationTarget.Coherent.meanwhile {target : DeclarationTarget}
    (coherent : target.Coherent world) (meanwhile : Meanwhile world after) :
    target.Coherent after := by
  rcases coherent with same | noted
  · exact .inl (by rw [World.digest, meanwhile.environment]; exact same)
  · exact .inr (meanwhile.mishaps _ noted)

/-- The event has been recorded last, in the epoch of the process at the start. -/
def Logged (project : ProjectId) (start : World) (live : Bool) (event : Nat → ChainEvent)
    (world : World) : Prop :=
  live = true → ∀ process ∈ start.process project,
    ∃ events, world.ghost.chain = event process.epoch :: (events ++ start.ghost.chain)

section

variable {project : ProjectId} {start : World} {live : Bool} {states : List PetStateId}

theorem PetFails.projected {projection : PetError → Error} (telling : Telling projection)
    {error : PetError} {world : World} (fails : PetFails project start states error world) :
    EngineFails project start states (projection error) world := by
  rcases fails with ⟨holding, mild⟩ | ⟨gone, told⟩
  · exact .inl ⟨holding, .of_kind ((telling error).trans mild)⟩
  · exact .inr ⟨gone, (telling error).trans told⟩

/-- A call under the error projection of its caller. -/
theorem Holding.projected {projection : PetError → Error} (telling : Telling projection)
    {action : PetM α} {before : World → Prop} {after : α → World → Prop}
    (triple : Triple before action after (PetFails project start states)) :
    Triple before (Act.mapError projection action) after (EngineFails project start states) :=
  .mapError (triple.weaken (fun _ holds => holds) (fun _ _ holds => holds)
    fun _ _ fails => PetFails.projected telling fails)

theorem Fails.since {mild ends : Prop} {before world : World}
    (holding : Holding project start live earlier before)
    (fails : Fails project before states mild ends world) :
    Fails project start states mild ends world := by
  rcases fails with ⟨later, isMild⟩ | ⟨gone, told⟩
  · exact .inl ⟨(holding.calmed).since later, isMild⟩
  · exact .inr ⟨gone.since holding, told⟩

/-- A fact that an operation keeps, besides what it says about its own start. -/
theorem Holding.resumed {extra : World → Prop} {action : Act World ε α}
    {post : World → α → World → Prop} {failed : World → ε → World → Prop}
    (stable : ∀ world world', Meanwhile world world' → extra world → extra world')
    (triple : ∀ start, Triple (Holding project start live states) action (post start) (failed start))
    (later : ∀ before value world, Holding project start live states before →
      post before value world → post start value world ∧ Meanwhile before world)
    (fails : ∀ before error world, Holding project start live states before →
      failed before error world → failed start error world) :
    Triple (fun world => Holding project start live states world ∧ extra world) action
      (fun value world => post start value world ∧ extra world) (failed start) := by
  refine .each_state fun before ⟨holding, known⟩ => ?_
  refine (triple before).weaken holding.rebase ?_ ?_
  · intro value world ended
    obtain ⟨holds, meanwhile⟩ := later before value world holding ended
    exact ⟨holds, stable _ _ meanwhile known⟩
  · exact fun error world failure => fails before error world holding failure

theorem Holding.framed {extra : World → Prop} {action : Act World ε α} {after : α → List PetStateId}
    {left : List PetStateId} {mild ends : ε → Prop}
    (stable : ∀ world world', Meanwhile world world' → extra world → extra world')
    (triple : ∀ start, Triple (Holding project start live states) action
      (fun value => Holding project start live (after value))
      fun error => Fails project start left (mild error) (ends error)) :
    Triple (fun world => Holding project start live states world ∧ extra world) action
      (fun value world => Holding project start live (after value) world ∧ extra world)
      fun error => Fails project start left (mild error) (ends error) :=
  Holding.resumed stable triple
    (fun _ _ _ holding later => ⟨holding.since later, later.calm.toMeanwhile⟩)
    fun _ _ _ holding fails => fails.since holding

theorem recordInEpoch_logged (event : Nat → ChainEvent)
    (unwritten : ∀ epoch source at', .wrote source at' ≠ event epoch) {failed : ε → World → Prop} :
    Triple (Holding project start live states) (PetActor.recordInEpoch project event)
      (fun _ world => Holding project start live states world ∧
        Logged project start live event world) failed := by
  intro world holding
  cases running : world.process project with
  | none =>
    have recorded : (PetActor.recordInEpoch project event : Act World ε Unit) world = (.ok (), world) := by
      simp [PetActor.recordInEpoch, Act.modify, running]
    rw [recorded]
    refine ⟨holding, fun isLive process installed => ?_⟩
    obtain ⟨later, running', _⟩ := holding.alive isLive process installed
    cases running.symm.trans running'
  | some process =>
    have recorded : (PetActor.recordInEpoch project event : Act World ε Unit) world =
        (.ok (), world.record (event process.epoch)) := by
      simp [PetActor.recordInEpoch, Act.modify, running]
    rw [recorded]
    refine ⟨holding.idle (world.record_idle _ (unwritten _)), fun isLive earlier installed => ?_⟩
    obtain ⟨later, running', same⟩ := holding.alive isLive earlier installed
    obtain rfl := Option.some.inj (running.symm.trans running')
    obtain ⟨events, grown, _⟩ := holding.calm.chain
    exact ⟨events, by rw [← same]; exact congrArg _ grown⟩

end

/-- Only errors that leave the process alone carry a resolution. -/
def Error.Located (error : Error) : Prop :=
  error.resolution.isSome → error.kind.invalidatesPetEpoch = false

theorem declarationPetError_located (error : PetError) : (declarationPetError error).Located := by
  cases error with
  | remote code kind message diagnostic => exact fun _ => remotePetKind_keeps .declaration kind
  | _ => simp [Error.Located, declarationPetError, PetError.isMissingReference]

/-- Every row of a document is anchored in the bytes of its context. -/
theorem DocumentContext.resolveDocument_anchored (context : DocumentContext)
    (rows : List PetDeclaration) (length : Nat)
    (accepted : context.resolveDocument rows length = .ok resolved) :
    ∀ row ∈ resolved, ∀ target ∈ row.target, target.info.identity = row.identity ∧
      target.anchor.source = context.source ∧ target.anchor.digest = context.digest ∧
      target.anchor.document = context.document := by
  intro row member target found
  obtain ⟨read, replaceable, rfl⟩ := (context.resolveDocument_ok accepted).1 row member
  simp only [resolveRow, Option.mem_def, Option.map_eq_some_iff] at found
  obtain ⟨kind, _, rfl⟩ := found
  exact ⟨rfl, rfl, rfl, rfl⟩

theorem DocumentContext.resolveRows_mild (context : DocumentContext)
    (rows : List (PetDeclaration × Bool)) (seen : List DeclarationIdentity) :
    MildResult (context.resolveRows seen rows) := by
  induction rows generalizing seen with
  | nil => exact .ok _
  | cons head rest ih =>
    exact .ite (.error (.of_kind rfl)) (.ite (.error (.of_kind rfl)) (.bind (ih _) fun _ => .ok _))

theorem DocumentContext.resolveDocument_mild (context : DocumentContext)
    (rows : List PetDeclaration) (length : Nat) :
    MildResult (context.resolveDocument rows length) :=
  .ite (context.resolveRows_mild _ _) (.error (.of_kind rfl))

/-- The rows of a document with their anchors. -/
def Anchored (rows : List ResolvedDeclaration) (world : World) : Prop :=
  ∀ row ∈ rows, ∀ target ∈ row.target,
    target.info.identity = row.identity ∧ target.Coherent world

namespace Engine

section

variable {project : ProjectId} {start : World} {live : Bool} {states : List PetStateId}

theorem petWorkspace_holding (source : Path) :
    Triple (Holding project start live states) (DuneProject.petWorkspace project source)
      (fun workspace world => Holding project start live states world ∧
        workspace = (start.layout project).petWorkspace)
      (EngineFails project start states) := by
  refine .bind (.gets _) fun layout => ?_
  rintro world ⟨holding, read⟩
  have same : layout = start.layout project := read.trans holding.calm.layout
  subst same
  by_cases selected : (start.layout project).containsFile source
  · simp only [Layout.petWorkspaceOf, selected, if_true]
    exact ⟨holding, rfl⟩
  · simp only [Layout.petWorkspaceOf, selected]
    exact holding.fails (.of_kind rfl)

/-- The document has the digest of the bytes, unless a difference has been noted. -/
def Fresh (document : Option Bytes) (source : Path) (bytes : Bytes) (digest : Digest)
    (world : World) : Prop :=
  world.digest bytes = digest ∧
    (world.digest (document.getD []) = digest ∨ world.Suffered (.staleDocument source))

theorem Fresh.meanwhile {document : Option Bytes} {source : Path} {bytes : Bytes} {digest : Digest}
    (fresh : Fresh document source bytes digest world) (meanwhile : Meanwhile world after) :
    Fresh document source bytes digest after := by
  obtain ⟨known, same⟩ := fresh
  have kept : ∀ bytes, after.digest bytes = world.digest bytes := fun bytes => by
    rw [World.digest, meanwhile.environment, World.digest]
  rw [Fresh, kept, kept]
  exact ⟨known, same.imp_right (meanwhile.mishaps _)⟩

/-- Read the source, and compare it with the document that PET has read. -/
theorem noteStale_holding (document : Option Bytes) (source : Path) (bytes : Bytes)
    {failed : ε → World → Prop} :
    Triple (Holding project start live states)
      (noteWhen (document ≠ some bytes) (.staleDocument source))
      (fun _ world => Holding project start live states world ∧
        Fresh document source bytes (start.digest bytes) world) failed := by
  intro world holding
  have digest : ∀ world, Holding project start live states world →
      world.digest bytes = start.digest bytes := fun world holding => by
    rw [World.digest, holding.calm.environment, World.digest]
  by_cases same : document = some bytes
  · subst same
    simp only [noteWhen, Act.when, ne_eq, not_true, decide_false]
    exact ⟨holding, digest _ holding, .inl (digest _ holding)⟩
  · simp only [noteWhen, Act.when, ne_eq, same, not_false_eq_true, decide_true, if_true]
    have kept := holding.idle (@noteWhen_idle ε true (.staleDocument source) world)
    exact ⟨kept, digest _ kept, .inr List.mem_cons_self⟩

/-- An operation that touches no runtime, while a document is fresh. -/
theorem Fresh.of_idle {document : Option Bytes} {source : Path} {bytes : Bytes} {digest : Digest}
    {action : EngineM α} (stays : Stays Idle action) (throws : Throws Error.Mild action) :
    Triple (fun world => Holding project start live states world ∧
        Fresh document source bytes digest world) action
      (fun _ world => Holding project start live states world ∧
        Fresh document source bytes digest world) (EngineFails project start states) :=
  Holding.framed (fun _ _ meanwhile fresh => Fresh.meanwhile fresh meanwhile) fun _ =>
    Holding.of_idle stays throws

/-- The bytes of the source are the document, unless a difference is noted. -/
theorem declarations_holding (file : FileId) :
    Triple (Holding project start live states) (declarations project file)
      (fun rows world => Holding project start live states world ∧ Anchored rows world)
      (EngineFails project start states) := by
  refine .bind (Holding.of_idle (DuneProject.source_idle project file)
    (DuneProject.source_throws project file)) fun source => ?_
  refine .bind (petWorkspace_holding source) fun workspace => .assume fun current => ?_
  refine .bind (Holding.of_idle (DuneProject.petSource_idle project source)
    (DuneProject.petSource_throws project source)) fun petSource => ?_
  refine .bind (Holding.projected declarationPetError_telling
    (PetActor.documentDeclarations_holding current petSource)) fun rows => ?_
  refine .bind (.gets _) fun document => ?_
  refine .bind ((Holding.of_idle (readOr_idle source _) (readOr_throws source _)).weaken
    (fun _ holds => holds.1) (fun _ _ holds => holds) fun _ _ holds => holds) fun bytes => ?_
  refine .bind (noteStale_holding document source bytes) fun _ => .bind (.gets _) fun digest => ?_
  refine .through (fun _ world => Holding project start live states world ∧
    Fresh document source bytes digest world) ((Fresh.of_idle
      (DuneProject.library_idle project source) (DuneProject.library_throws project source)).weaken
        ?_ (fun _ _ holds => holds) fun _ _ holds => holds) fun library => ?_
  · rintro world ⟨⟨holding, known, same⟩, rfl⟩
    exact ⟨holding, rfl, by rw [known]; exact same⟩
  · refine (Triple.ofExcept _).weaken (fun _ holds => holds) ?_ ?_
    · rintro resolved world ⟨⟨holding, _, fresh⟩, accepted⟩
      refine ⟨holding, fun row member target found => ?_⟩
      obtain ⟨named, atSource, same, read⟩ :=
        DocumentContext.resolveDocument_anchored _ rows _ accepted row member target found
      rw [DeclarationTarget.Coherent, atSource, same, read]
      exact ⟨named, fresh⟩
    · rintro error world ⟨⟨holding, _⟩, rejected⟩
      exact holding.fails (DocumentContext.resolveDocument_mild _ rows _ error rejected)

theorem resolve_holding (identity : DeclarationIdentity) :
    Triple (Holding project start live states) (resolve project identity)
      (fun resolved world => Holding project start live states world ∧
        (∀ target ∈ resolved.target, target.info.identity = identity ∧ target.Coherent world) ∧
        Logged project start live (.resolved identity resolved.proofFinished) world)
      (EngineFails project start states) := by
  refine .bind (declarations_holding identity.file) fun rows => ?_
  split
  · exact .throw fun _ holds => holds.1.fails (.of_kind rfl)
  · rename_i resolved found
    refine .through (fun _ world => Holding project start live states world ∧
      (∀ target ∈ resolved.target, target.info.identity = identity ∧ target.Coherent world) ∧
      Logged project start live (.resolved identity resolved.proofFinished) world) ?_
        fun _ => .pure fun _ holds => holds
    refine .each_state fun before ⟨holding, anchored⟩ => ?_
    refine (recordInEpoch_logged (.resolved identity resolved.proofFinished) nofun).weaken holding.rebase ?_
      fun _ _ holds => holds
    intro _ after ⟨later, logged⟩
    refine ⟨holding.since later, ?_, ?_⟩
    · intro target isTarget
      obtain ⟨named, coherent⟩ :=
        anchored resolved (List.mem_of_find?_eq_some found) target isTarget
      have same : resolved.identity = identity := by simpa using List.find?_some found
      exact ⟨named.trans same, coherent.meanwhile later.calm.toMeanwhile⟩
    · intro isLive process installed
      obtain ⟨middle, running, same⟩ := holding.alive isLive process installed
      obtain ⟨events, grown⟩ := logged isLive middle running
      obtain ⟨earlier, grown', _⟩ := holding.calm.chain
      exact ⟨events ++ earlier, by rw [grown, grown', same, List.append_assoc]⟩

theorem listRows_holding (file : FileId) :
    Triple (Holding project start live states) (declarations project file)
      (fun _ => Holding project start live states) (EngineFails project start states) :=
  (declarations_holding file).weaken (fun _ holds => holds) (fun _ _ holds => holds.1)
    fun _ _ fails => fails

theorem listDecls_holding (file : FileId) :
    Triple (Holding project start live states) (listDecls project file)
      (fun _ => Holding project start live states) (EngineFails project start states) :=
  .bind (listRows_holding file) fun _ => .pure fun _ holds => holds

theorem resolveFiles_holding (symbol : String) (limit : Nat) (found : List SymbolLocation)
    (files : List FileId) :
    Triple (Holding project start live states) (resolveFiles project symbol limit found files)
      (fun _ => Holding project start live states) (EngineFails project start states) := by
  induction files generalizing found with
  | nil => exact .pure fun _ holds => holds
  | cons file rest ih =>
    refine .bind (Holding.of_idle requestCancelled_idle requestCancelled_throws) fun cancelled => ?_
    refine .bind (Holding.of_idle (.ensure _ _) (.ensure fun _ => rfl)) fun _ => ?_
    refine .bind (Holding.of_idle (DuneProject.source_idle project file)
      (DuneProject.source_throws project file)) fun source => ?_
    refine .bind (Holding.of_idle (DuneProject.library_idle project source)
      (DuneProject.library_throws project source)) fun library => ?_
    refine .bind (listDecls_holding file) fun declarations => ?_
    exact .ite (fun _ => .pure fun _ holds => holds) fun _ => ih _

theorem resolveSymbolCandidates_holding (symbol : String) (limit : Nat) (files : List FileId) :
    Triple (Holding project start live states) (resolveSymbolCandidates project symbol limit files)
      (fun _ => Holding project start live states) (EngineFails project start states) := by
  refine .bind (Holding.of_idle (.ensure _ _) (.ensure (.of_kind rfl))) fun _ => ?_
  refine .bind (resolveFiles_holding symbol _ [] files) fun found => ?_
  exact .pure fun _ holds => holds

theorem locateSymbols_holding (symbol : String) (limit : Nat) :
    Triple (Holding project start live states) (locateSymbols project symbol limit)
      (fun _ => Holding project start live states) (EngineFails project start states) := by
  refine .bind (Holding.of_idle (locateSymbolCandidates_idle project symbol)
    (locateSymbolCandidates_throws project symbol)) fun files => ?_
  exact resolveSymbolCandidates_holding symbol limit files

/-- A temporary state, released under the error projection of the caller. -/
theorem releaseState_holding {projection : PetError → Error} (telling : Telling projection)
    (state : PetStateId) :
    Triple (Holding project start live (state :: states)) (releaseState project projection state)
      (fun _ => Holding project start live states) (EngineFails project start states) := by
  refine Holding.projected telling ?_
  exact PetActor.releaseStates_holding [state]

theorem releaseState_fails {projection : PetError → Error} (telling : Telling projection)
    {mild ends : Prop} (state : PetStateId) :
    Triple (Fails project start (state :: states) mild ends) (releaseState project projection state)
      (fun _ => Fails project start states mild ends) (EngineFails project start states) := by
  refine Holding.projected telling ?_
  exact PetActor.releaseStates_fails [state]

/-- A rejected state is released before its rejection. -/
theorem reject_holding {projection : PetError → Error} (telling : Telling projection)
    (state : PetStateId) {error : Error} (mild : error.Mild) {after : α → World → Prop} :
    Triple (Holding project start live (state :: states))
      (do releaseState project projection state; .throw error) after
      (EngineFails project start states) :=
  .bind (releaseState_holding telling state) fun _ => .throw fun _ holds => holds.fails mild

theorem requireOpenProof_holding (execution : PetExecution) :
    Triple (Holding project start live (execution.state :: states))
      (requireOpenProof project execution)
      (fun _ => Holding project start live (execution.state :: states))
      (EngineFails project start states) :=
  .ite (fun _ => reject_holding declarationPetError_telling _ (.of_kind rfl)) fun _ =>
    .pure fun _ holds => holds

theorem openTarget_holding (target : DeclarationTarget) :
    Triple (Holding project start live states) (openTarget project target)
      (fun opened world => Holding project start live (opened.state :: states) world ∧
        opened.target = target ∧ opened.view.lifecycle = .open')
      (EngineFails project start states) := by
  refine .bind (petWorkspace_holding _) fun workspace => .assume fun current => ?_
  refine .bind (Holding.of_idle (DuneProject.petSource_idle project _)
    (DuneProject.petSource_throws project _)) fun petSource => ?_
  refine .bind (Holding.projected declarationPetError_telling
    (PetActor.stateAt_holding current petSource _)) fun opened => ?_
  refine .bind (requireOpenProof_holding opened) fun _ => .pure ?_
  exact fun _ holding => ⟨holding, rfl, rfl⟩

theorem validateIdentity_mild (identity : DeclarationIdentity) :
    MildResult (validateIdentity identity) :=
  .bind (validateFileId_mild _) fun _ => .ite (.error (.of_kind rfl)) (.ok _)

/-- An opened declaration holds its state, and its target is coherent. -/
def Opened (project : ProjectId) (start : World) (live : Bool) (states : List PetStateId)
    (opened : OpenedProof) (world : World) : Prop :=
  Holding project start live (opened.state :: states) world ∧ opened.target.Coherent world ∧
    opened.view.lifecycle = .open'

theorem openDeclaration_holding (identity : DeclarationIdentity) :
    Triple (Holding project start live states) (openDeclaration project identity)
      (fun result world =>
        match result with
        | .open' opened => Opened project start live states opened world
        | .published target => Holding project start live states world ∧ target.Coherent world)
      (EngineFails project start states) := by
  refine .bind (Holding.of_idle (.ofExcept _) (.ofExcept (validateIdentity_mild identity)))
    fun _ => ?_
  refine .bind (resolve_holding identity) fun resolved => ?_
  split
  · exact .throw fun _ holds => holds.1.fails (.of_kind rfl)
  · rename_i target found
    refine .ite (fun _ => .pure fun _ holds => ⟨holds.1, (holds.2.1 target found).2⟩) fun _ => ?_
    refine .ite (fun _ => .throw fun _ holds => holds.1.fails (.of_kind rfl)) fun _ => ?_
    refine .through (fun opened => Opened project start live states opened) ?_
      fun opened => .pure fun _ holds => holds
    refine .each_state fun before ⟨holding, coherent, _⟩ => ?_
    refine (openTarget_holding target).weaken holding.rebase ?_ fun _ _ fails => fails.since holding
    rintro opened world ⟨later, rfl, shown⟩
    exact ⟨holding.since later, (coherent _ found).2.meanwhile later.calm.toMeanwhile, shown⟩

/-- What `openHeader` returns: an opened state, or an error and no state. -/
def HeaderResult (project : ProjectId) (start : World) (live : Bool) (states : List PetStateId)
    (result : Except Error PetExecution) (world : World) : Prop :=
  match result with
  | .ok execution => Holding project start live (execution.state :: states) world
  | .error error => EngineFails project start states error world ∧ error.Located

theorem releaseAfter_holding (base : PetStateId) (result : Except Error PetExecution) :
    Triple (HeaderResult project start live (base :: states) result)
      (releaseAfter project base result)
      (fun execution => Holding project start live (execution.state :: states))
      (fun error world => EngineFails project start states error world ∧ error.Located) := by
  cases result with
  | ok execution =>
    have release : Triple (Holding project start live (execution.state :: base :: states))
        (PetActor.releaseStates project [base])
        (fun _ => Holding project start live ([execution.state] ++ states))
        (PetFails project start states) :=
      (PetActor.releaseStates_leaving [base] [execution.state]).weaken
        (fun _ holding => holding.perm (List.Perm.swap ..)) (fun _ _ holds => holds)
          fun _ _ holds => holds
    refine .bind (Triple.mapError (release.weaken (fun _ holds => holds) (fun _ _ holds => holds)
      fun error _ fails => ⟨PetFails.projected declarationPetError_telling fails,
        declarationPetError_located error⟩)) fun _ => ?_
    exact fun _ holds => holds
  | error error =>
    refine .assume fun located => ?_
    have release : Triple (EngineFails project start ([base] ++ states) error)
        (PetActor.releaseStates project [base]) (fun _ => EngineFails project start states error)
        (PetFails project start states) :=
      PetActor.releaseStates_fails [base]
    refine .bind (Triple.mapError (release.weaken (fun _ holds => holds) (fun _ _ holds => holds)
      fun error _ fails => ⟨PetFails.projected declarationPetError_telling fails,
        declarationPetError_located error⟩)) fun _ => ?_
    exact fun _ fails => ⟨fails, located⟩

theorem openHeader_holding {workspace : PetWorkspace}
    (current : workspace = (start.layout project).petWorkspace) (petSource : PetSource)
    (insertion : Nat) (header : String) :
    Triple (Holding project start live states)
      (openHeader project workspace petSource insertion header)
      (HeaderResult project start live states) (EngineFails project start states) := by
  refine .bind (Holding.projected declarationPetError_telling
    (PetActor.stateAt_holding current petSource insertion)) fun base => ?_
  have ran : Triple (Holding project start live (base.state :: states))
      (Act.mapError declarationPetError (PetActor.run project base.state (header ++ ".")))
      (fun execution => Holding project start live (execution.state :: base.state :: states))
      fun error world => EngineFails project start (base.state :: states) error world ∧
        error.Located := by
    refine .mapError ((PetActor.run_holding List.mem_cons_self _ none).weaken (fun _ holds => holds)
      (fun _ _ holds => holds) fun error _ fails => ?_)
    exact ⟨PetFails.projected declarationPetError_telling fails, declarationPetError_located error⟩
  refine .through (HeaderResult project start live (base.state :: states))
    ((Triple.attempt ran).weaken (fun _ holds => holds) ?_ fun _ _ holds => holds) fun opened => ?_
  · intro result world
    cases result <;> exact id
  · refine (Triple.attempt (releaseAfter_holding base.state opened)).weaken (fun _ holds => holds)
      ?_ fun _ _ holds => holds
    intro result world
    cases result <;> exact id

/-- Enriching an error keeps its kind. -/
theorem enrichDeclarationError_holding {error : Error} (located : error.Located)
    (statement : String) (kind : DeclarationKind) (leaf : String) {failed : ε → World → Prop} :
    Triple (EngineFails project start states error)
      (enrichDeclarationError project error statement kind leaf)
      (fun enriched world => EngineFails project start states enriched world) failed := by
  refine .ite (fun _ => .pure fun _ holds => holds) fun resolvable => ?_
  have alive : error.kind.invalidatesPetEpoch = false :=
    located (by simpa [Option.isSome_iff_ne_none] using resolvable)
  have swallowed : ∀ probe, Triple (EngineFails project start states error)
      (probeCandidates project probe) (fun _ => Holding project start false states) failed := by
    intro probe
    have held : ∀ world, EngineFails project start states error world →
        Holding project start false states world := by
      rintro world (⟨holding, _⟩ | ⟨_, told⟩)
      · exact holding
      · exact absurd told (by simp [alive])
    refine .ite (fun _ => .pure held) fun _ => ?_
    exact (PetActor.bestEffort_holding (fun start => locateSymbols_holding probe 20)
      fun _ member => member).weaken held (fun _ _ holds => holds) fun _ _ holds => holds
  exact .bind (swallowed _) fun candidates => .pure fun _ holding =>
    holding.fails (Error.Mild.of_kind alive)

theorem declaredIdentity_mild (file : FileId) (library : LogicalLibrary) (name : String) :
    MildResult (declaredIdentity file library name) :=
  .ite (.error (.of_kind rfl)) (.ite (.error (.of_kind rfl)) (.ok _))

theorem declaredStatement_mild (statement : String) : MildResult (declaredStatement statement) :=
  .ite (.error (.of_kind rfl)) (.ok _)

theorem relativePath_mild (identity : DeclarationIdentity) (library : LogicalLibrary) :
    MildResult (relativePath identity library) :=
  .ite (.ok _) (.error (.of_kind rfl))

theorem splitLeaf_mild (relative : List String) : MildResult (splitLeaf relative) := by
  unfold splitLeaf
  split
  · exact .ok _
  · exact .error (.of_kind rfl)

theorem HeaderResult.since {before : World} {result : Except Error PetExecution}
    (holding : Holding project start live states before)
    (ended : HeaderResult project before live states result world) :
    HeaderResult project start live states result world ∧ Meanwhile before world := by
  cases result with
  | ok execution => exact ⟨holding.since ended, ended.calm.toMeanwhile⟩
  | error error =>
    refine ⟨⟨ended.1.since holding, ended.2⟩, ?_⟩
    rcases ended.1 with ⟨later, _⟩ | ⟨gone, _⟩
    · exact later.calm.toMeanwhile
    · exact gone.calm.toMeanwhile

/-- Both ends of `declare`: an enriched error, or a state at a new target. -/
theorem openHeader_fresh {workspace : PetWorkspace} (petSource : PetSource) (insertion : Nat)
    (header : String) (document : Option Bytes) (source : Path) (bytes : Bytes) (digest : Digest)
    (current : workspace = (start.layout project).petWorkspace) :
    Triple (fun world => Holding project start live states world ∧
        Fresh document source bytes digest world)
      (openHeader project workspace petSource insertion header)
      (fun result world => HeaderResult project start live states result world ∧
        Fresh document source bytes digest world) (EngineFails project start states) := by
  refine .each_state fun before ⟨holding, fresh⟩ => ?_
  have same : workspace = (before.layout project).petWorkspace :=
    current.trans (by rw [holding.calm.layout])
  refine (openHeader_holding same petSource insertion header).weaken
    holding.rebase ?_ fun _ _ fails => fails.since holding
  intro result world ended
  obtain ⟨later, meanwhile⟩ := HeaderResult.since holding ended
  exact ⟨later, fresh.meanwhile meanwhile⟩

theorem declare_holding (kind : DeclarationKind) (file : FileId) (name statement : String) :
    Triple (Holding project start live states) (declare project kind file name statement)
      (Opened project start live states) (EngineFails project start states) := by
  refine .bind (Holding.of_idle (DuneProject.source_idle project file)
    (DuneProject.source_throws project file)) fun source => ?_
  refine .bind (Holding.of_idle (DuneProject.library_idle project source)
    (DuneProject.library_throws project source)) fun library => ?_
  refine .bind (Holding.of_idle (.ofExcept _) (.ofExcept (declaredIdentity_mild file library name)))
    fun identity => ?_
  refine .bind (Holding.of_idle (.ofExcept _) (.ofExcept (validateIdentity_mild identity)))
    fun _ => ?_
  refine .bind (Holding.of_idle (.ofExcept _) (.ofExcept (declaredStatement_mild statement)))
    fun statement => ?_
  refine .bind (Holding.of_idle (.ofExcept _) (.ofExcept (relativePath_mild identity library)))
    fun relative => ?_
  refine .bind (Holding.of_idle (.ofExcept _) (.ofExcept (splitLeaf_mild relative)))
    fun (leaf, modules) => ?_
  refine .bind (listRows_holding identity.file) fun existing => ?_
  refine .bind (Holding.of_idle (.ensure _ _) (.ensure (.of_kind rfl))) fun _ => ?_
  refine .bind (petWorkspace_holding source) fun workspace => .assume fun current => ?_
  refine .bind (Holding.of_idle (DuneProject.petSource_idle project source)
    (DuneProject.petSource_throws project source)) fun petSource => ?_
  refine .bind (Holding.projected declarationPetError_telling
    (PetActor.insertionPoint_holding current petSource modules)) fun insertion => ?_
  refine .bind (.gets _) fun document => ?_
  refine .bind ((Holding.of_idle (readOr_idle source _) (readOr_throws source _)).weaken
    (fun _ holds => holds.1) (fun _ _ holds => holds) fun _ _ holds => holds) fun bytes => ?_
  refine .bind (noteStale_holding document source bytes) fun _ => ?_
  refine .bind (Fresh.of_idle (.ensure _ _) (.ensure (.of_kind rfl))) fun _ => ?_
  refine .bind (openHeader_fresh petSource insertion _ document source bytes _ current)
    fun result => ?_
  cases result with
  | error error =>
    refine .bind ((Triple.assume fun located => enrichDeclarationError_holding located statement
      kind leaf).weaken (fun _ holds => holds.1) (fun _ _ holds => holds) fun _ _ holds => holds)
        fun enriched => .throw fun _ fails => fails
  | ok opened =>
    refine .bind (Holding.framed (fun _ _ meanwhile fresh => Fresh.meanwhile fresh meanwhile)
      fun _ => requireOpenProof_holding opened) fun _ => ?_
    refine .bind (.gets _) fun digest => .pure ?_
    rintro world ⟨⟨holding, known, same⟩, rfl⟩
    refine ⟨holding, ?_, rfl⟩
    rw [DeclarationTarget.Coherent]
    simp only [newTarget]
    rw [known]
    exact same

theorem replayNewRoot_holding (target : DeclarationTarget) (header : String) :
    Triple (Holding project start live states) (replayNewRoot project target header)
      (fun opened world => Holding project start live (opened.state :: states) world ∧
        opened.view.lifecycle = .open')
      (EngineFails project start states) := by
  refine .bind (petWorkspace_holding _) fun workspace => .assume fun current => ?_
  refine .bind (Holding.of_idle (DuneProject.petSource_idle project _)
    (DuneProject.petSource_throws project _)) fun petSource => ?_
  refine .bind (openHeader_holding current petSource _ header) fun result => ?_
  cases result with
  | error error => exact .throw fun _ holds => holds.1
  | ok opened =>
    exact .bind (requireOpenProof_holding opened) fun _ => .pure fun _ holds => ⟨holds, rfl⟩

/-- Renaming an error of a lookup does not change what it tells. -/
theorem EngineFails.renamed {error : Error} {message : String} {world : World}
    (fails : EngineFails project start states error world) :
    EngineFails project start states
      (if error.kind = .notFound then .new .declarationChanged message else error) world := by
  split
  · rename_i missing
    rcases fails with ⟨holding, _⟩ | ⟨_, told⟩
    · exact holding.fails (.of_kind rfl)
    · exact absurd told (by rw [missing]; decide)
  · exact fails

theorem replayRoot_holding (target : DeclarationTarget) :
    Triple (Holding project start live states) (replayRoot project target)
      (fun opened world => Holding project start live (opened.state :: states) world ∧
        opened.view.lifecycle = .open')
      (EngineFails project start states) := by
  refine .bind (Holding.of_idle (validateTarget_idle project target)
    (validateTarget_throws project target)) fun _ => ?_
  split
  · exact replayNewRoot_holding target _
  · refine .bind (.mapError ((resolve_holding target.info.identity).weaken (fun _ holds => holds)
      (fun _ _ holds => holds.1) fun _ _ fails => EngineFails.renamed fails)) fun resolved => ?_
    split
    · exact .throw fun _ holding => holding.fails (.of_kind rfl)
    · refine .ite (fun _ => .throw fun _ holding => holding.fails (.of_kind rfl)) fun _ => ?_
      exact (openTarget_holding _).weaken (fun _ holds => holds)
        (fun _ _ holds => ⟨holds.1, holds.2.2⟩) fun _ _ fails => fails

theorem checkedStep_holding (target : DeclarationTarget) (execution : PetExecution) :
    Triple (Holding project start live (execution.state :: states))
      (checkedStep project target execution)
      (fun step world => Holding project start live (step.state :: states) world ∧
        step.view.lifecycle = .open')
      (EngineFails project start states) :=
  .ite (fun _ => reject_holding stepPetError_telling _ (.of_kind rfl)) fun _ =>
    .pure fun _ holds => ⟨holds, rfl⟩

theorem validateFragment_mild (fragment : String) : MildResult (validateFragment fragment) :=
  .ite (.error (.of_kind rfl)) (.ite (.error (.of_kind rfl)) (.ok ()))

section

variable {state : PetStateId} (member : state ∈ states)

include member

theorem run_holding (target : DeclarationTarget) (fragment : String) (timeoutMs : Option Nat) :
    Triple (Holding project start live states) (run project target state fragment timeoutMs)
      (fun step world => Holding project start live (step.state :: states) world ∧
        step.view.lifecycle = .open')
      (EngineFails project start states) := by
  refine .bind (Holding.of_idle (validateTarget_idle project target)
    (validateTarget_throws project target)) fun _ => ?_
  refine .bind (Holding.of_idle (.ofExcept _) (.ofExcept (validateFragment_mild fragment)))
    fun _ => ?_
  refine .bind (Holding.projected stepPetError_telling
    (PetActor.run_holding member fragment timeoutMs)) fun execution => ?_
  exact checkedStep_holding target execution

/-- The states that the outcome of a traced step leaves. -/
theorem runTraced_holding (target : DeclarationTarget) (fragment : String) (includeTrace : Bool)
    (timeoutMs : Option Nat) :
    Triple (Holding project start live states)
      (runTraced project target state fragment includeTrace timeoutMs)
      (fun outcome world =>
        match outcome with
        | .success step => Holding project start live (step.state :: states) world ∧
          step.view.lifecycle = .open'
        | .failure _ => Holding project start live states world)
      (EngineFails project start states) := by
  refine .bind (Holding.of_idle (validateTarget_idle project target)
    (validateTarget_throws project target)) fun _ => ?_
  refine .bind (Holding.of_idle (.ofExcept _) (.ofExcept (validateFragment_mild fragment)))
    fun _ => ?_
  refine .bind (Holding.projected stepPetError_telling
    (PetActor.runTraced_holding member fragment includeTrace timeoutMs)) fun outcome => ?_
  cases outcome with
  | success execution =>
    exact .bind (checkedStep_holding target execution) fun step => .pure fun _ holds => holds
  | failure failed =>
    exact .bind (releaseState_holding stepPetError_telling failed.beforeState) fun _ =>
      .pure fun _ holds => holds

theorem queryState_holding (target : DeclarationTarget) (query : PetQuery) :
    Triple (Holding project start live states) (queryState project target state query)
      (fun _ => Holding project start live states) (EngineFails project start states) := by
  refine .bind (Holding.of_idle (validateTarget_idle project target)
    (validateTarget_throws project target)) fun _ => ?_
  exact Holding.projected queryPetError_telling (PetActor.query_holding member query)

theorem closeProof_holding (target : DeclarationTarget) :
    Triple (Holding project start live states) (closeProof project target state)
      (fun _ => Holding project start live states) (EngineFails project start states) := by
  refine .bind (Holding.of_idle (validateTarget_idle project target)
    (validateTarget_throws project target)) fun _ => ?_
  refine .bind (Holding.projected finalizerPetError_telling
    (PetActor.run_holding member _ none)) fun closed => ?_
  refine .bind (releaseState_holding finalizerPetError_telling closed.state) fun _ => ?_
  exact Holding.of_idle (.ensure _ _) (.ensure (.of_kind rfl))

end

theorem goals_holding (target : DeclarationTarget) (state : PetStateId) (scope : GoalScope)
    (goalId : Option Evar) :
    Triple (Holding project start live states) (goals project target state scope goalId)
      (fun _ => Holding project start live states) (EngineFails project start states) := by
  refine .bind (Holding.of_idle (validateTarget_idle project target)
    (validateTarget_throws project target)) fun _ => ?_
  refine .bind (Holding.projected stepPetError_telling (PetActor.goals_holding state))
    fun goals => ?_
  refine .bind (Holding.of_idle (.ensure _ _) (.ensure (.of_kind rfl))) fun _ => ?_
  split
  · exact .throw fun _ holding => holding.fails (.of_kind rfl)
  · exact .pure fun _ holds => holds

/-- A temporary state is released after an operation in it, whatever its result. -/
theorem releaseResult_holding (state : PetStateId) (result : Except Error α) :
    Triple (fun world =>
        match result with
        | .ok _ => Holding project start live (state :: states) world
        | .error error => EngineFails project start (state :: states) error world)
      (do releaseState project queryPetError state; Act.ofExcept result)
      (fun _ => Holding project start live states) (EngineFails project start states) := by
  cases result with
  | ok value =>
    exact .bind (releaseState_holding queryPetError_telling state) fun _ => fun _ holds => holds
  | error error =>
    exact .bind (releaseState_fails queryPetError_telling state) fun _ => fun _ fails => fails

theorem queryAt_holding (identity : DeclarationIdentity) (query : PetQuery) :
    Triple (Holding project start live states) (queryAt project identity query)
      (fun _ => Holding project start live states) (EngineFails project start states) := by
  refine .bind ((resolve_holding identity).weaken (fun _ holds => holds) (fun _ _ holds => holds.1)
    fun _ _ fails => fails) fun resolved => ?_
  split
  · exact .throw fun _ holding => holding.fails (.of_kind rfl)
  · refine .bind (petWorkspace_holding _) fun workspace => .assume fun current => ?_
    refine .bind (Holding.of_idle (DuneProject.petSource_idle project _)
      (DuneProject.petSource_throws project _)) fun petSource => ?_
    refine .bind (Holding.projected queryPetError_telling
      (PetActor.stateAt_holding current petSource _)) fun context => ?_
    refine .bind (.attempt (Holding.projected queryPetError_telling
      (PetActor.query_holding List.mem_cons_self query))) fun result => ?_
    refine (releaseResult_holding context.state result).weaken ?_ (fun _ _ holds => holds)
      fun _ _ fails => fails
    cases result <;> exact fun _ holds => holds

end

end Engine

end RocqMcp
