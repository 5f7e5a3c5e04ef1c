import RocqMcp.Engine.Provenance
import RocqMcp.Engine.Publication

/-! What the operations of the engine do to the world besides writing source
files, whatever they return. No operation touches a session or takes a request
off the record. -/

namespace RocqMcp

open Library

namespace PetActor

section

variable {relation : World → World → Prop} [Frames relation] (project : ProjectId)

theorem restart_framed : Stays relation (restart project : Act World ε Unit) :=
  discard_framed project

theorem recordInEpoch_framed (event : Nat → ChainEvent) :
    Stays relation (recordInEpoch project event : Act World ε Unit) := by
  refine .modify fun world => ?_
  split
  · exact Frames.record world _
  · exact refl_of relation world

theorem spawn_framed : Stays relation spawn := by
  refine .bind (framed tick_idle) fun tick => ?_
  cases tick.spawn with
  | some error => exact .throw error
  | none =>
    refine .bind (.gets _) fun epoch => .bind (framed (exchange_idle _ _)) fun reply => ?_
    cases reply with
    | capabilities names => exact .bind (.ensure _ _) fun _ => .pure _
    | _ => exact .throw _

theorem ensureChild_framed : Stays relation (ensureChild project) := by
  refine .bind (.gets _) fun found => ?_
  cases found with
  | some process => exact .pure process
  | none =>
    exact .bind spawn_framed fun process =>
      .bind (.modify fun world => Frames.setActor world project _) fun _ => .pure _

theorem ensureProcess_framed (workspace : PetWorkspace) :
    Stays relation (ensureProcess project workspace) := by
  refine .bind (ensureChild_framed project) fun process => .bind (.gets _) fun current =>
    .ite (fun _ => .pure ()) fun _ =>
      .bind (orDiscard_framed project (rpc_framed project process _ none)) fun reply => ?_
  cases reply with
  | null => exact .modify fun world => Frames.setActor world project _
  | _ => exact .bind (discard_framed project) fun _ => .throw _

theorem callInWorkspace_framed (workspace : PetWorkspace) (call : PetCall) :
    Stays relation (callInWorkspace project workspace call) :=
  .bind (ensureProcess_framed project workspace) fun _ => callLive_framed project call none

theorem documentDeclarations_framed (workspace : PetWorkspace) (source : PetSource) :
    Stays relation (documentDeclarations project workspace source) := by
  refine .bind (callInWorkspace_framed project workspace _) fun reply => ?_
  cases reply with
  | declarations rows => exact .pure rows
  | _ => exact violated_framed project _

theorem insertionPoint_framed (workspace : PetWorkspace) (source : PetSource)
    (modules : List String) : Stays relation (insertionPoint project workspace source modules) := by
  refine .bind (callInWorkspace_framed project workspace _) fun reply => ?_
  cases reply with
  | offset value => exact .pure value
  | _ => exact violated_framed project _

theorem stateAt_framed (workspace : PetWorkspace) (source : PetSource) (offset : Nat) :
    Stays relation (stateAt project workspace source offset) :=
  .bind (framed (readDocument_idle source)) fun _ => .bind (.ofExcept _) fun _ =>
    .bind (callInWorkspace_framed project workspace _) fun _ => materializeRun_framed project _

theorem traceFailure_framed (beforeState : PetStateId) (failure : RawTraceFailure)
    (fragment : String) : Stays relation (traceFailure project beforeState failure fragment) := by
  refine .ite (fun _ => violated_framed project _) fun _ => ?_
  split
  · exact violated_framed project _
  · exact .bind (materialize_framed project beforeState false) fun _ => .pure _

theorem runTraced_framed (state : PetStateId) (fragment : String) (includeTrace : Bool)
    (timeoutMs : Option Nat) :
    Stays relation (runTraced project state fragment includeTrace timeoutMs) := by
  refine .bind (.ensure _ _) fun _ => .bind (callLive_framed project _ timeoutMs) fun reply => ?_
  cases reply with
  | traceSuccess exported proofFinished =>
    exact .bind (materialize_framed project exported proofFinished) fun _ => .pure _
  | traceFailure beforeState failure =>
    exact traceFailure_framed project beforeState failure fragment
  | _ => exact violated_framed project _

theorem assumptions_framed (state : PetStateId) (qualifiedPath : List String) :
    Stays relation (assumptions project state qualifiedPath) := by
  refine .bind (callLive_framed project _ _) fun reply => ?_
  cases reply with
  | assumptions report => exact .ite (fun _ => violated_framed project _) fun _ => .pure report
  | _ => exact violated_framed project _

theorem queryRun_framed (state : PetStateId) (query : PetQuery) :
    Stays relation (queryRun project state query) := by
  refine .bind (callLive_framed project _ _) fun reply => ?_
  cases reply with
  | run temporary proofFinished feedback =>
    cases feedback with
    | some text => exact .bind (releaseStates_framed project _) fun _ => .pure text
    | none =>
      exact .bind (.when _ (discard_framed project)) fun _ =>
        .bind (.attempt (releaseStates_framed project _)) fun _ => .throw _
  | _ => exact violated_framed project _

theorem query_framed (state : PetStateId) (query : PetQuery) :
    Stays relation (PetActor.query project state query) := by
  cases query with
  | notations expression =>
    refine .bind (callLive_framed project _ _) fun reply => ?_
    cases reply with
    | notations text => exact .pure text
    | _ => exact violated_framed project _
  | _ => exact queryRun_framed project state _

theorem refreshWorkspace_framed (workspace : PetWorkspace) :
    Stays relation (refreshWorkspace project workspace) := by
  refine .bind (ensureProcess_framed project workspace) fun _ => .bind (.gets _) fun found => ?_
  cases found with
  | none => exact .throw _
  | some process =>
    refine .bind (.attempt (rpc_framed project process _ none)) fun result => ?_
    split
    · exact recordInEpoch_framed project _
    · exact .bind (.bind (discard_framed project) fun _ => ensureProcess_framed project workspace)
        fun _ => recordInEpoch_framed project _

end

end PetActor

namespace Engine

section

variable {relation : World → World → Prop} [Frames relation] (project : ProjectId)

theorem refreshProject_framed : Stays relation (refreshProject project) := by
  refine .bind (framed layoutProbe_idle) fun probe => .bind (.gets _) fun known =>
    .ite (fun _ => .pure false) fun _ => .bind (framed loadLayout_idle) fun loaded =>
      .bind (.ensure _ _) fun _ => .bind ?_ fun changed => .bind ?_ fun _ => .pure changed
  · refine .bind (.gets _) fun current => .ite (fun _ => .pure false) fun _ =>
      .bind (.modify fun world => trans_of relation (Frames.setRuntime world project _)
        (Frames.recordChange _ project)) fun _ => .pure true
  · exact .modify fun world => Frames.setRuntime world project _

theorem declarations_framed (file : FileId) : Stays relation (declarations project file) :=
  .bind (framed (DuneProject.source_idle project file)) fun _ =>
    .bind (framed (DuneProject.petWorkspace_idle project _)) fun _ =>
    .bind (framed (DuneProject.petSource_idle project _)) fun _ =>
    .bind (.mapError (PetActor.documentDeclarations_framed project _ _)) fun _ =>
    .bind (.gets _) fun _ => .bind (framed (readOr_idle _ _)) fun _ =>
    .bind (framed (noteWhen_idle _ _)) fun _ => .bind (.gets _) fun _ =>
    .bind (framed (DuneProject.library_idle project _)) fun _ => .ofExcept _

theorem resolve_framed (identity : DeclarationIdentity) :
    Stays relation (resolve project identity) := by
  refine .bind (declarations_framed project identity.file) fun rows => ?_
  split
  · exact .throw _
  · exact .bind (PetActor.recordInEpoch_framed project _) fun _ => .pure _

theorem listDecls_framed (file : FileId) : Stays relation (listDecls project file) :=
  .bind (declarations_framed project file) fun _ => .pure _

theorem resolveFiles_framed (symbol : String) (limit : Nat) (found : List SymbolLocation)
    (files : List FileId) : Stays relation (resolveFiles project symbol limit found files) := by
  induction files generalizing found with
  | nil => exact .pure found
  | cons file rest ih =>
    exact .bind (framed requestCancelled_idle) fun _ => .bind (.ensure _ _) fun _ =>
      .bind (framed (DuneProject.source_idle project file)) fun _ =>
      .bind (framed (DuneProject.library_idle project _)) fun _ =>
      .bind (listDecls_framed project file) fun _ => .ite (fun _ => .pure _) fun _ => ih _

theorem resolveSymbolCandidates_framed (symbol : String) (limit : Nat) (files : List FileId) :
    Stays relation (resolveSymbolCandidates project symbol limit files) :=
  .bind (.ensure _ _) fun _ => .bind (resolveFiles_framed project symbol _ [] files) fun _ =>
    .pure _

theorem locateSymbols_framed (symbol : String) (limit : Nat) :
    Stays relation (locateSymbols project symbol limit) :=
  .bind (framed (locateSymbolCandidates_idle project symbol)) fun _ =>
    resolveSymbolCandidates_framed project symbol limit _

theorem releaseState_framed (projection : PetError → Error) (state : PetStateId) :
    Stays relation (releaseState project projection state) :=
  .mapError (PetActor.releaseStates_framed project [state])

theorem requireOpenProof_framed (execution : PetExecution) :
    Stays relation (requireOpenProof project execution) :=
  .ite (fun _ => .bind (releaseState_framed project _ _) fun _ => .throw _) fun _ => .pure ()

theorem openTarget_framed (target : DeclarationTarget) : Stays relation (openTarget project target) :=
  .bind (framed (DuneProject.petWorkspace_idle project _)) fun _ =>
    .bind (framed (DuneProject.petSource_idle project _)) fun _ =>
    .bind (.mapError (PetActor.stateAt_framed project _ _ _)) fun _ =>
    .bind (requireOpenProof_framed project _) fun _ => .pure _

theorem openDeclaration_framed (identity : DeclarationIdentity) :
    Stays relation (openDeclaration project identity) := by
  refine .bind (.ofExcept _) fun _ => .bind (resolve_framed project identity) fun resolved => ?_
  split
  · exact .throw _
  · exact .ite (fun _ => .pure _) fun _ => .ite (fun _ => .throw _) fun _ =>
      .bind (openTarget_framed project _) fun _ => .pure _

theorem openHeader_framed (workspace : PetWorkspace) (petSource : PetSource) (insertion : Nat)
    (header : String) : Stays relation (openHeader project workspace petSource insertion header) :=
  .bind (.mapError (PetActor.stateAt_framed project _ _ _)) fun _ =>
    .bind (.attempt (.mapError (PetActor.run_framed project _ _ _))) fun _ =>
    .attempt (.bind (releaseState_framed project _ _) fun _ => .ofExcept _)

theorem enrichDeclarationError_framed (error : Error) (statement : String) (kind : DeclarationKind)
    (leaf : String) :
    Stays relation (enrichDeclarationError project error statement kind leaf : Act World ε Error) :=
  .ite (fun _ => .pure error) fun _ => .bind (.ite (fun _ => .pure _) fun _ =>
    PetActor.bestEffort_framed project (locateSymbols_framed project _ _)) fun _ => .pure _

theorem declare_framed (kind : DeclarationKind) (file : FileId) (name statement : String) :
    Stays relation (declare project kind file name statement) := by
  refine .bind (framed (DuneProject.source_idle project file)) fun source =>
    .bind (framed (DuneProject.library_idle project source)) fun library => .bind (.ofExcept _)
    fun identity => .bind (.ofExcept _) fun _ => .bind (.ofExcept _) fun statement =>
    .bind (.ofExcept _) fun relative => .bind (.ofExcept _) fun (leaf, modules) =>
    .bind (declarations_framed project _) fun existing => .bind (.ensure _ _) fun _ =>
    .bind (framed (DuneProject.petWorkspace_idle project source)) fun workspace =>
    .bind (framed (DuneProject.petSource_idle project source)) fun petSource =>
    .bind (.mapError (PetActor.insertionPoint_framed project _ _ _)) fun insertion =>
    .bind (.gets _) fun document => .bind (framed (readOr_idle _ _)) fun bytes =>
    .bind (framed (noteWhen_idle _ _)) fun _ => .bind (.ensure _ _) fun _ =>
    .bind (openHeader_framed project _ _ _ _) fun result => ?_
  cases result with
  | error error => exact .bind (enrichDeclarationError_framed project _ _ _ _) fun _ => .throw _
  | ok opened =>
    exact .bind (requireOpenProof_framed project opened) fun _ => .bind (.gets _) fun _ => .pure _

theorem replayRoot_framed (target : DeclarationTarget) : Stays relation (replayRoot project target) := by
  refine .bind (framed (validateTarget_idle project target)) fun _ => ?_
  split
  · refine .bind (framed (DuneProject.petWorkspace_idle project _)) fun _ =>
      .bind (framed (DuneProject.petSource_idle project _)) fun _ =>
      .bind (openHeader_framed project _ _ _ _) fun result => ?_
    cases result with
    | error error => exact .throw _
    | ok opened => exact .bind (requireOpenProof_framed project opened) fun _ => .pure _
  · refine .bind (.mapError (resolve_framed project _)) fun current => ?_
    split
    · exact .throw _
    · exact .ite (fun _ => .throw _) fun _ => openTarget_framed project _

theorem checkedStep_framed (target : DeclarationTarget) (execution : PetExecution) :
    Stays relation (checkedStep project target execution) :=
  .ite (fun _ => .bind (releaseState_framed project _ _) fun _ => .throw _) fun _ => .pure _

theorem run_framed (target : DeclarationTarget) (state : PetStateId) (fragment : String)
    (timeoutMs : Option Nat) : Stays relation (run project target state fragment timeoutMs) :=
  .bind (framed (validateTarget_idle project target)) fun _ => .bind (.ofExcept _) fun _ =>
    .bind (.mapError (PetActor.run_framed project state fragment timeoutMs)) fun _ =>
    checkedStep_framed project target _

theorem runTraced_framed (target : DeclarationTarget) (state : PetStateId) (fragment : String)
    (includeTrace : Bool) (timeoutMs : Option Nat) :
    Stays relation (runTraced project target state fragment includeTrace timeoutMs) := by
  refine .bind (framed (validateTarget_idle project target)) fun _ => .bind (.ofExcept _) fun _ =>
    .bind (.mapError (PetActor.runTraced_framed project state fragment includeTrace timeoutMs))
      fun outcome => ?_
  cases outcome with
  | success execution => exact .bind (checkedStep_framed project target execution) fun _ => .pure _
  | failure failure => exact .bind (releaseState_framed project _ _) fun _ => .pure _

theorem goals_framed (target : DeclarationTarget) (state : PetStateId) (scope : GoalScope)
    (goalId : Option Evar) : Stays relation (goals project target state scope goalId) := by
  refine .bind (framed (validateTarget_idle project target)) fun _ =>
    .bind (.mapError (PetActor.goals_framed project state)) fun goals => .bind (.ensure _ _)
      fun _ => ?_
  split
  · exact .throw _
  · exact .pure _

theorem queryState_framed (target : DeclarationTarget) (state : PetStateId) (query : PetQuery) :
    Stays relation (queryState project target state query) :=
  .bind (framed (validateTarget_idle project target)) fun _ =>
    .mapError (PetActor.query_framed project state query)

theorem queryAt_framed (identity : DeclarationIdentity) (query : PetQuery) :
    Stays relation (queryAt project identity query) := by
  refine .bind (resolve_framed project identity) fun resolved => ?_
  split
  · exact .throw _
  · exact .bind (framed (DuneProject.petWorkspace_idle project _)) fun _ =>
      .bind (framed (DuneProject.petSource_idle project _)) fun _ =>
      .bind (.mapError (PetActor.stateAt_framed project _ _ _)) fun _ =>
      .bind (.attempt (.mapError (PetActor.query_framed project _ query))) fun _ =>
      .bind (releaseState_framed project _ _) fun _ => .ofExcept _

theorem closeProof_framed (target : DeclarationTarget) (finalState : PetStateId) :
    Stays relation (closeProof project target finalState) :=
  .bind (framed (validateTarget_idle project target)) fun _ =>
    .bind (.mapError (PetActor.run_framed project finalState _ _)) fun _ =>
    .bind (releaseState_framed project _ _) fun _ => .ensure _ _

/-! ### Audit and publication -/

theorem auditTarget_framed (target : DeclarationTarget) :
    Stays relation (auditTarget project target) := by
  have axiomatic (canonical : String) : Stays relation (auditAxiom project canonical) := by
    refine .bind (.gets _) fun source => ?_
    split
    · exact .throw _
    · refine .bind (.ofExcept _) fun file => .bind (declarations_framed project file) fun rows => ?_
      split
      · exact .throw _
      · exact .ensure _ _
  have assumption (assumption : PetAssumption) :
      Stays relation (auditAssumption project assumption) := by
    unfold auditAssumption
    split
    · exact .throw _
    · exact axiomatic _
  exact .bind (framed (DuneProject.petWorkspace_idle project _)) fun _ =>
    .bind (framed (readOr_idle _ _)) fun _ =>
    .bind (framed (DuneProject.petSource_idle project _)) fun _ =>
    .bind (.mapError (PetActor.stateAt_framed project _ _ _)) fun _ =>
    .bind (.attempt (.bind (.mapError (PetActor.assumptions_framed project _ _)) fun _ =>
      .bind (.ensure _ _) fun _ => .each _ assumption)) fun _ =>
    .bind (.attempt (releaseState_framed project _ _)) fun _ =>
    .bind (PetActor.recordInEpoch_framed project _) fun _ =>
    .bind (.ofExcept _) fun _ => .ofExcept _

theorem resolveFinished_framed (target : DeclarationTarget) (unfinished gone : String) :
    Stays relation (resolveFinished project target unfinished gone) := by
  refine .bind (resolve_framed project _) fun resolved => .bind (.ensure _ _) fun _ => ?_
  split
  · exact .throw _
  · exact .pure _

end

end Engine

namespace Writeback

section

variable {relation : World → World → Prop} [Frames relation] (project : ProjectId)

/-- The relation lets the server write the file. -/
def Writes (relation : World → World → Prop) (path : Path) : Prop :=
  ∀ world bytes, relation world (overwrite world path bytes)

theorem prepare_framed (target : DeclarationTarget) (fragments : List String) :
    Stays relation (prepare project target fragments) :=
  .bind (.ensure _ _) fun _ => .bind (framed (DuneProject.petWorkspace_idle project _)) fun _ =>
    .bind (framed (Engine.readOr_idle _ _)) fun _ => .bind (.gets _) fun _ =>
    .bind (.ensure _ _) fun _ => .bind (.ofExcept _) fun _ =>
    .bind (.modify fun world => Frames.recordSplice world _) fun _ => .bind (.gets _) fun _ =>
    .pure _

theorem prepare_path (target : DeclarationTarget) (fragments : List String) :
    Triple (fun _ => True) (prepare project target fragments)
      (fun publication _ => publication.path = target.anchor.source) fun _ _ => True := by
  unfold prepare
  repeat refine .last fun _ => ?_
  exact .pure fun _ _ => rfl

theorem noteOnError_framed {action : Act World ε α} (mishap : Mishap)
    (stays : Stays relation action) : Stays relation (noteOnError mishap action) := by
  refine .bind (.attempt stays) fun result => ?_
  cases result with
  | ok value => exact .pure value
  | error error => exact .bind (framed (noteWhen_idle _ _)) fun _ => .throw error

theorem rollbackEpoch_framed (publication : PreparedPublication) (restored : Bool) :
    Stays relation (rollbackEpoch project publication restored) :=
  .bind (.attempt (.mapError (framed (nativeBuild_idle project _)))) fun _ =>
    .bind (.attempt (.mapError (PetActor.refreshWorkspace_framed project _))) fun _ => .ofExcept _

theorem buildAndValidate_framed (publication : PreparedPublication) {validate : EngineM α}
    (stays : Stays relation validate) :
    Stays relation (buildAndValidate project publication validate) :=
  .bind (framed (nativeBuild_idle project _)) fun _ =>
    .bind (framed (requireDigest_idle _ _)) fun _ =>
    .bind (.mapError (PetActor.refreshWorkspace_framed project _)) fun _ =>
    .bind (framed (requireDigest_idle _ _)) fun _ => .bind stays fun _ =>
    .bind (framed (requireDigest_idle _ _)) fun _ => .pure _

theorem buildAndRefresh_framed (source : Path) {validate : EngineM α}
    (stays : Stays relation validate) : Stays relation (buildAndRefresh project source validate) :=
  .bind (noteOnError_framed _ (framed (DuneProject.petWorkspace_idle project source))) fun _ =>
    .bind (.attempt (framed (nativeBuild_idle project source))) fun _ =>
    .bind (.mapError (PetActor.refreshWorkspace_framed project _)) fun _ =>
    .bind (.ofExcept _) fun _ => stays

/-! ### Operations that write -/

theorem atomicWrite_framed {path : Path} (writes : Writes relation path) (bytes : Bytes) :
    Stays relation (atomicWrite path bytes) :=
  .bind (framed tick_idle) fun _ => .bind (.gets _) fun _ => .ite (fun _ => .throw _) fun _ =>
    .bind (framed (noteWhen_idle _ _)) fun _ =>
    .bind (.modify fun world => writes world bytes) fun _ => .ensure _ _

theorem restoreEpoch_framed (mark : Nat) {publication : PreparedPublication}
    (writes : Writes relation publication.path) :
    Stays relation (restoreEpoch project mark publication) := by
  refine .bind (framed (owns_idle _ _)) fun owned => .ite (fun _ => ?_) fun _ =>
    rollbackEpoch_framed project publication false
  exact .bind (.bind (.gets _) fun _ => .bind (framed (noteWhen_idle _ _)) fun _ =>
    noteOnError_framed _ (atomicWrite_framed writes _)) fun _ =>
      rollbackEpoch_framed project publication true

theorem publish_framed {publication : PreparedPublication} {validate : EngineM α}
    (writes : Writes relation publication.path) (stays : Stays relation validate) :
    Stays relation (publish project publication validate) := by
  refine .bind (.gets _) fun mark => .bind (.gets _) fun _ => .bind (framed (owns_idle _ _))
    fun owned => .ite (fun _ => ?_) fun _ => ?_
  · exact .bind (restoreEpoch_framed project mark writes) fun _ => .throw _
  · refine .bind (.attempt (atomicWrite_framed writes _)) fun written => ?_
    cases written with
    | error error =>
      exact .bind (restoreEpoch_framed project mark writes) fun _ => .throw error
    | ok _ =>
      refine .bind (.attempt (buildAndValidate_framed project publication stays)) fun result => ?_
      cases result with
      | ok value => exact .pure value
      | error error =>
        exact .bind (restoreEpoch_framed project mark writes) fun restored =>
          .ite (fun _ => .throw _) fun _ => .throw _

end

end Writeback

namespace Engine

section

variable {relation : World → World → Prop} [Frames relation] (project : ProjectId)

theorem validateWritten_framed (target : DeclarationTarget) :
    Stays relation (validateWritten project target) :=
  .bind (resolveFinished_framed project target _ _) fun _ => .bind (.ensure _ _) fun _ =>
    .bind (auditTarget_framed project _) fun _ => .pure _

theorem validatePublished_framed (target : DeclarationTarget) :
    Stays relation (validatePublished project target) :=
  .bind (Writeback.noteOnError_framed _ (framed (validateTarget_idle project target))) fun _ =>
    Writeback.buildAndRefresh_framed project _ <|
      .bind (framed (validateTarget_idle project target)) fun _ =>
      .bind (resolveFinished_framed project target _ _) fun _ =>
      .bind (auditTarget_framed project _) fun _ => .pure _

/-- A publication writes the source of its target, and does to the sessions what
its caller does to begin the epoch. -/
theorem publish_framed (target : DeclarationTarget) (fragments : List String)
    {beginEpoch : EngineM Unit} (writes : Writeback.Writes relation target.anchor.source)
    (begins : Stays relation beginEpoch) :
    Stays relation (publish project target fragments beginEpoch) :=
  .bind (framed (validateTarget_idle project target)) fun _ =>
    .through (Writeback.prepare_framed project target fragments)
      (Writeback.prepare_path project target fragments) fun _ path => .bind begins fun _ =>
    Writeback.publish_framed project (path ▸ writes) (validateWritten_framed project target)

end

end Engine

end RocqMcp
