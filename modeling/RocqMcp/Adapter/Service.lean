import RocqMcp.Adapter.Replay

/-! The tools, one after the other: each keeps the account of the project's PET
states, and changes nothing that a client can observe until it commits. -/

namespace RocqMcp

open Library

namespace Adapter

section

variable {args : Value} {field message : String}

theorem invalid_mild : MildResult (invalid message : Except Error α) := .error (.of_kind rfl)

theorem require_mild (value : Option α) : MildResult (require message value) := by
  cases value with
  | none => exact invalid_mild
  | some value => exact .ok value

theorem requiredString_mild : MildResult (requiredString args field) := require_mild _

theorem rejectUnknown_mild {allowed : List String} : MildResult (rejectUnknown args allowed) := by
  unfold rejectUnknown
  split
  · split
    · exact invalid_mild
    · exact .ok ()
  · exact invalid_mild

theorem optional_mild {read : Value → Except Error α} (mild : ∀ value, MildResult (read value)) :
    MildResult (optional args field read) := by
  unfold optional
  split
  · exact .ok none
  · rename_i value _
    intro error failed
    cases ran : read value with
    | ok result =>
      rw [ran] at failed
      cases failed
    | error error' =>
      rw [ran] at failed
      cases failed
      exact mild value error ran

theorem declarationId_mild (value : Value) : MildResult (declarationId value field) := by
  unfold declarationId
  split
  · refine .ite invalid_mild (.bind (require_mild _) fun _ => .bind (require_mild _) fun parts => ?_)
    exact .bind (.mapM (fun _ => require_mild _) parts) fun _ => .ok _
  · exact invalid_mild

theorem requiredTarget_mild : MildResult (requiredTarget args) :=
  .bind (require_mild _) fun value => declarationId_mild value

theorem validateFragments_mild (fragments : List String) :
    MildResult (validateFragments fragments) := by
  refine .ite invalid_mild ?_
  induction fragments with
  | nil => exact .ok _
  | cons fragment rest ih =>
    exact MildResult.bind (Engine.validateFragment_mild fragment) fun _ => ih

theorem attempts_mild : MildResult (attempts args) :=
  .bind (require_mild _) fun values => .bind (.mapM (fun _ => require_mild _) values) fun _ =>
    .bind (validateFragments_mild _) fun _ => .ok _

theorem optionalBool_mild : MildResult (optionalBool args field) := by
  unfold optionalBool
  split
  · exact .ok _
  · exact .ok _
  · exact invalid_mild

theorem goalScope_mild : MildResult (goalScope args) := by
  unfold goalScope
  split
  · exact .ok _
  · exact .ite (.ok _) (.ite (.ok _) (.ite (.ok _) (.ite (.ok _) (.ite (.ok _) invalid_mild))))
  · exact invalid_mild

theorem queryOffset_mild : MildResult (queryOffset args) := by
  unfold queryOffset
  split
  · exact .ok _
  · exact require_mild _

theorem declarationKind_mild (value : Option String) : MildResult (declarationKind value) :=
  .ite (.ok _) (.ite (.ok _) (.ite (.ok _) (.error (.of_kind rfl))))

theorem attemptArguments_mild : MildResult (attemptArguments args) :=
  .bind rejectUnknown_mild fun _ => .bind attempts_mild fun _ =>
    .bind (optional_mild fun _ => require_mild _) fun _ => .bind optionalBool_mild fun _ =>
      .bind optionalBool_mild fun _ => .ok _

theorem goalsArguments_mild : MildResult (goalsArguments args) :=
  .bind rejectUnknown_mild fun _ => .bind queryOffset_mild fun _ => .bind optionalBool_mild fun _ =>
    .bind optionalBool_mild fun _ => .bind (optional_mild fun _ => require_mild _) fun _ =>
      .ite (.ite invalid_mild (.ok _)) (.bind goalScope_mild fun _ => .ok _)

theorem symbolLimit_mild : MildResult (symbolLimit args) :=
  .bind (optional_mild fun _ => require_mild _) fun _ => .ok _

theorem textResult_mild (text : String) (offset : Nat) : MildResult (textResult text offset) :=
  .ite invalid_mild (.ite (.ok _) (.ok _))

theorem checkpointError_mild (error : CheckpointError) : (checkpointError error).Mild := by
  cases error <;> exact .of_kind rfl

end

end Adapter

section

variable {project : ProjectId} {session : SessionId} {start : World} {temps : List PetStateId}

/-- A pure check whose errors end no states. -/
theorem Clean.check {result : Except Error α} (mild : MildResult result) :
    Triple (Clean project session start temps) (Act.ofExcept result)
      (fun _ => Clean project session start temps) (Failing project session start temps) :=
  Clean.of_idle (.ofExcept _) (.ofExcept mild)

theorem Clean.ensure {condition : Bool} {error : Error} (mild : error.Mild) :
    Triple (Clean project session start temps) (Act.ensure condition error)
      (fun _ => Clean project session start temps) (Failing project session start temps) :=
  Clean.of_idle (.ensure _ _) (.ensure mild)

theorem Clean.reads {read : World → α} {failed : ε → World → Prop} :
    Triple (Clean project session start temps) (.gets read)
      (fun _ => Clean project session start temps) failed :=
  fun _ clean => clean

theorem Clean.fails {error : Error} {world : World} (clean : Clean project session start temps world)
    (mild : error.Mild) : Failing project session start temps error world :=
  ⟨clean.toUnseen, .inl ⟨clean.toServing, mild⟩⟩

theorem Clean.rejects {error : Error} {after : α → World → Prop} (mild : error.Mild) :
    Triple (Clean project session start temps) (.throw error) after
      (Failing project session start temps) :=
  .throw fun _ clean => clean.fails mild

namespace Adapter

theorem activeProof_clean :
    Triple (Clean project session start temps) (activeProof session)
      (fun _ => Clean project session start temps) (Failing project session start temps) :=
  .bind Clean.reads fun _ => Clean.check (require_mild _)

theorem validateTarget_clean (target : DeclarationTarget) :
    Triple (Clean project session start temps) (Engine.validateTarget project target)
      (fun _ => Clean project session start temps) (Failing project session start temps) :=
  Clean.of_idle (Engine.validateTarget_idle project target)
    (Engine.validateTarget_throws project target)

theorem ensuredState_clean :
    Triple (Clean project session start []) (ensureCurrentState project session)
      (fun _ => Clean project session start []) (Failing project session start []) :=
  ensureCurrentState_clean.weaken (fun _ clean => clean) (fun _ _ holds => holds.1)
    fun _ _ fails => fails

theorem listFiles_clean (args : Value) :
    Triple (Clean project session start []) (listFiles project args)
      (fun _ => Clean project session start []) (Failing project session start []) :=
  .bind (Clean.check rejectUnknown_mild) fun _ =>
    .bind (Clean.of_idle (Engine.listFiles_idle project) (Engine.listFiles_throws project))
      fun _ => .pure fun _ clean => clean

theorem listDecls_clean (args : Value) :
    Triple (Clean project session start []) (listDecls project session args)
      (fun _ => Clean project session start []) (Failing project session start []) :=
  .bind (Clean.check rejectUnknown_mild) fun _ => .bind (Clean.check requiredString_mild) fun _ =>
    .bind (reconcileArtifact_clean _) fun _ =>
      .bind (Clean.step fun _ _ => Engine.listDecls_holding _) fun _ => .pure fun _ clean => clean

theorem locateSymbol_clean (args : Value) :
    Triple (Clean project session start []) (locateSymbol project session args)
      (fun _ => Clean project session start []) (Failing project session start []) := by
  refine .bind (Clean.check rejectUnknown_mild) fun _ => .bind (Clean.check requiredString_mild)
    fun text => .bind (Clean.ensure (.of_kind rfl)) fun _ => .bind (Clean.check symbolLimit_mild)
      fun limit => ?_
  refine .bind (Clean.of_idle (Engine.locateSymbolCandidates_idle project _)
    (Engine.locateSymbolCandidates_throws project _)) fun files => ?_
  refine .bind (reconcileArtifacts_clean files) fun _ => ?_
  exact .bind (Clean.step fun _ _ => Engine.resolveSymbolCandidates_holding _ _ files) fun _ =>
    .pure fun _ clean => clean

theorem queryGoals_clean (args : Value) :
    Triple (Clean project session start []) (queryGoals project session args)
      (fun _ => Clean project session start []) (Failing project session start []) := by
  refine .bind (Clean.check goalsArguments_mild) fun arguments => .bind activeProof_clean fun proof =>
    .bind (validateTarget_clean _) fun _ => .bind (reconcileArtifact_clean _) fun _ =>
      .bind ensuredState_clean fun current => .bind activeProof_clean fun proof => ?_
  refine .bind (Clean.step fun _ _ => Engine.goals_holding proof.target current.2 _ _) fun view => ?_
  exact .bind (Clean.check (textResult_mild _ _)) fun _ => .bind Clean.reads fun _ =>
    .pure fun _ clean => clean

theorem querySelected_clean (query : PetQuery) (offset : Nat) :
    Triple (Clean project session start []) (querySelected project session query offset)
      (fun _ => Clean project session start []) (Failing project session start []) := by
  refine .bind ensureCurrentState_clean fun current => ?_
  refine .through (fun _ world => Clean project session start [] world ∧
    CurrentState session current world) ?_ fun proof => ?_
  · exact .forget (Clean.idle_keeping _ CurrentState.meanwhile
      (.bind (.gets _) fun _ => .ofExcept _) (.bind (.gets _) fun _ => .ofExcept (require_mild _)))
  refine .bind (.forget (Clean.keeping _ (fun _ => []) CurrentState.meanwhile
    fun middle selected own => Engine.queryState_holding
      (List.mem_append_right _ (selected.mem_held own)) proof.target query)) fun text => ?_
  exact .bind ((Clean.check (textResult_mild _ _)).weaken (fun _ holds => holds.1)
    (fun _ _ clean => clean) fun _ _ fails => fails) fun _ => .pure fun _ clean => clean

theorem queryContext_clean (identity : DeclarationIdentity) (query : PetQuery) (offset : Nat) :
    Triple (Clean project session start []) (queryContext project identity query offset)
      (fun _ => Clean project session start []) (Failing project session start []) :=
  .bind (Clean.step fun _ _ => Engine.queryAt_holding identity query) fun _ =>
    .bind (Clean.check (textResult_mild _ _)) fun _ => .pure fun _ clean => clean

theorem queryDeclaration_clean (args : Value) (query : String → PetQuery) :
    Triple (Clean project session start []) (queryDeclaration project session args query)
      (fun _ => Clean project session start []) (Failing project session start []) := by
  refine .bind (Clean.check rejectUnknown_mild) fun _ => .bind (Clean.check queryOffset_mild)
    fun offset => .bind (Clean.check requiredTarget_mild) fun identity =>
      .bind (reconcileArtifact_clean _) fun _ => .bind Clean.reads fun book => ?_
  exact .ite (fun _ => querySelected_clean _ _) fun _ => queryContext_clean _ _ _

theorem queryText_clean (args : Value) (field : String) (query : String → PetQuery) :
    Triple (Clean project session start []) (queryText project session args field query)
      (fun _ => Clean project session start []) (Failing project session start []) := by
  refine .bind (Clean.check rejectUnknown_mild) fun _ => .bind (Clean.check queryOffset_mild)
    fun offset => .bind (Clean.check requiredString_mild) fun text => ?_
  split
  · exact .bind (Clean.check (declarationId_mild _)) fun identity =>
      .bind (reconcileArtifact_clean _) fun _ => queryContext_clean _ _ _
  · refine .bind Clean.reads fun book => ?_
    split
    · exact .bind (reconcileArtifact_clean _) fun _ => querySelected_clean _ _
    · exact Clean.rejects (.of_kind rfl)

theorem query_clean (args : Value) :
    Triple (Clean project session start []) (query project session args)
      (fun _ => Clean project session start []) (Failing project session start []) := by
  refine .bind (Clean.check (require_mild _)) fun kind => ?_
  refine .ite (fun _ => locateSymbol_clean args) fun _ => .ite (fun _ => queryGoals_clean args)
    fun _ => ?_
  refine .ite (fun _ => queryDeclaration_clean args _) fun _ =>
    .ite (fun _ => queryDeclaration_clean args _) fun _ =>
      .ite (fun _ => queryDeclaration_clean args _) fun _ =>
        .ite (fun _ => queryDeclaration_clean args _) fun _ => ?_
  exact .ite (fun _ => queryText_clean args _ _) fun _ => .ite (fun _ => queryText_clean args _ _)
    fun _ => .ite (fun _ => queryText_clean args _ _) fun _ => Clean.rejects (.of_kind rfl)

/-- What the prologue has read of the selected proof. -/
def CheckContext.Of (context : CheckContext) (session : SessionId) (world : World) : Prop :=
  ∃ proof, (world.selections session).checkpoints.proof = some proof ∧
    proof.target = context.target ∧ proof.current = context.baseId

theorem CheckContext.Of.congr {context : CheckContext} {world after : World}
    (of : context.Of session world)
    (same : (after.selections session).checkpoints.topology =
      (world.selections session).checkpoints.topology) : context.Of session after := by
  obtain ⟨proof, active, target, current⟩ := of
  rw [CheckpointBook.topology, CheckpointBook.topology, active] at same
  obtain ⟨proof', active', alike⟩ := Option.map_eq_some_iff.mp same
  obtain ⟨sameTarget, sameRest⟩ := Prod.mk.inj alike
  exact ⟨proof', active', sameTarget.trans target, (Prod.mk.inj sameRest).1.trans current⟩

theorem activeProof_current {current : CheckpointId × PetStateId} :
    Triple (fun world => Clean project session start [] world ∧ CurrentState session current world)
      (activeProof session)
      (fun proof world => (Clean project session start [] world ∧
        CurrentState session current world) ∧
          (world.selections session).checkpoints.proof = some proof)
      (Failing project session start []) := by
  refine .bind (.gets _) fun book => ?_
  rintro world ⟨⟨clean, selected⟩, rfl⟩
  obtain ⟨proof, active, _⟩ := id selected
  rw [active]
  exact ⟨⟨clean, selected⟩, active⟩

theorem enterProof_clean (arguments : AttemptArguments) :
    Triple (Clean project session start []) (enterProof project session arguments)
      (fun context world => Clean project session start [] world ∧
        context.Of session start ∧ context.arguments = arguments)
      (Failing project session start []) := by
  refine .bind activeProof_clean fun proof => .bind (validateTarget_clean _) fun _ =>
    .bind (reconcileArtifact_clean _) fun _ => .bind ensureCurrentState_clean fun current =>
      .bind activeProof_current fun proof => ?_
  let selected : World → Prop := fun world =>
    (world.selections session).checkpoints.proof = some proof ∧ proof.current = current.1
  have goals : Triple (fun world => Clean project session start [] world ∧ selected world)
      (Engine.goals project proof.target current.2 .all none)
      (fun _ world => Clean project session start [] world ∧ selected world)
      (Failing project session start []) :=
    .forget (Clean.keeping selected (fun _ => [])
      (fun _ _ meanwhile holds => by simpa only [selected, meanwhile.selections] using holds)
      fun _ _ _ => Engine.goals_holding proof.target current.2 .all none)
  refine .bind (goals.weaken ?_ (fun _ _ holds => holds) fun _ _ fails => fails) fun baseView =>
    .pure ?_
  · rintro world ⟨⟨clean, other, active', isCurrent, _⟩, active⟩
    obtain rfl := Option.some.inj (active.symm.trans active')
    exact ⟨clean, active, isCurrent⟩
  · rintro world ⟨clean, active, isCurrent⟩
    have of : CheckContext.Of { arguments, target := proof.target, baseId := current.1, baseView }
        session world := ⟨proof, active, rfl, isCurrent⟩
    exact ⟨clean, of.congr (clean.untouched.topology session).symm, rfl⟩

/-- The state that a traced step leaves. -/
def stepStates : TracedProofStep → List PetStateId
  | .success step => [step.state]
  | .failure _ => []

/-- What an evaluated alternative leaves: a rejected one leaves nothing, and an
accepted one a state that was run from the selected one. -/
def Evaluated (project : ProjectId) (session : SessionId) (start : World) (fragment : String) :
    Except Error TracedProofStep → World → Prop
  | .ok (.success step), world => Clean project session start [step.state] world ∧
    step.view.lifecycle = .open' ∧ ∃ current, CurrentState session current world ∧
      world.Ran current.2 fragment step.state step.finished
  | _, world => Clean project session start [] world

theorem runTraced_clean (context : CheckContext) (fragment : String)
    (current : CheckpointId × PetStateId) :
    Triple (fun world => Clean project session start [] world ∧ CurrentState session current world)
      (Engine.runTraced project context.target current.2 fragment context.arguments.trace
        context.arguments.timeoutMs)
      (fun outcome => Evaluated project session start fragment (.ok outcome))
      (Failing project session start []) := by
  refine .forget (((Clean.engine _ stepStates (fun outcome _ =>
    ∀ step, outcome = .success step → step.view.lifecycle = .open') CurrentState.meanwhile
    fun middle selected own => (Engine.runTraced_holding
      (List.mem_append_right _ (selected.mem_held own)) context.target fragment _ _).weaken
        (fun _ holds => holds) ?_ fun _ _ fails => fails).both
          (Engine.runTraced_ran context.target current.2 fragment _ _)).weaken
            (fun _ holds => ⟨holds, holds⟩) ?_ fun _ _ fails => fails.1)
  · intro outcome world ended
    cases outcome with
    | success step =>
      refine ⟨ended.1, ?_⟩
      rintro _ ⟨⟩
      exact ended.2
    | failure failure => exact ⟨ended, nofun⟩
  · rintro outcome world ⟨⟨clean, viewed, selected⟩, ran⟩
    cases outcome with
    | success step => exact ⟨clean, viewed step rfl, current, selected, ran step rfl⟩
    | failure failure => exact clean

/-- A deadline ends the PET epoch, and nobody keeps a state of it. -/
theorem timedOut_clean (error : Error) (expired : error.kind = .proofStepTimeout)
    {failed : Error → World → Prop} :
    Triple (Failing project session start [] error) (invalidateProjectStates project session)
      (fun _ => Clean project session start []) failed := by
  refine invalidate_clean.weaken ?_ (fun _ _ clean => clean) fun _ _ holds => holds
  rintro world ⟨unseen, ⟨_, mild⟩ | ⟨adrift, cancelled | ⟨_, absent⟩⟩⟩
  · have ends : error.kind.invalidatesPetEpoch = true := by rw [expired]; rfl
    have cancelled := mild ends
    rw [expired] at cancelled
    cases cancelled
  · rw [expired] at cancelled
    cases cancelled
  · exact ⟨adrift, absent, unseen⟩

theorem evaluate_clean (context : CheckContext) (fragment : String) :
    Triple (Clean project session start []) (evaluate project session context fragment)
      (Evaluated project session start fragment) (Failing project session start []) := by
  refine .bind ensureCurrentState_clean fun current => ?_
  refine .bind (.attempt (runTraced_clean context fragment current)) fun result => ?_
  cases result with
  | ok outcome => exact .pure fun _ holds => holds
  | error error =>
    refine .ite (fun expired => ?_) fun _ => .throw fun _ fails => fails
    exact .bind (timedOut_clean error expired) fun _ => .pure fun _ clean => clean

theorem rejectCancelled_failing :
    Triple (Clean project session start temps) rejectCancelled
      (fun _ => Clean project session start temps) (Failing project session start []) := by
  have cancelled : Throws (fun error => error.kind = .requestCancelled) rejectCancelled :=
    .bind requestCancelled_throws fun _ => .ensure rfl
  refine (cancelled.triple (Clean.of_idle rejectCancelled_idle rejectCancelled_throws)).weaken
    (fun _ clean => clean) (fun _ _ clean => clean) ?_
  rintro error world ⟨⟨unseen, stranded⟩, kind⟩
  refine ⟨unseen, .inr ⟨?_, .inl kind⟩⟩
  exact stranded.elim (fun kept => kept.1.toAdrift) And.left

theorem tryFragment_clean (context : CheckContext) (fragment : String) :
    Triple (Clean project session start []) (tryFragment project session context fragment)
      (fun _ => Clean project session start []) (Failing project session start []) := by
  refine .bind (evaluate_clean context fragment) fun result => ?_
  match result with
  | .ok (.success step) =>
    refine .bind (rejectCancelled_failing.weaken (fun _ holds => holds.1) (fun _ _ clean => clean)
      fun _ _ fails => fails) fun _ => ?_
    exact .bind (release_clean [step.state]) fun _ => .pure fun _ clean => clean
  | .ok (.failure failure) => exact .pure fun _ clean => clean
  | .error error => exact .pure fun _ clean => clean

theorem tryEach_clean (context : CheckContext) (fragments : List String) :
    Triple (Clean project session start []) (tryEach project session context fragments)
      (fun _ => Clean project session start []) (Failing project session start []) := by
  induction fragments with
  | nil => exact .pure fun _ clean => clean
  | cons fragment rest ih =>
    exact .bind (tryFragment_clean context fragment) fun _ => .bind ih fun _ =>
      .pure fun _ clean => clean

theorem tryFragments_clean (args : Value) :
    Triple (Clean project session start []) (tryFragments project session args)
      (fun _ => Clean project session start []) (Failing project session start []) :=
  .bind (Clean.check attemptArguments_mild) fun arguments => .bind (enterProof_clean arguments)
    fun context => .bind (.assume fun _ => tryEach_clean context _) fun _ =>
      .pure fun _ clean => clean

end Adapter

end

end RocqMcp
