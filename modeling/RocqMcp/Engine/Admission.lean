import RocqMcp.Engine.Ownership
import RocqMcp.Engine.Publication

/-! The audit and the two validations, which run while no session holds a state
of the project: whatever happens, no state is left behind. -/

namespace RocqMcp

open Library

section

variable {project : ProjectId} {start : World} {live : Bool} {states : List PetStateId}

/-- Where nothing is held, a lost process is no loss. -/
theorem Fails.settled {mild ends : Prop} {world : World}
    (fails : Fails project start [] mild ends world) : Holding project start false [] world := by
  rcases fails with ⟨holding, _⟩ | ⟨gone, _⟩
  · exact holding
  · exact gone.holding

theorem Fails.settles {action : Act World ε α} {before : World → Prop} {after : α → World → Prop}
    {mild ends : ε → Prop}
    (triple : Triple before action after fun error =>
      Fails project start [] (mild error) (ends error)) :
    Triple before action after fun _ => Holding project start false [] :=
  triple.weaken (fun _ holds => holds) (fun _ _ holds => holds) fun _ _ fails => fails.settled

namespace Engine

theorem auditAxiom_holding (canonical : String) :
    Triple (Holding project start live states) (auditAxiom project canonical)
      (fun _ => Holding project start live states) (EngineFails project start states) := by
  refine .bind ((Triple.gets _).weaken (fun _ holds => holds) (fun _ _ holds => holds.1)
    fun _ _ fails => fails) fun found => ?_
  cases found with
  | none => exact .throw fun _ holding => holding.fails (.of_kind rfl)
  | some source =>
    refine .bind (Holding.of_idle (.ofExcept _) (.ofExcept (fileIdOf_mild project source)))
      fun file => ?_
    refine .bind (listRows_holding file) fun rows => ?_
    split
    · exact .throw fun _ holding => holding.fails (.of_kind rfl)
    · exact Holding.of_idle (.ensure _ _) (.ensure (.of_kind rfl))

theorem auditAssumption_holding (assumption : PetAssumption) :
    Triple (Holding project start live states) (auditAssumption project assumption)
      (fun _ => Holding project start live states) (EngineFails project start states) := by
  unfold auditAssumption
  split
  · exact .throw fun _ holding => holding.fails (.of_kind rfl)
  · exact auditAxiom_holding _

theorem auditReport_holding (report : PetAssumptionReport) :
    Triple (Holding project start live states) (auditReport project report)
      (fun _ => Holding project start live states) (EngineFails project start states) := by
  refine .bind (Holding.of_idle (.ensure _ _) (.ensure (.of_kind rfl))) fun _ => ?_
  exact .each _ fun assumption _ => auditAssumption_holding assumption

theorem auditState_holding (target : DeclarationTarget) (state : PetStateId) :
    Triple (Holding project start live states) (auditState project target state)
      (fun _ => Holding project start live states) (EngineFails project start states) := by
  refine .bind (Holding.projected queryPetError_telling
    (PetActor.assumptions_holding state _)) fun report => ?_
  exact auditReport_holding report

/-- The end of an audit: its event, and the first of the two errors. -/
theorem recordAudit_holding (identity : DeclarationIdentity) (result released : Except Error Unit) :
    Triple (fun world => Holding project start false [] world ∧
        (result.isOk = true → released.isOk = true → Holding project start live [] world))
      (do PetActor.recordInEpoch project (.audited identity (result.isOk && released.isOk))
          Act.ofExcept result
          Act.ofExcept released)
      (fun _ world => Holding project start live [] world ∧
        Logged project start live (.audited identity true) world)
      (fun _ => Holding project start false []) := by
  cases result with
  | error error =>
    exact .bind ((recordInEpoch_logged (.audited identity _) nofun).weaken (fun _ holds => holds.1)
      (fun _ _ holds => holds.1) fun _ _ holds => holds) fun _ => fun _ holds => holds
  | ok audited =>
    cases released with
    | error error =>
      exact .bind ((recordInEpoch_logged (.audited identity _) nofun).weaken (fun _ holds => holds.1)
        (fun _ _ holds => holds.1) fun _ _ holds => holds) fun _ => fun _ holds => holds
    | ok released =>
      exact .bind ((recordInEpoch_logged (.audited identity _) nofun).weaken (fun _ holds => holds.2 rfl rfl)
        (fun _ _ holds => holds) fun _ _ holds => holds) fun _ => fun _ holds => holds

/-- After an audit nothing is left, and its event is recorded. -/
theorem auditTarget_holding (target : DeclarationTarget) :
    Triple (Holding project start live []) (auditTarget project target)
      (fun _ world => Holding project start live [] world ∧
        Logged project start live (.audited target.info.identity true) world)
      (fun _ => Holding project start false []) := by
  refine .bind (Fails.settles (petWorkspace_holding _)) fun workspace => .assume fun current => ?_
  refine .bind (Fails.settles (Holding.of_idle (readOr_idle _ _) (readOr_throws _ _)
    : Triple _ _ _ (EngineFails project start []))) fun bytes => ?_
  refine .bind (Fails.settles (Holding.of_idle (DuneProject.petSource_idle project _)
    (DuneProject.petSource_throws project _) : Triple _ _ _ (EngineFails project start [])))
      fun petSource => ?_
  refine .bind (Fails.settles (Holding.projected queryPetError_telling
    (PetActor.stateAt_holding current petSource _))) fun context => ?_
  refine .bind (.attempt (auditState_holding target context.state)) fun result => ?_
  refine .through (fun released world => Holding project start false [] world ∧
      (result.isOk = true → released.isOk = true → Holding project start live [] world))
    ?_ fun released => recordAudit_holding target.info.identity result released
  cases result with
  | ok audited =>
    refine (Triple.attempt (releaseState_holding queryPetError_telling context.state)).weaken
      (fun _ holds => holds) ?_ fun _ _ holds => holds
    intro released world ended
    cases released with
    | ok released => exact ⟨ended.calmed, fun _ _ => ended⟩
    | error error => exact ⟨Fails.settled ended, nofun⟩
  | error error =>
    refine (Triple.attempt (releaseState_fails queryPetError_telling context.state)).weaken
      (fun _ holds => holds) ?_ fun _ _ holds => holds
    intro released world ended
    cases released with
    | ok released => exact ⟨Fails.settled ended, nofun⟩
    | error error => exact ⟨Fails.settled ended, nofun⟩

/-- The target resolves to a finished declaration, in the epoch of the start. -/
theorem resolveFinished_holding (target : DeclarationTarget) (unfinished gone : String) :
    Triple (Holding project start live []) (resolveFinished project target unfinished gone)
      (fun current world => Holding project start live [] world ∧
        Logged project start live (.resolved target.info.identity true) world ∧
        current.info.identity = target.info.identity)
      (fun _ => Holding project start false []) := by
  refine .bind (Fails.settles (resolve_holding target.info.identity)) fun resolved => ?_
  refine .through (fun _ world => Holding project start live [] world ∧
    (∀ current ∈ resolved.target, current.info.identity = target.info.identity) ∧
    Logged project start live (.resolved target.info.identity true) world) ?_ fun _ => ?_
  · refine .ensure ?_ fun _ _ holds => holds.1.calmed
    rintro finished world ⟨holding, named, logged⟩
    exact ⟨holding, fun current isTarget => (named current isTarget).1, finished ▸ logged⟩
  · split
    · exact .throw fun _ holds => holds.1.calmed
    · rename_i current isTarget
      exact .pure fun _ ⟨holding, named, logged⟩ => ⟨holding, logged, named current isTarget⟩

/-- What a successful validation has recorded since its start: the target was
resolved as finished, and then audited, in one epoch. -/
def Validated (project : ProjectId) (start : World) (live : Bool)
    (identity : DeclarationIdentity) (world : World) : Prop :=
  live = true → ∀ process ∈ start.process project, ∃ late early,
    world.ghost.chain = .audited identity true process.epoch :: (late ++
      .resolved identity true process.epoch :: (early ++ start.ghost.chain))

/-- The audit of a resolved target ends its validation. -/
theorem auditResolved_holding (target : DeclarationTarget) :
    Triple (fun world => Holding project start live [] world ∧
        Logged project start live (.resolved target.info.identity true) world)
      (do auditTarget project target; return completedState target.info)
      (fun state world => Holding project start live [] world ∧
        Validated project start live target.info.identity world ∧ state.lifecycle = .completed)
      (fun _ => Holding project start false []) := by
  refine .each_state fun before ⟨holding, resolved⟩ => ?_
  refine .bind ((auditTarget_holding target).weaken holding.rebase (fun _ _ holds => holds)
    fun _ _ later => holding.calmed.since later) fun _ => .pure ?_
  rintro world ⟨later, audited⟩
  refine ⟨holding.since later, ?_, rfl⟩
  intro isLive process installed
  obtain ⟨middle, running, same⟩ := holding.alive isLive process installed
  obtain ⟨late, grown⟩ := audited isLive middle running
  obtain ⟨early, grown'⟩ := resolved isLive process installed
  exact ⟨late, early, by rw [grown, grown', same]⟩

theorem validateWritten_holding (target : DeclarationTarget) :
    Triple (Holding project start live []) (validateWritten project target)
      (fun state world => Holding project start live [] world ∧
        Validated project start live target.info.identity world ∧ state.lifecycle = .completed)
      (fun _ => Holding project start false []) := by
  refine .bind (resolveFinished_holding target _ _) fun current => ?_
  refine .through (fun _ world => (Holding project start live [] world ∧
    Logged project start live (.resolved current.info.identity true) world) ∧
    current.info.identity = target.info.identity) ?_ fun _ => ?_
  · refine .ensure ?_ fun _ _ holds => holds.1.calmed
    rintro _ world ⟨holding, logged, named⟩
    exact ⟨⟨holding, named ▸ logged⟩, named⟩
  · exact .assume fun named => named ▸ auditResolved_holding current

theorem validateBuilt_holding (target : DeclarationTarget) :
    Triple (Holding project start live []) (validateBuilt project target)
      (fun state world => Holding project start live [] world ∧
        Validated project start live target.info.identity world ∧ state.lifecycle = .completed)
      (fun _ => Holding project start false []) := by
  refine .bind (Fails.settles (Holding.of_idle (validateTarget_idle project target)
    (validateTarget_throws project target) : Triple _ _ _ (EngineFails project start [])))
      fun _ => ?_
  refine .bind (resolveFinished_holding target _ _) fun current => ?_
  have audited : Triple (fun world => Holding project start live [] world ∧
      Logged project start live (.resolved current.info.identity true) world) _ _ _ :=
    auditResolved_holding current
  intro world ⟨holding, logged, named⟩
  rw [← named] at logged ⊢
  exact audited world ⟨holding, logged⟩

end Engine

end

end RocqMcp
