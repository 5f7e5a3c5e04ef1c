import RocqMcp.Pet.Accounts

/-! What each method of `PetActor` says of a lost process. The clean-up release
after refused goals is the only call whose error no caller sees. -/

namespace RocqMcp

open Library

namespace PetActor

variable {project : ProjectId} {α : Type}

/-- A release of some states, by its outcome. -/
def Released (project : ProjectId) (states : List PetStateId) : Account Unit :=
  fun live issued result live' => Sincere live result live' ∧
    ((live = false ∧ issued = [] ∧ live' = false) ∨
      (live = true ∧ ∃ outcome,
        issued = [{ project, call := .releaseStates states, outcome }] ∧
          live' = keepsAfterRelease states.length outcome))

/-- What a release makes of the reply to its request. -/
def Settled (count : Nat) : Except PetError (PetReply PetStateId) → Account Unit
  | .error error => fun live issued result live' =>
    issued = [] ∧ result = .error error ∧ live' = live
  | .ok reply => fun live issued result live' => issued = [] ∧
    if reply.accountsFor count then result = .ok () ∧ live' = live
    else (∃ message, result = .error (.protocol message)) ∧ live' = false

theorem Called.released {states : List PetStateId} {inner : Except PetError (PetReply PetStateId)}
    {live middle live' : Bool} {issued issued' : List PetTurn} {result : Except PetError Unit}
    (called : Called project (.releaseStates states) live issued inner middle)
    (settled : Settled states.length inner middle issued' result live') :
    Released project states live (issued' ++ issued) result live' := by
  have sincere := called.sincere
  cases inner with
  | error error =>
    obtain ⟨rfl, rfl, rfl⟩ := settled
    refine ⟨sincere.retype, ?_⟩
    rcases called with ⟨rfl, rfl, rfl, _⟩ | ⟨rfl, rfl, rfl⟩
    · exact .inl ⟨rfl, rfl, rfl⟩
    · exact .inr ⟨rfl, _, rfl, rfl⟩
  | ok reply =>
    obtain ⟨rfl, ended⟩ := settled
    rcases called with ⟨_, _, _, _, impossible⟩ | ⟨rfl, rfl, rfl⟩
    · cases impossible
    · cases all : reply.accountsFor states.length with
      | true =>
        obtain ⟨rfl, rfl⟩ : result = .ok () ∧ live' = true := by simpa [all, keepsProcess] using ended
        exact ⟨.ok fun _ => rfl, .inr ⟨rfl, _, rfl, by simp [keepsAfterRelease, all]⟩⟩
      | false =>
        obtain ⟨⟨message, rfl⟩, rfl⟩ :
            (∃ message, result = .error (.protocol message)) ∧ live' = false := by
          simpa [all] using ended
        exact ⟨.violated message, .inr ⟨rfl, _, rfl, by simp [keepsAfterRelease, all]⟩⟩

theorem releaseStates_reports (states : List PetStateId) (some : states ≠ []) :
    Reports project (releaseStates project states) (Released project states) := by
  have nonempty : states.isEmpty = false := by simpa using some
  unfold releaseStates
  rw [if_neg (by simp [nonempty])]
  have called : Reports project (callLive project (.releaseStates states) none) _ :=
    callLive_reports _ _
  refine called.attempt.bind (Settled states.length) (fun inner => ?_) fun _ _ _ _ _ _ _ called settled =>
    called.released settled
  have unsettled (message : String) {reply : PetReply PetStateId}
      (short : reply.accountsFor states.length = false) :
      Reports project (violated project message : PetM Unit) (Settled states.length (.ok reply)) := by
    refine (violated_reports message).weaken ?_
    rintro live issued result live' ⟨rfl, rfl, rfl⟩
    simp [Settled, short]
  cases inner with
  | error error => exact (Quiet.gets _).bind fun alive => (Quiet.note _ _).bind fun _ => .throw error
  | ok reply =>
    cases reply with
    | released known missing =>
      dsimp only
      split
      · rename_i all
        refine (Reports.pure ()).weaken ?_
        rintro live issued result live' ⟨rfl, rfl, rfl⟩
        simp [Settled, PetReply.accountsFor, all]
      · rename_i all
        exact unsettled _ (by simpa [PetReply.accountsFor] using all)
    | _ => exact unsettled _ rfl

theorem releaseStates_ended (states : List PetStateId) :
    Reports project (releaseStates project states) Ended := by
  by_cases some : states = []
  · subst some
    exact .smooth_ended (.smooth_pure ())
  · refine (releaseStates_reports states some).weaken ?_
    rintro live issued result live' ⟨sincere, ⟨_, rfl, _⟩ | ⟨_, outcome, rfl, _⟩⟩
    · exact sincere.silent.ended
    · refine .sincere sincere (.inr fun turn member => ?_)
      obtain rfl := List.mem_singleton.mp member
      rfl

/-- The goals of a state: an error that keeps the epoch is that of the request. -/
def Shown (project : ProjectId) (state : PetStateId) : Account PetGoals :=
  fun live issued result live' => Sincere live result live' ∧
    ((live = false ∧ issued = []) ∨
      (live = true ∧ ∃ outcome, issued = [{ project, call := .goals state, outcome }] ∧
        ∀ error, result = .error error → error.invalidatesProcess = false →
          outcome = .error error ∧ live' = true))

theorem Shown.only {state : PetStateId} {live live' : Bool} {issued : List PetTurn}
    {result : Except PetError PetGoals} (shown : Shown project state live issued result live') :
    ∀ turn ∈ issued, turn.call.isRelease = false := by
  obtain ⟨_, ⟨_, rfl⟩ | ⟨_, outcome, rfl, _⟩⟩ := shown
  · exact List.forall_mem_nil _
  · intro turn member
    obtain rfl := List.mem_singleton.mp member
    rfl

/-- The goals are decoded, or the reply is a violation. -/
def Decoded : Account PetGoals := fun live issued result live' =>
  issued = [] ∧ ((∃ goals, result = .ok goals) ∧ live' = live ∨
    (∃ message, result = .error (.protocol message)) ∧ live' = false)

theorem decoded_reports (reply : PetReply PetStateId) : Reports project (match reply with
    | .null => pure .outsideProof
    | .goals goals => pure { goals with proofMode := true }
    | _ => violated project "PET goals result is invalid" : PetM PetGoals) Decoded := by
  have refused (message : String) :
      Reports project (violated project message : PetM PetGoals) Decoded := by
    refine (violated_reports message).weaken ?_
    rintro live issued result live' ⟨rfl, rfl, rfl⟩
    exact ⟨rfl, .inr ⟨⟨_, rfl⟩, rfl⟩⟩
  have shown (goals : PetGoals) : Reports project (pure goals : PetM PetGoals) Decoded := by
    refine (Reports.pure goals).weaken ?_
    rintro live issued result live' ⟨rfl, rfl, rfl⟩
    exact ⟨rfl, .inl ⟨⟨_, rfl⟩, rfl⟩⟩
  cases reply with
  | null => exact shown .outsideProof
  | goals goals => exact shown { goals with proofMode := true }
  | _ => exact refused _

theorem goals_reports (state : PetStateId) :
    Reports project (goals project state) (Shown project state) := by
  refine .bind _ (callLive_reports (.goals state) none) decoded_reports ?_ ?_
  · intro live issued error live' called
    refine ⟨called.sincere.retype, ?_⟩
    rcases called with ⟨rfl, rfl, _⟩ | ⟨rfl, rfl, rfl⟩
    · exact .inl ⟨rfl, rfl⟩
    · refine .inr ⟨rfl, _, rfl, ?_⟩
      rintro found ⟨⟩ mild
      exact ⟨rfl, by simp [keepsProcess, mild]⟩
  · rintro live issued value middle issued' result live' called ⟨rfl, ended⟩
    rcases called with ⟨_, _, _, _, impossible⟩ | ⟨rfl, rfl, rfl⟩
    · cases impossible
    · rcases ended with ⟨⟨goals, rfl⟩, rfl⟩ | ⟨⟨message, rfl⟩, rfl⟩
      · refine ⟨.ok fun _ => rfl, .inr ⟨rfl, _, rfl, ?_⟩⟩
        rintro found ⟨⟩
      · refine ⟨.violated message, .inr ⟨rfl, _, rfl, ?_⟩⟩
        rintro found ⟨⟩ mild
        cases mild

theorem goals_ended (state : PetStateId) : Reports project (goals project state) Ended :=
  (goals_reports state).weaken fun _ _ _ _ shown => .sincere shown.1 (.inl shown.only)

theorem bestEffort_reports {action : PetM α} {account : Account α}
    (reports : Reports project action account) :
    Returns project (bestEffort project action : PetM (Except PetError α))
      fun inner live issued live' => account live issued inner live' := by
  have noted (before : Bool) (inner : Except PetError α) : Reports project (do
      let after ← Act.gets fun world => (world.process project).isSome
      noteWhen (before && !after) (.silentLoss project)
      return inner : PetM (Except PetError α)) fun live issued result live' =>
        issued = [] ∧ result = .ok inner ∧ live' = live :=
    (Quiet.gets _).bind fun after => (Quiet.note _ _).bind fun _ => .pure inner
  refine (Quiet.gets _).bind fun before => reports.attempt.bind _ (noted before) ?_
  rintro live issued value middle issued' result live' holds ⟨rfl, rfl, rfl⟩
  exact ⟨_, rfl, holds⟩

/-- The state whose goals were refused is released, whatever comes of it. -/
def CleanedUp (project : ProjectId) (state : PetStateId) (error : PetError) :
    Account PetExecution := fun live issued result live' =>
  result = .error error ∧
    ((live = false ∧ issued = [] ∧ live' = false) ∨
      (live = true ∧ ∃ outcome,
        issued = [{ project, call := .releaseStates [state], outcome }] ∧
          live' = keepsAfterRelease 1 outcome))

theorem cleanedUp_reports (state : PetStateId) (error : PetError) : Reports project (do
    let _released ← bestEffort project (releaseStates project [state])
    .throw error : PetM PetExecution) (CleanedUp project state error) := by
  have released : Reports project (releaseStates project [state]) _ :=
    releaseStates_reports [state] (by simp)
  refine (bestEffort_reports released).bind _ (fun _ => .throw error) ?_
  rintro live issued inner middle issued' result live' ⟨_, ended⟩ ⟨rfl, rfl, rfl⟩
  exact ⟨rfl, ended⟩

/-- A clean-up that loses the process follows a refusal, unless the process was lost before. -/
theorem Shown.cleanedUp {state : PetStateId} {error : PetError} {live middle live' : Bool}
    {issued issued' : List PetTurn} {result : Except PetError PetExecution}
    (shown : Shown project state live issued (.error error) middle)
    (cleaned : CleanedUp project state error middle issued' result live') :
    Ended live (issued' ++ issued) result live' := by
  have quiet := shown.only
  obtain ⟨sincere, asked⟩ := shown
  obtain ⟨rfl, ⟨rfl, rfl, rfl⟩ | ⟨rfl, outcome, rfl, rfl⟩⟩ := cleaned
  · exact .sincere sincere.retype (.inl quiet)
  · have mild : error.invalidatesProcess = false := by
      cases invalidates : error.invalidatesProcess with
      | false => rfl
      | true => cases sincere.2 error rfl invalidates
    rcases asked with ⟨rfl, rfl⟩ | ⟨rfl, first, rfl, refused⟩
    · refine .sincere ⟨nofun, fun found same invalidates => ?_⟩ (.inr fun turn member => ?_)
      · cases same
        rw [mild] at invalidates
        cases invalidates
      · obtain rfl := List.mem_singleton.mp member
        rfl
    · obtain ⟨rfl, _⟩ := refused error rfl mild
      exact .cleaned project state error outcome [] rfl mild rfl rfl

/-- What becomes of a state once its goals are asked for. -/
def Materialized (project : ProjectId) (state : PetStateId) :
    Except PetError PetGoals → Account PetExecution
  | .ok _ => fun live issued result live' =>
    issued = [] ∧ live' = live ∧ ∃ execution, result = .ok execution
  | .error error => CleanedUp project state error

/-- The error of the clean-up release is swallowed, the process it loses is not kept. -/
theorem materialize_ended (state : PetStateId) (proofFinished : Bool) :
    Reports project (materialize project state proofFinished) Ended := by
  refine (goals_reports state).attempt.bind (Materialized project state) (fun inner => ?_) ?_
  · cases inner with
    | ok goals =>
      refine (Reports.pure _).weaken ?_
      rintro live issued result live' ⟨rfl, rfl, rfl⟩
      exact ⟨rfl, rfl, _, rfl⟩
    | error error => exact cleanedUp_reports state error
  · intro live issued inner middle issued' result live' shown ended
    cases inner with
    | ok goals =>
      obtain ⟨rfl, rfl, execution, rfl⟩ := ended
      exact .sincere (.ok shown.1.kept) (.inl shown.only)
    | error error => exact shown.cleanedUp ended

theorem readDocument_smooth (source : PetSource) : Reports project (readDocument source) Smooth := by
  refine .smooth_unasked (.bind tick_unasked fun tick => .bind (.gets _) fun content => ?_)
    (.bind (fun _ _ => nofun) fun tick => .bind (.gets _) fun content => ?_)
  · cases if tick.fault then none else content.bind bytesText? with
    | some text => exact .pure text
    | none => exact .throw _
  · cases if tick.fault then none else content.bind bytesText? with
    | some text => exact .pure text
    | none => exact .throw rfl

theorem sourcePosition_mild {text : String} {offset : Nat} {error : PetError}
    (failed : sourcePosition text offset = .error error) : error.invalidatesProcess = false := by
  unfold sourcePosition at failed
  split at failed
  · split at failed
    · cases failed
    · cases failed
      rfl
  · cases failed
    rfl

theorem materializeRun_ended (reply : PetReply PetStateId) :
    Reports project (materializeRun project reply) Ended := by
  cases reply with
  | run state proofFinished feedback => exact materialize_ended state proofFinished
  | _ => exact violated_ended _

theorem stateAt_ended (workspace : PetWorkspace) (source : PetSource) (offset : Nat) :
    Reports project (stateAt project workspace source offset) Ended := by
  refine .ended_bind (readDocument_smooth source) fun text => ?_
  have placed : Reports project (Act.ofExcept (sourcePosition text offset)) Smooth :=
    .smooth_unasked (.ofExcept _) (.ofExcept fun _ => sourcePosition_mild)
  exact .ended_bind placed fun _ =>
    .ended_bind (callInWorkspace_smooth workspace rfl rfl) materializeRun_ended

/-- The bound of a fragment is checked before any request. -/
theorem bounded_smooth (condition : Bool) (message : String) :
    Reports project (Act.ensure condition (PetError.invalid message)) Smooth :=
  .smooth_unasked (.ensure _ _) (.ensure rfl)

/-- A refused fragment, whose error may violate the protocol. -/
def Misplaced (error : PetError) : Account PetExecution := fun live issued result live' =>
  issued = [] ∧ (result = .error error ∧ live' = live ∨
    (∃ message, result = .error (.protocol message)) ∧ live' = false)

theorem misplaced_reports (error : PetError) (misplaced : Prop) [Decidable misplaced]
    (message : String) : Reports project
      (if misplaced then violated project message else .throw error : PetM PetExecution)
      (Misplaced error) := by
  split
  · refine (violated_reports message).weaken ?_
    rintro live issued result live' ⟨rfl, rfl, rfl⟩
    exact ⟨rfl, .inr ⟨⟨_, rfl⟩, rfl⟩⟩
  · refine (Reports.throw error).weaken ?_
    rintro live issued result live' ⟨rfl, rfl, rfl⟩
    exact ⟨rfl, .inl ⟨rfl, rfl⟩⟩

/-- What becomes of the reply to a fragment. -/
def Answered : Except PetError (PetReply PetStateId) → Account PetExecution
  | .ok _ => Ended
  | .error error => Misplaced error

theorem run_ended (state : PetStateId) (fragment : String) (timeoutMs : Option Nat) :
    Reports project (run project state fragment timeoutMs) Ended := by
  have called : Reports project (callLive project (.run state fragment) timeoutMs) _ :=
    callLive_reports _ _
  refine .ended_bind (bounded_smooth _ _) fun _ =>
    called.attempt.bind Answered (fun inner => ?_) ?_
  · cases inner with
    | ok reply => exact materializeRun_ended reply
    | error error => exact misplaced_reports error _ _
  · intro live issued inner middle issued' result live' called ended
    have early := called.smooth rfl rfl
    cases inner with
    | ok reply => exact early.ended_after ended
    | error error =>
      obtain ⟨rfl, ⟨rfl, rfl⟩ | ⟨⟨message, rfl⟩, rfl⟩⟩ := ended
      · exact Smooth.ended ⟨early.sincere.retype, early.plain⟩
      · exact Smooth.ended ⟨.violated message, early.plain⟩

theorem traceFailure_ended (beforeState : PetStateId) (failure : RawTraceFailure)
    (fragment : String) :
    Reports project (traceFailure project beforeState failure fragment) Ended := by
  unfold traceFailure
  split
  · exact violated_ended _
  · split
    · exact violated_ended _
    · exact .ended_map (materialize_ended beforeState false) fun _ => ⟨_, rfl⟩

theorem runTraced_ended (state : PetStateId) (fragment : String) (includeTrace : Bool)
    (timeoutMs : Option Nat) :
    Reports project (runTraced project state fragment includeTrace timeoutMs) Ended := by
  refine .ended_bind (bounded_smooth _ _) fun _ =>
    .ended_bind (callLive_smooth timeoutMs rfl rfl) fun reply => ?_
  cases reply with
  | traceSuccess state proofFinished =>
    exact .ended_map (materialize_ended state proofFinished) fun _ => ⟨_, rfl⟩
  | traceFailure beforeState failure => exact traceFailure_ended beforeState failure fragment
  | _ => exact violated_ended _

theorem documentDeclarations_ended (workspace : PetWorkspace) (source : PetSource) :
    Reports project (documentDeclarations project workspace source) Ended := by
  refine .smooth_ended (.smooth_bind (callInWorkspace_smooth workspace rfl rfl) fun reply => ?_)
  cases reply with
  | declarations rows => exact .smooth_pure rows
  | _ => exact violated_smooth _

theorem insertionPoint_ended (workspace : PetWorkspace) (source : PetSource)
    (modules : List String) :
    Reports project (insertionPoint project workspace source modules) Ended := by
  refine .smooth_ended (.smooth_bind (callInWorkspace_smooth workspace rfl rfl) fun reply => ?_)
  cases reply with
  | offset value => exact .smooth_pure value
  | _ => exact violated_smooth _

theorem assumptions_ended (state : PetStateId) (qualifiedPath : List String) :
    Reports project (assumptions project state qualifiedPath) Ended := by
  refine .smooth_ended (.smooth_bind (callLive_smooth none rfl rfl) fun reply => ?_)
  cases reply with
  | assumptions report =>
    dsimp only
    split
    · exact violated_smooth _
    · exact .smooth_pure report
  | _ => exact violated_smooth _

theorem diagnosticStateCount_ended : Reports project (diagnosticStateCount project) Ended := by
  refine .smooth_ended (.smooth_bind (callLive_smooth none rfl rfl) fun reply => ?_)
  cases reply with
  | offset value => exact .smooth_pure value
  | _ => exact violated_smooth _

theorem queryNotations_ended (state : PetStateId) (query : PetQuery) :
    Reports project (queryNotations project state query) Ended := by
  refine .smooth_ended (.smooth_bind (callLive_smooth none rfl rfl) fun reply => ?_)
  cases reply with
  | notations text => exact .smooth_pure text
  | _ => exact violated_smooth _

/-- The temporary state of a query without feedback is released after the process is gone. -/
theorem unprinted_ended (temporary : PetStateId) (message : String) : Reports project (do
    poisonIfInvalidated project (.protocol message)
    let _released ← Act.attempt (releaseStates project [temporary])
    .throw (.protocol message) : PetM String) Ended := by
  have released : Reports project (releaseStates project [temporary]) _ :=
    releaseStates_reports [temporary] (by simp)
  have absent : Reports project (do
      let _released ← Act.attempt (releaseStates project [temporary])
      .throw (.protocol message) : PetM String) fun live issued result live' => live = false →
        issued = [] ∧ live' = false ∧ result = .error (.protocol message) := by
    refine released.attempt.bind _ (fun _ => .throw _) ?_
    rintro live issued inner middle issued' result live' ⟨_, ended⟩ ⟨rfl, rfl, rfl⟩ rfl
    rcases ended with ⟨_, rfl, rfl⟩ | ⟨impossible, _⟩
    · exact ⟨rfl, rfl, rfl⟩
    · cases impossible
  refine discard_returns.bind _ (fun _ => absent) ?_
  rintro live issued value middle issued' result live' ⟨rfl, rfl⟩ ended
  obtain ⟨rfl, rfl, rfl⟩ := ended rfl
  exact (Sincere.violated message).silent.ended

theorem queryRun_ended (state : PetStateId) (query : PetQuery) :
    Reports project (queryRun project state query) Ended := by
  refine .ended_bind (callLive_smooth none rfl rfl) fun reply => ?_
  cases reply with
  | run temporary proofFinished feedback =>
    cases feedback with
    | none => exact unprinted_ended temporary _
    | some text => exact .ended_map (releaseStates_ended [temporary]) fun _ => ⟨_, rfl⟩
  | _ => exact violated_ended _

theorem query_ended (state : PetStateId) (query : PetQuery) :
    Reports project (PetActor.query project state query) Ended := by
  cases query with
  | notations expression => exact queryNotations_ended state _
  | _ => exact queryRun_ended state _

end PetActor

/-- The methods of `PetActor`, but for `restart` and `refresh_workspace`. -/
inductive PetMethod where
  | documentDeclarations (workspace : PetWorkspace) (source : PetSource)
  | insertionPoint (workspace : PetWorkspace) (source : PetSource) (modules : List String)
  | stateAt (workspace : PetWorkspace) (source : PetSource) (offset : Nat)
  | run (state : PetStateId) (fragment : String) (timeoutMs : Option Nat)
  | runTraced (state : PetStateId) (fragment : String) (includeTrace : Bool)
      (timeoutMs : Option Nat)
  | goals (state : PetStateId)
  | assumptions (state : PetStateId) (qualifiedPath : List String)
  | query (state : PetStateId) (query : PetQuery)
  | releaseStates (states : List PetStateId)
  | diagnosticStateCount

namespace PetMethod

/-- An action without its value. -/
def valueless (action : PetM α) : PetM Unit := do
  let _value ← action
  return ()

/-- The method, without its value. -/
def perform (project : ProjectId) : PetMethod → PetM Unit
  | documentDeclarations workspace source =>
    valueless (PetActor.documentDeclarations project workspace source)
  | insertionPoint workspace source modules =>
    valueless (PetActor.insertionPoint project workspace source modules)
  | stateAt workspace source offset => valueless (PetActor.stateAt project workspace source offset)
  | run state fragment timeoutMs => valueless (PetActor.run project state fragment timeoutMs)
  | runTraced state fragment includeTrace timeoutMs =>
    valueless (PetActor.runTraced project state fragment includeTrace timeoutMs)
  | goals state => valueless (PetActor.goals project state)
  | assumptions state qualifiedPath =>
    valueless (PetActor.assumptions project state qualifiedPath)
  | query state request => valueless (PetActor.query project state request)
  | releaseStates states => PetActor.releaseStates project states
  | diagnosticStateCount => valueless (PetActor.diagnosticStateCount project)

variable (method : PetMethod) (project : ProjectId) (world : World)

/-- The requests that the method issues, with their outcomes, the last one first. -/
def requests : List PetTurn :=
  let turns := (method.perform project world).2.ghost.turns
  turns.take (turns.length - world.ghost.turns.length)

/-- A process lost during the method is reported as lost, and what is reported
as lost is not installed. -/
def ReportsLoss : Prop :=
  Sincere (world.process project).isSome (method.perform project world).1
    ((method.perform project world).2.process project).isSome

theorem valueless_ended {action : PetM α} (ended : Reports project action Ended) :
    Reports project (valueless action) Ended :=
  .ended_map ended fun _ => ⟨(), rfl⟩

theorem perform_ended : Reports project (method.perform project) Ended := by
  cases method with
  | documentDeclarations workspace source =>
    exact valueless_ended project (PetActor.documentDeclarations_ended workspace source)
  | insertionPoint workspace source modules =>
    exact valueless_ended project (PetActor.insertionPoint_ended workspace source modules)
  | stateAt workspace source offset =>
    exact valueless_ended project (PetActor.stateAt_ended workspace source offset)
  | run state fragment timeoutMs =>
    exact valueless_ended project (PetActor.run_ended state fragment timeoutMs)
  | runTraced state fragment includeTrace timeoutMs =>
    exact valueless_ended project (PetActor.runTraced_ended state fragment includeTrace timeoutMs)
  | goals state => exact valueless_ended project (PetActor.goals_ended state)
  | assumptions state qualifiedPath =>
    exact valueless_ended project (PetActor.assumptions_ended state qualifiedPath)
  | query state request => exact valueless_ended project (PetActor.query_ended state request)
  | releaseStates states => exact PetActor.releaseStates_ended states
  | diagnosticStateCount => exact valueless_ended project PetActor.diagnosticStateCount_ended

/-- A method reports the loss of its process exactly when its requests do not
end with refused goals and a clean-up release that loses it. -/
theorem reportsLoss_iff : method.ReportsLoss project world ↔
    ¬ ((world.process project).isSome = true ∧ LosesCleanup (method.requests project world)) := by
  obtain ⟨issued, turns, ended⟩ := method.perform_ended project world
  have requested : method.requests project world = issued := by
    simp [requests, turns]
  rw [requested]
  exact ended.sincere_iff

namespace SilentLoss

/-- PET accepts a fragment, refuses its goals, and dies during the release. -/
def outcome : PetCall → RpcOutcome
  | .run _ _ => .returned (.run () false none)
  | .goals _ => .remote (-32003) "goals are unavailable" none
  | .releaseStates _ => .processLost "connection stdin write failed"
  | _ => .returned .malformed

def environment : Environment where
  tick _ := { rpc := outcome }
  sha256 bytes := bytes
  canonicalize root _ := root
  duneBuildDir := none

/-- A project with a process that has exported one state. -/
def installed : World :=
  (World.initial environment (fun _ => none) fun _ => none).setActor ["p"]
    { process := some ((PetProcess.start 0).exportState 0), workspace := none }

def step : PetMethod := .run ((PetProcess.start 0).fresh 0) "idtac." none

/-- The error is a refusal by Rocq, but the process is gone. -/
theorem not_reported : (step.perform ["p"] installed).1 =
      .error (.remote (-32003) .coq "goals are unavailable" none) ∧
    (installed.process ["p"]).isSome = true ∧
    ((step.perform ["p"] installed).2.process ["p"]).isSome = false ∧
    ¬ step.ReportsLoss ["p"] installed := by
  have returned : (step.perform ["p"] installed).1 =
      .error (.remote (-32003) .coq "goals are unavailable" none) := by
    decide +kernel
  have before : (installed.process ["p"]).isSome = true := by decide +kernel
  have after : ((step.perform ["p"] installed).2.process ["p"]).isSome = false := by
    decide +kernel
  refine ⟨returned, before, after, fun reports => ?_⟩
  obtain ⟨error, same, invalidates⟩ := reports.1 before after
  rw [returned] at same
  cases same
  cases invalidates

end SilentLoss

end PetMethod

end RocqMcp
