import RocqMcp.Engine.Diagnostics
import RocqMcp.Pet.Fragments

/-! The byte ranges that a step of a proof exposes. Of all errors that PET answers,
only the one to a plain fragment is compared with the fragment. -/

namespace RocqMcp

open Library

/-- The requests since a state, and whether a process is installed. -/
def Since (project : ProjectId) (start : World) (issued : List PetTurn) (live : Bool)
    (world : World) : Prop :=
  world.ghost.turns = issued ++ start.ghost.turns ∧ (world.process project).isSome = live

/-- The further requests of an action, by its result. -/
def Further (project : ProjectId) (start : World) (issued : List PetTurn)
    (account : List PetTurn → Except ε α → Bool → Prop) (result : Except ε α) (world : World) :
    Prop :=
  ∃ rest live', account rest result live' ∧ Since project start (rest ++ issued) live' world

/-- An action of the engine that has the further requests of the account. -/
def Requesting (project : ProjectId) (action : EngineM α)
    (account : List PetTurn → Except Error α → Bool → Prop) : Prop :=
  ∀ start issued live, Triple (Since project start issued live) action
    (fun value => Further project start issued account (.ok value))
    fun error => Further project start issued account (.error error)

/-- Goals and releases only. -/
abbrev Trailing : List PetTurn → Except Error α → Bool → Prop :=
  fun rest result _ => Follows Error.diagnostic rest result

section

variable {project : ProjectId} {start : World} {issued : List PetTurn} {live : Bool}

theorem Since.self (project : ProjectId) (start : World) :
    Since project start [] (start.process project).isSome start :=
  ⟨rfl, rfl⟩

theorem Since.unasked {before after : World} (since : Since project start issued live before)
    (unasked : Unasked before after) : Since project start issued live after := by
  refine ⟨unasked.turns.trans since.1, ?_⟩
  rw [World.process, World.actor, unasked.projects]
  exact since.2

/-- A method of the actor, by its account. -/
theorem Reports.triple {action : PetM α} {account : Account α}
    (reports : Reports project action account) :
    Triple (Since project start issued live) action
      (fun value => Further project start issued (account live) (.ok value))
      fun error => Further project start issued (account live) (.error error) := by
  rintro world ⟨turns, installed⟩
  obtain ⟨issued', turns', holds⟩ := reports world
  rcases ran : action world with ⟨result, world'⟩
  rw [ran] at turns' holds
  rw [turns, ← List.append_assoc] at turns'
  rw [installed] at holds
  cases result with
  | ok value => exact ⟨issued', _, holds, turns', rfl⟩
  | error error => exact ⟨issued', _, holds, turns', rfl⟩

end

/-- An error without a range. -/
def Error.Plain (error : Error) : Prop := error.diagnostic = none

/-- The request executes the fragment. -/
def PetCall.Executes (fragment : String) : PetCall → Prop
  | .run _ tactic | .runTrace _ tactic _ => tactic = fragment
  | _ => False

def ProofFailure.ranges (failure : ProofFailure) : List ProofDiagnostic :=
  failure.error.diagnostic.toList ++ failure.sentenceRange ::
    failure.trace.map ProofTraceStep.byteRange

namespace Engine

section

variable (project : ProjectId)

/-! ### Before the fragment -/

theorem validateFileId_plain (file : FileId) (error : Error)
    (failed : validateFileId file = .error error) : error.Plain := by
  unfold validateFileId at failed
  split at failed
  · cases failed
  · cases failed
    rfl

theorem validateFragment_plain (fragment : String) (error : Error)
    (failed : validateFragment fragment = .error error) : error.Plain := by
  unfold validateFragment at failed
  split at failed
  · cases failed
    rfl
  · split at failed
    · cases failed
      rfl
    · cases failed

theorem readSource_unasked (path : Path) :
    Stays Unasked (readSource path : EngineM (Option Bytes)) :=
  .bind tick_unasked fun _ => .gets _

theorem readOr_unasked (path : Path) (message : String) : Stays Unasked (readOr path message) := by
  refine .bind (readSource_unasked path) fun content => ?_
  cases content with
  | none => exact .throw _
  | some bytes => exact .pure bytes

theorem readOr_plain (path : Path) (message : String) :
    Throws Error.Plain (readOr path message) := by
  refine .bind (readSource_throws path) fun content => ?_
  cases content with
  | none => exact .throw rfl
  | some bytes => exact .pure bytes

theorem validateTarget_unasked (target : DeclarationTarget) :
    Stays Unasked (validateTarget project target) :=
  .bind (.mapError (.bind (.ofExcept _) fun _ => .bind tick_unasked fun _ => .bind (.gets _)
    fun _ => .bind (.gets _) fun _ => .bind (.ensure _ _) fun _ => .bind (.gets _) fun _ =>
      .bind (.ensure _ _) fun _ => .pure _)) fun _ => .bind (.ensure _ _) fun _ =>
    .bind (readOr_unasked _ _) fun _ => .bind (.gets _) fun _ => .ensure _ _

theorem validateTarget_plain (target : DeclarationTarget) :
    Throws Error.Plain (validateTarget project target) := by
  have plain : Throws Error.Plain (DuneProject.source project target.info.identity.file) :=
    .bind (.ofExcept (validateFileId_plain _)) fun _ => .bind tick_throws fun _ => .bind (.gets _)
      fun _ => .bind (.gets _) fun _ => .bind (.ensure rfl) fun _ => .bind (.gets _) fun _ =>
        .bind (.ensure rfl) fun _ => .pure _
  refine .bind (.mapError (plain.weaken fun error plain => ?_)) fun _ => .bind (.ensure rfl) fun _ =>
    .bind (readOr_plain _ _) fun _ => .bind (.gets _) fun _ => .ensure rfl
  split
  · rfl
  · exact plain

/-! ### The fragment -/

theorem releaseState_trailing (state : PetStateId) :
    Requesting project (releaseState project stepPetError state) Trailing := by
  intro start issued live
  refine .mapError ((PetActor.releaseStates_following [state]).triple.weaken (fun _ since => since)
    (fun value world further => ?_) fun error world further => ?_)
  · obtain ⟨rest, live', ⟨surfaced, followUps⟩, since⟩ := further
    exact ⟨rest, live', ⟨.returned surfaced.answered value, followUps⟩, since⟩
  · obtain ⟨rest, live', ⟨surfaced, followUps⟩, since⟩ := further
    exact ⟨rest, live', ⟨surfaced.translate rfl, followUps⟩, since⟩

theorem released_trailing (state : PetStateId) (last : EngineM α)
    {account : List PetTurn → Except Error α → Bool → Prop}
    (ended : ∀ rest live' world, AllAnswered rest → FollowUps rest →
      account rest (last world).1 live' ∧ (last world).2 = world)
    (refused : ∀ rest error live', Follows Error.diagnostic rest (.error error : Except Error α) →
      account rest (.error error) live') :
    Requesting project (do
      releaseState project stepPetError state
      last) account := by
  intro start issued live
  refine .bind ((releaseState_trailing project state start issued live).weaken
    (fun _ since => since) (fun _ _ further => further) fun error world further => ?_) fun _ => ?_
  · obtain ⟨rest, live', ⟨surfaced, followUps⟩, since⟩ := further
    exact ⟨rest, live', refused rest error live' ⟨surfaced.translate rfl, followUps⟩, since⟩
  · rintro world ⟨rest, live', ⟨surfaced, followUps⟩, since⟩
    obtain ⟨holds, same⟩ := ended rest live' world surfaced.answered followUps
    rcases ran : last world with ⟨result, world'⟩
    rw [ran] at holds same
    cases same
    cases result with
    | ok value => exact ⟨rest, live', holds, since⟩
    | error error => exact ⟨rest, live', holds, since⟩

theorem checkedStep_trailing (target : DeclarationTarget) (execution : PetExecution) :
    Requesting project (checkedStep project target execution) Trailing := by
  unfold checkedStep
  split
  · refine released_trailing project execution.state (.throw closedFragmentError) ?_ ?_
    · intro rest live' world answered followUps
      exact ⟨⟨.own answered _ rfl, followUps⟩, rfl⟩
    · intro rest error live' follows
      exact follows
  · intro start issued live
    refine .pure fun world since => ⟨[], live, ⟨?_, List.forall_mem_nil _⟩, since⟩
    exact .returned (List.forall_mem_nil _) _

/-- What is done with the outcome of a traced run. -/
def tracedStep (target : DeclarationTarget) : PetTraceOutcome → EngineM TracedProofStep
  | .success execution => do
    let step ← checkedStep project target execution
    return .success step
  | .failure failure => do
    releaseState project stepPetError failure.beforeState
    return .failure (failure.project target.info)

/-- A failure is the projected one. -/
def Projected (target : DeclarationTarget) (outcome : PetTraceOutcome) :
    List PetTurn → Except Error TracedProofStep → Bool → Prop :=
  fun rest result _ => Follows Error.diagnostic rest result ∧
    ∀ failure, result = .ok (.failure failure) →
      ∃ rejected, outcome = .failure rejected ∧ failure = rejected.project target.info

theorem executed_projected (target : DeclarationTarget) (execution : PetExecution) :
    Requesting project (do
      let step ← checkedStep project target execution
      return TracedProofStep.success step) (Projected target (.success execution)) := by
  intro start issued live
  refine .bind ((checkedStep_trailing project target execution start issued live).weaken
    (fun _ since => since) (fun _ _ further => further) fun error world further => ?_) fun step => ?_
  · obtain ⟨rest, live', follows, since⟩ := further
    refine ⟨rest, live', ⟨⟨follows.surfaced.translate rfl, follows.followUps⟩, ?_⟩, since⟩
    intro failure impossible
    cases impossible
  · refine .pure fun world further => ?_
    obtain ⟨rest, live', follows, since⟩ := further
    refine ⟨rest, live', ⟨⟨.returned follows.surfaced.answered _, follows.followUps⟩, ?_⟩, since⟩
    intro failure impossible
    cases impossible

theorem tracedStep_projected (target : DeclarationTarget) (outcome : PetTraceOutcome) :
    Requesting project (tracedStep project target outcome) (Projected target outcome) := by
  cases outcome with
  | success execution => exact executed_projected project target execution
  | failure rejected =>
    refine released_trailing project rejected.beforeState _ ?_ ?_
    · intro rest live' world answered followUps
      refine ⟨⟨⟨.returned answered _, followUps⟩, ?_⟩, rfl⟩
      rintro failure ⟨⟩
      exact ⟨rejected, rfl, rfl⟩
    · intro rest error live' follows
      refine ⟨follows, ?_⟩
      intro failure impossible
      cases impossible

/-- The error of an ended epoch. -/
def Lost (result : Except Error α) (live' : Bool) : Prop :=
  (∃ error, result = .error error ∧ error.kind = .petLost ∧ error.diagnostic = none) ∧ live' = false

def StepSettled (fragment : String) : Settlement Error ProofStep
  | .ok _, rest, result, _ => Follows Error.diagnostic rest result
  | .error error, rest, result, live' => rest = [] ∧
    if error.misplaced fragment then Lost result live' else result = .error (stepPetError error)

def TracedSettled (fragment : String) : Settlement Error TracedProofStep
  | .ok reply, rest, result, live' => Follows Error.diagnostic rest result ∧
    (∀ before failure, reply = .traceFailure before failure → ¬ failure.Placed fragment →
      Lost result live') ∧
    ∀ failure, result = .ok (.failure failure) → ∀ range ∈ failure.ranges, range.Within fragment
  | .error error, rest, result, _ => rest = [] ∧ result = .error (stepPetError error)

/-- Nothing is sent before the fragment. -/
theorem validated_sent {target : DeclarationTarget} {fragment : String} {call : PetCall}
    {next : EngineM α} {settlement : Settlement Error α}
    (sent : Requesting project next (Sent Error.diagnostic project call settlement)) :
    Requesting project (do
      validateTarget project target
      Act.ofExcept (validateFragment fragment)
      next) (Sent Error.diagnostic project call settlement) := by
  intro start issued live
  have plainly {β : Type} {action : EngineM β} (unasked : Stays Unasked action)
      (plain : Throws Error.Plain action) : Triple (Since project start issued live) action
        (fun _ => Since project start issued live)
        fun error => Further project start issued (Sent Error.diagnostic project call settlement)
          (.error error) :=
    (plain.triple (unasked.keeps fun _ _ unasked since => since.unasked unasked)).weaken
      (fun _ since => since) (fun _ _ since => since) fun error world ⟨since, plain⟩ =>
        ⟨[], live, .inl ⟨rfl, error, rfl, plain⟩, since⟩
  exact .bind (plainly (validateTarget_unasked project target) (validateTarget_plain project target))
    fun _ => .bind (plainly (.ofExcept _) (.ofExcept (validateFragment_plain fragment)))
      fun _ => sent start issued live

/-- A fragment for PET, and what the engine does with the result. -/
theorem projected_sent {call : PetCall} {action : PetM β} {next : β → EngineM α}
    {petSettlement : Settlement PetError β} {settlement : Settlement Error α}
    {late : β → List PetTurn → Except Error α → Bool → Prop}
    (sent : Reports project action (PetActor.Sending project call petSettlement))
    (nexts : ∀ value, Requesting project (next value) (late value))
    (failed : ∀ outcome rest error live', petSettlement outcome rest (.error error) live' →
      settlement outcome rest (.error (stepPetError error)) live')
    (joined : ∀ outcome rest value middle rest' result live',
      petSettlement outcome rest (.ok value) middle → late value rest' result live' →
        settlement outcome (rest' ++ rest) result live') :
    Requesting project (do
      let value ← Act.mapError stepPetError action
      next value) (Sent Error.diagnostic project call settlement) := by
  intro start issued live
  have first : Triple (Since project start issued live) action _ _ := sent.triple
  refine .bind (.mapError (first.weaken (fun _ since => since) (fun _ _ further => further)
    fun error world further => ?_)) fun value => ?_
  · obtain ⟨issued', live', ⟨rfl, _, same, plain⟩ | ⟨outcome, rest, rfl, settled⟩, since⟩ := further
    · cases same
      exact ⟨[], live', .inl ⟨rfl, _, rfl, plain⟩, since⟩
    · exact ⟨_, live', .inr ⟨outcome, rest, rfl, failed outcome rest error live' settled⟩, since⟩
  · rintro world ⟨issued', middle, ⟨_, _, impossible, _⟩ | ⟨outcome, rest, rfl, settled⟩, since⟩
    · cases impossible
    have ended := nexts value start _ middle world since
    have joins (rest' : List PetTurn) (result : Except Error α) (live' : Bool) (world' : World)
        (holds : late value rest' result live')
        (since' : Since project start
          (rest' ++ ((rest ++ [({ project, call, outcome } : PetTurn)]) ++ issued)) live' world') :
        Further project start issued (Sent Error.diagnostic project call settlement) result world' := by
      refine ⟨rest' ++ rest ++ [({ project, call, outcome } : PetTurn)], live',
        .inr ⟨outcome, rest' ++ rest, rfl, ?_⟩, ?_⟩
      · exact joined outcome rest value middle rest' result live' settled holds
      · simpa only [List.append_assoc] using since'
    rcases ran : next value world with ⟨result, world'⟩
    rw [ran] at ended
    cases result with
    | ok value =>
      obtain ⟨rest', live', holds, since'⟩ := ended
      exact joins rest' _ live' world' holds since'
    | error error =>
      obtain ⟨rest', live', holds, since'⟩ := ended
      exact joins rest' _ live' world' holds since'

theorem follows_joined {ε ε' : Type} {diagnostic : ε → Option ProofDiagnostic}
    {diagnostic' : ε' → Option ProofDiagnostic} {rest rest' : List PetTurn} {value : β}
    {result : Except ε' α} (early : Follows diagnostic rest (.ok value : Except ε β))
    (late : Follows diagnostic' rest' result) : Follows diagnostic' (rest' ++ rest) result :=
  ⟨late.surfaced.after early.surfaced.answered, late.followUps.append early.followUps⟩

theorem run_sent (target : DeclarationTarget) (state : PetStateId) (fragment : String)
    (timeoutMs : Option Nat) :
    Requesting project (run project target state fragment timeoutMs)
      (Sent Error.diagnostic project (.run state fragment) (StepSettled fragment)) := by
  refine validated_sent project (projected_sent project
    (PetActor.run_sent state fragment timeoutMs)
    (checkedStep_trailing project target) ?_ ?_)
  · intro outcome rest error live' settled
    cases outcome with
    | ok reply =>
      have follows : Follows PetError.diagnostic rest (.error error : Except PetError PetExecution) :=
        settled
      exact ⟨follows.surfaced.translate rfl, follows.followUps⟩
    | error refusal =>
      obtain ⟨rfl, ended⟩ := settled
      refine ⟨rfl, ?_⟩
      split at ended
      · rename_i misplaced
        obtain ⟨⟨message, same⟩, rfl⟩ := ended
        cases same
        rw [if_pos misplaced]
        exact ⟨⟨_, rfl, rfl, rfl⟩, rfl⟩
      · rename_i placed
        cases ended
        rw [if_neg placed]
  · intro outcome rest execution middle rest' result live' settled late
    cases outcome with
    | ok reply => exact follows_joined settled late
    | error refusal =>
      obtain ⟨rfl, ended⟩ := settled
      split at ended
      · obtain ⟨⟨message, impossible⟩, _⟩ := ended
        cases impossible
      · cases ended

theorem runTraced_sent (target : DeclarationTarget) (state : PetStateId) (fragment : String)
    (includeTrace : Bool) (timeoutMs : Option Nat) :
    Requesting project (runTraced project target state fragment includeTrace timeoutMs)
      (Sent Error.diagnostic project (.runTrace state fragment includeTrace)
        (TracedSettled fragment)) := by
  refine validated_sent project (projected_sent project
    (PetActor.runTraced_sent state fragment includeTrace timeoutMs)
    (tracedStep_projected project target) ?_ ?_)
  · intro outcome rest error live' settled
    cases outcome with
    | ok reply =>
      obtain ⟨follows, lost, _⟩ := settled
      refine ⟨⟨follows.surfaced.translate rfl, follows.followUps⟩, ?_, ?_⟩
      · intro before failure same misplaced
        obtain ⟨⟨message, same⟩, gone⟩ := lost before failure same misplaced
        cases same
        exact ⟨⟨_, rfl, rfl, rfl⟩, gone⟩
      · intro failure impossible
        cases impossible
    | error refusal =>
      obtain ⟨rfl, ended⟩ := settled
      cases ended
      exact ⟨rfl, rfl⟩
  · intro outcome rest traced middle rest' result live' settled late
    cases outcome with
    | ok reply =>
      obtain ⟨follows, lost, within⟩ := settled
      obtain ⟨later, projected⟩ := late
      refine ⟨follows_joined follows later, ?_, ?_⟩
      · intro before failure same misplaced
        obtain ⟨⟨message, impossible⟩, _⟩ := lost before failure same misplaced
        cases impossible
      · intro failure same range member
        obtain ⟨rejected, rfl, rfl⟩ := projected failure same
        apply within rejected rfl range
        simpa [ProofFailure.ranges, PetTraceFailure.ranges, PetTraceFailure.project, stepPetError,
          projectedPetError] using member
    | error refusal =>
      obtain ⟨rfl, impossible⟩ := settled
      cases impossible

/-! ### Exposed ranges -/

/-- The requests of a run of the action, the last one first. -/
def issuedBy (action : EngineM α) (world : World) : List PetTurn :=
  let turns := (action world).2.ghost.turns
  turns.take (turns.length - world.ghost.turns.length)

def stepRanges : Except Error ProofStep → List ProofDiagnostic
  | .ok _ => []
  | .error error => error.diagnostic.toList

def tracedRanges : Except Error TracedProofStep → List ProofDiagnostic
  | .ok (.success _) => []
  | .ok (.failure failure) => failure.ranges
  | .error error => error.diagnostic.toList

/-- A reply to the fragment with a range that is no slice of it. -/
inductive Violates (fragment : String) (turn : PetTurn) : Prop where
  | refused {error : PetError} {range : ProofDiagnostic} (sent : turn.call.Executes fragment)
      (answered : turn.outcome = .error error) (stated : error.diagnostic = some range)
      (outside : ¬ range.Within fragment)
  | embedded {state before : PetStateId} {includeTrace : Bool} {failure : RawTraceFailure}
      (traced : turn.call = .runTrace state fragment includeTrace)
      (answered : turn.outcome = .ok (.traceFailure before failure))
      (outside : ¬ failure.Placed fragment)

/-- Each exposed range is a slice of the fragment, and a reply with another one
ends the epoch. -/
structure Sound (fragment : String) (ranges : Except Error α → List ProofDiagnostic)
    (action : EngineM α) (world : World) : Prop where
  within : ∀ range ∈ ranges (action world).1, range.Within fragment
  discarded : ∀ turn ∈ issuedBy action world, Violates fragment turn →
    Lost (action world).1 ((action world).2.process project).isSome

/-- The first request that PET refuses is the plain fragment, or the range that
it states is a slice of the fragment. -/
def Fits (fragment : String) (issued : List PetTurn) : Prop :=
  ∀ turn error range, FirstRefusal issued turn error → error.diagnostic = some range →
    (∃ state, turn.call = .run state fragment) ∨ range.Within fragment

theorem requesting_issuedBy {action : EngineM α}
    {account : List PetTurn → Except Error α → Bool → Prop}
    (requesting : Requesting project action account) (world : World) :
    account (issuedBy action world) (action world).1 ((action world).2.process project).isSome := by
  have further := requesting world [] _ world (Since.self project world)
  unfold Engine.issuedBy
  rcases ran : action world with ⟨result, world'⟩
  rw [ran] at further
  have known : Further project world [] account result world' := by
    cases result with
    | ok value => exact further
    | error error => exact further
  obtain ⟨rest, live', holds, turns, rfl⟩ := known
  rw [List.append_nil] at turns
  simp only [turns, List.length_append, Nat.add_sub_cancel, List.take_left]
  exact holds

section

variable {project} {fragment : String} {rest : List PetTurn} {turn : PetTurn}
  {reply : PetReply PetStateId} {refusal : PetError} {result : Except Error α} {live' : Bool}

theorem followUps_not_executes (followUps : FollowUps rest) (member : turn ∈ rest) :
    ¬ turn.call.Executes fragment := by
  intro executes
  have next := followUps turn member
  cases sent : turn.call with
  | run state tactic =>
    rw [sent] at next
    exact next.elim nofun nofun
  | runTrace state tactic includeTrace =>
    rw [sent] at next
    exact next.elim nofun nofun
  | _ =>
    rw [sent] at executes
    exact executes

/-- The requests behind a fragment that PET answers. -/
theorem follows_fits_iff (follows : Follows Error.diagnostic rest result)
    (answered : turn.outcome = .ok reply) :
    (∀ error, result = .error error → ∀ range ∈ error.diagnostic, range.Within fragment) ↔
      Fits fragment (rest ++ [turn]) := by
  have answered' : AllAnswered [turn] := by
    intro other member
    rw [List.mem_singleton.mp member]
    exact ⟨reply, answered⟩
  obtain ⟨surfaced, followUps⟩ := follows
  constructor
  · intro within later error range first stated
    cases surfaced with
    | returned settled value => exact absurd (settled.append answered') first.not_answered
    | own settled failed plain => exact absurd (settled.append answered') first.not_answered
    | refused first' failed same =>
      obtain ⟨rfl, rfl⟩ := first.unique (first'.behind answered')
      exact .inr (within failed rfl range (same.trans stated))
  · rintro fits failed rfl range stated
    cases surfaced with
    | own settled _ plain =>
      rw [plain] at stated
      cases stated
    | refused first _ same =>
      have stated' := same.symm.trans stated
      rcases fits _ _ range (first.behind answered') stated' with ⟨state, sent⟩ | within
      · have executes : PetCall.Executes fragment (.run state fragment) := rfl
        rw [← sent] at executes
        exact absurd executes (followUps_not_executes followUps first.member)
      · exact within

/-- The fragment is the only request. -/
theorem fits_refused (refused : turn.outcome = .error refusal) :
    Fits fragment [turn] ↔ ∀ range, refusal.diagnostic = some range →
      (∃ state, turn.call = .run state fragment) ∨ range.Within fragment := by
  have alone : FirstRefusal [turn] turn refusal := ⟨refused, [], [], rfl, List.forall_mem_nil _⟩
  constructor
  · intro fits range stated
    exact fits turn refusal range alone stated
  · intro fits other error range first stated
    obtain ⟨rfl, rfl⟩ := first.unique alone
    exact fits range stated

end

theorem Violates.executes {fragment : String} {turn : PetTurn} (violates : Violates fragment turn) :
    turn.call.Executes fragment := by
  cases violates with
  | refused sent _ _ _ => exact sent
  | embedded traced _ _ =>
    rw [traced]
    rfl

section

variable {project} {fragment : String} {action : EngineM α} {world : World}
  {ranges : Except Error α → List ProofDiagnostic} {call : PetCall}

theorem sound_unsent (unsent : issuedBy action world = [])
    (plain : ranges (action world).1 = []) :
    Sound project fragment ranges action world ↔ Fits fragment (issuedBy action world) := by
  rw [unsent]
  refine iff_of_true ⟨?_, ?_⟩ ?_
  · rw [plain]
    exact List.forall_mem_nil _
  · rw [unsent]
    exact List.forall_mem_nil _
  · intro turn error range first
    exact absurd first.member List.not_mem_nil

/-- The fragment is answered. -/
theorem sound_answered {rest : List PetTurn} {turn : PetTurn} {reply : PetReply PetStateId}
    (issued : issuedBy action world = rest ++ [turn]) (answered : turn.outcome = .ok reply)
    (follows : Follows Error.diagnostic rest (action world).1)
    (failing : ∀ error, ranges (.error error) = error.diagnostic.toList)
    (returning : ∀ value, (action world).1 = .ok value → ∀ range ∈ ranges (.ok value),
      range.Within fragment)
    (discarding : Violates fragment turn →
      Lost (action world).1 ((action world).2.process project).isSome) :
    Sound project fragment ranges action world ↔ Fits fragment (issuedBy action world) := by
  rw [issued, ← follows_fits_iff follows answered]
  constructor
  · rintro ⟨within, _⟩ error failed range stated
    apply within
    rw [failed, failing]
    exact Option.mem_toList.mpr stated
  · intro within
    refine ⟨fun range member => ?_, fun other member violates => ?_⟩
    · cases ended : (action world).1 with
      | ok value =>
        rw [ended] at member
        exact returning value ended range member
      | error error =>
        rw [ended, failing] at member
        exact within error ended range (Option.mem_toList.mp member)
    · rw [issued] at member
      rcases List.mem_append.mp member with followed | first
      · exact absurd violates.executes (followUps_not_executes follows.followUps followed)
      · rw [List.mem_singleton.mp first] at violates
        exact discarding violates

end

theorem run_sound_iff (target : DeclarationTarget) (state : PetStateId) (fragment : String)
    (timeoutMs : Option Nat) (world : World)
    (decoded : ∀ turn ∈ issuedBy (run project target state fragment timeoutMs) world, turn.Decoded) :
    Sound project fragment stepRanges (run project target state fragment timeoutMs) world ↔
      Fits fragment (issuedBy (run project target state fragment timeoutMs) world) := by
  have sent := requesting_issuedBy project (run_sent project target state fragment timeoutMs) world
  generalize run project target state fragment timeoutMs = action at *
  rcases sent with ⟨unsent, error, failed, plain⟩ | ⟨outcome, rest, issued, settled⟩
  · have silent : stepRanges (action world).1 = [] := by
      rw [failed, stepRanges, plain]
      rfl
    exact sound_unsent unsent silent
  · cases outcome with
    | ok reply =>
      refine sound_answered issued rfl settled (fun _ => rfl) (fun _ _ => List.forall_mem_nil _) ?_
      intro violates
      cases violates with
      | refused _ answered _ _ => cases answered
      | embedded traced _ _ => cases traced
    | error refusal =>
      obtain ⟨rfl, ended⟩ := settled
      rw [List.nil_append] at issued
      rw [issued] at decoded ⊢
      have plain := decoded _ (List.mem_singleton.mpr rfl)
      refine iff_of_true ⟨fun range member => ?_, fun turn member violates => ?_⟩
        ((fits_refused rfl).mpr fun _ _ => .inl ⟨state, rfl⟩)
      · split at ended
        · obtain ⟨⟨failed, same, _, bare⟩, _⟩ := ended
          rw [same, stepRanges, bare] at member
          exact absurd member List.not_mem_nil
        · rename_i placed
          rw [ended] at member
          have stated : refusal.diagnostic = some range := Option.mem_toList.mp member
          rw [PetError.misplaced_iff stated (plain.ordered rfl stated), not_not] at placed
          exact placed
      · rw [issued] at member
        rw [List.mem_singleton.mp member] at violates
        cases violates with
        | refused _ answered stated outside =>
          cases answered
          have misplaced := (PetError.misplaced_iff stated (plain.ordered rfl stated)).mpr outside
          rw [if_pos misplaced] at ended
          exact ended
        | embedded traced _ _ => cases traced

theorem runTraced_sound_iff (target : DeclarationTarget) (state : PetStateId) (fragment : String)
    (includeTrace : Bool) (timeoutMs : Option Nat) (world : World) :
    Sound project fragment tracedRanges
        (runTraced project target state fragment includeTrace timeoutMs) world ↔
      Fits fragment
        (issuedBy (runTraced project target state fragment includeTrace timeoutMs) world) := by
  have sent := requesting_issuedBy project
    (runTraced_sent project target state fragment includeTrace timeoutMs) world
  generalize runTraced project target state fragment includeTrace timeoutMs = action at *
  rcases sent with ⟨unsent, error, failed, plain⟩ | ⟨outcome, rest, issued, settled⟩
  · have silent : tracedRanges (action world).1 = [] := by
      rw [failed, tracedRanges, plain]
      rfl
    exact sound_unsent unsent silent
  · cases outcome with
    | ok reply =>
      obtain ⟨follows, lost, embedded⟩ := settled
      refine sound_answered issued rfl follows (fun _ => rfl) (fun traced ended => ?_) ?_
      · cases traced with
        | success step => exact List.forall_mem_nil _
        | failure failure => exact embedded failure ended
      · intro violates
        cases violates with
        | refused _ answered _ _ => cases answered
        | embedded _ answered outside =>
          cases answered
          exact lost _ _ rfl outside
    | error refusal =>
      obtain ⟨rfl, ended⟩ := settled
      rw [List.nil_append] at issued
      rw [issued, fits_refused rfl]
      constructor
      · rintro ⟨within, _⟩ range stated
        refine .inr (within range ?_)
        rw [ended]
        exact Option.mem_toList.mpr stated
      · intro fits
        have within (range : ProofDiagnostic) (stated : refusal.diagnostic = some range) :
            range.Within fragment := by
          rcases fits range stated with ⟨_, impossible⟩ | within
          · cases impossible
          · exact within
        refine ⟨fun range member => ?_, fun turn member violates => ?_⟩
        · rw [ended] at member
          exact within range (Option.mem_toList.mp member)
        · rw [issued] at member
          rw [List.mem_singleton.mp member] at violates
          cases violates with
          | refused _ answered stated outside =>
            cases answered
            exact absurd (within _ stated) outside
          | embedded _ answered _ => cases answered

/-- Each exposed range is a slice of the fragment, and every other reply ends the
epoch, if and only if the first request that PET refuses is the plain fragment, or
is refused without a range outside the fragment. -/
theorem exposedRanges_iff (target : DeclarationTarget) (state : PetStateId) (fragment : String)
    (includeTrace : Bool) (timeoutMs : Option Nat) (world : World)
    (decoded : ∀ turn ∈ issuedBy (run project target state fragment timeoutMs) world,
      turn.Decoded) :
    (Sound project fragment stepRanges (run project target state fragment timeoutMs) world ↔
      Fits fragment (issuedBy (run project target state fragment timeoutMs) world)) ∧
    (Sound project fragment tracedRanges
        (runTraced project target state fragment includeTrace timeoutMs) world ↔
      Fits fragment
        (issuedBy (runTraced project target state fragment includeTrace timeoutMs) world)) :=
  ⟨run_sound_iff project target state fragment timeoutMs world decoded,
    runTraced_sound_iff project target state fragment includeTrace timeoutMs world⟩

end

/-! ### A traced fragment that PET rejects with a range behind its end -/

namespace Straying

deriving instance DecidableEq for PetCall, RawTraceFailure, PetReply, PetTurn

def stray : ProofDiagnostic where
  byteStart := 0
  byteEnd := 9

/-- The data of the JSON-RPC error. -/
def data : List Value :=
  [.object [("range", .object
    [("start", .object [("offset", .number 0)]), ("end", .object [("offset", .number 9)])])]]

def answer : PetCall → RpcOutcome
  | .run _ _ | .runTrace _ _ _ => .remote (-32003) "no" (some stray)
  | _ => .returned .null

def world : World :=
  let environment := { Padding.environment with tick _ := { rpc := answer } }
  { Padding.world with environment }.setActor Padding.root { process := some (.start 0), workspace := none }

def state : PetStateId where
  value := 1
  exportedAt := 0

def target : DeclarationTarget :=
  newTarget { file := Padding.file, qualifiedPath := ["A", "u"] } DeclarationKind.lemma' "True"
    ["p", "A.v"] [] 0 []

def turn : PetTurn where
  project := Padding.root
  call := .runTrace state "auto." false
  outcome := .error (.remote (-32003) (.fromCode (-32003)) "no" (some stray))

def ran : PetTurn := { turn with call := .run state "auto." }

def traced : Except Error TracedProofStep × World :=
  runTraced Padding.root target state "auto." false none world

theorem issued :
    issuedBy (runTraced Padding.root target state "auto." false none) world = [turn] := by
  decide +kernel

theorem decoded : turn.Decoded := by
  rintro error range ⟨⟩ ⟨⟩
  exact ⟨data, by rfl⟩

theorem ran_decoded : ran.Decoded := decoded

theorem outside : ¬ stray.Within "auto." := by
  unfold ProofDiagnostic.Within
  decide +kernel

end Straying

/-- The range that PET states leaves the fragment. The caller gets it, and the
process stays installed. -/
theorem tracedRange_strays :
    let action := runTraced Padding.root Straying.target Straying.state "auto." false none
    issuedBy action Straying.world = [Straying.turn] ∧ Straying.turn.Decoded ∧
      Straying.stray ∈ tracedRanges (action Straying.world).1 ∧ ¬ Straying.stray.Within "auto." ∧
      ((action Straying.world).2.process Padding.root).isSome = true ∧
      ¬ Sound Padding.root "auto." tracedRanges action Straying.world := by
  have exposed : Straying.stray ∈ tracedRanges Straying.traced.1 := by decide +kernel
  have installed : (Straying.traced.2.process Padding.root).isSome = true := by decide +kernel
  refine ⟨Straying.issued, Straying.decoded, exposed, Straying.outside, installed, ?_⟩
  intro sound
  exact Straying.outside (sound.within Straying.stray exposed)

/-- The plain run of the fragment ends the epoch. -/
theorem exposedRanges_iff_strays :
    Sound Padding.root "auto." stepRanges
      (run Padding.root Straying.target Straying.state "auto." none) Straying.world := by
  have issued : issuedBy (run Padding.root Straying.target Straying.state "auto." none)
      Straying.world = [Straying.ran] := by decide +kernel
  refine (exposedRanges_iff Padding.root Straying.target Straying.state "auto." false none
    Straying.world ?_).1.mpr ?_
  · intro turn member
    rw [issued] at member
    rw [List.mem_singleton.mp member]
    exact Straying.ran_decoded
  · rw [issued, fits_refused rfl]
    exact fun _ _ => .inl ⟨Straying.state, rfl⟩

end Engine

end RocqMcp
