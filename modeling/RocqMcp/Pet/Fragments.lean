import RocqMcp.Pet.Boundaries
import RocqMcp.Pet.Losses
import RocqMcp.Pet.Response

/-! The byte ranges in what PET answers to a fragment. A method returns the first
refusal that it meets, and follows the fragment with goals and releases only. -/

namespace RocqMcp

open Library

/-- A slice of the fragment, on character boundaries. -/
def ProofDiagnostic.Within (fragment : String) (range : ProofDiagnostic) : Prop :=
  validRange fragment range.byteStart range.byteEnd = true

/-- The ranges of an embedded failure, as PET sends them. -/
structure RawTraceFailure.Placed (fragment : String) (failure : RawTraceFailure) : Prop where
  sentence : validRange fragment failure.sentenceStart failure.sentenceEnd = true
  trace : ∀ step ∈ failure.trace, validRange fragment step.byteStart step.byteEnd = true
  diagnostic : ∀ byteStart byteEnd, failure.diagnosticStart = some byteStart →
    failure.diagnosticEnd = some byteEnd → validRange fragment byteStart byteEnd = true

/-- The ranges that a failure exposes. -/
def PetTraceFailure.ranges (failure : PetTraceFailure) : List ProofDiagnostic :=
  failure.error.diagnostic.toList ++ failure.sentenceRange ::
    failure.trace.map fun step => { byteStart := step.byteStart, byteEnd := step.byteEnd }

def AllAnswered (issued : List PetTurn) : Prop := ∀ turn ∈ issued, ∃ reply, turn.outcome = .ok reply

/-- The first request that is refused, in a list with the last one first. -/
def FirstRefusal (issued : List PetTurn) (turn : PetTurn) (error : PetError) : Prop :=
  turn.outcome = .error error ∧
    ∃ later earlier, issued = later ++ turn :: earlier ∧ AllAnswered earlier

def FollowUps (issued : List PetTurn) : Prop :=
  ∀ turn ∈ issued, turn.call.isGoals = true ∨ turn.call.isRelease = true

/-- The range in the result is that of the first refusal. -/
inductive Surfaced (diagnostic : ε → Option ProofDiagnostic) (issued : List PetTurn) :
    Except ε α → Prop where
  | returned (answered : AllAnswered issued) (value : α) : Surfaced diagnostic issued (.ok value)
  | own (answered : AllAnswered issued) (error : ε) (plain : diagnostic error = none) :
      Surfaced diagnostic issued (.error error)
  | refused {turn : PetTurn} {refusal : PetError} (first : FirstRefusal issued turn refusal)
      (error : ε) (same : diagnostic error = refusal.diagnostic) :
      Surfaced diagnostic issued (.error error)

/-- Goals and releases, and the first refusal among them. -/
structure Follows (diagnostic : ε → Option ProofDiagnostic) (issued : List PetTurn)
    (result : Except ε α) : Prop where
  surfaced : Surfaced diagnostic issued result
  followUps : FollowUps issued

/-- What a method makes of the reply to a fragment, with the later requests. -/
abbrev Settlement (ε α : Type) :=
  Except PetError (PetReply PetStateId) → List PetTurn → Except ε α → Bool → Prop

/-- The requests of a method that sends a fragment: none, or the fragment first. -/
def Sent (diagnostic : ε → Option ProofDiagnostic) (project : ProjectId) (call : PetCall)
    (settlement : Settlement ε α) (issued : List PetTurn) (result : Except ε α) (live' : Bool) :
    Prop :=
  (issued = [] ∧ ∃ error, result = .error error ∧ diagnostic error = none) ∨
    ∃ outcome rest, issued = rest ++ [({ project, call, outcome } : PetTurn)] ∧
      settlement outcome rest result live'

/-- A range of a JSON-RPC error is read from the data of that error. -/
def PetTurn.Decoded (turn : PetTurn) : Prop :=
  ∀ error range, turn.outcome = .error error → error.diagnostic = some range →
    ∃ entries, parsePetDiagnostic entries = .ok (some range)

theorem PetTurn.Decoded.ordered {turn : PetTurn} {error : PetError} {range : ProofDiagnostic}
    (decoded : turn.Decoded) (refused : turn.outcome = .error error)
    (stated : error.diagnostic = some range) : range.byteStart ≤ range.byteEnd := by
  obtain ⟨entries, parsed⟩ := decoded error range refused stated
  exact parsePetDiagnostic_ordered parsed

theorem PetError.misplaced_iff {error : PetError} {fragment : String} {range : ProofDiagnostic}
    (stated : error.diagnostic = some range) (ordered : range.byteStart ≤ range.byteEnd) :
    error.misplaced fragment = true ↔ ¬ range.Within fragment := by
  cases error with
  | remote code kind message diagnostic =>
    obtain rfl : diagnostic = some range := stated
    simp only [PetError.misplaced, ProofDiagnostic.Within, validRange, ordered, Bool.or_eq_true,
      Bool.not_eq_true', decide_eq_true_eq, Bool.and_eq_true, not_and_or, Nat.not_le,
      Bool.not_eq_true, not_true_eq_false, false_or]
  | _ => cases stated

section

variable {issued issued' : List PetTurn} {turn turn' : PetTurn} {error error' : PetError}
  {diagnostic : ε → Option ProofDiagnostic} {result : Except ε α}

theorem AllAnswered.append (left : AllAnswered issued') (right : AllAnswered issued) :
    AllAnswered (issued' ++ issued) :=
  List.forall_mem_append.mpr ⟨left, right⟩

theorem FirstRefusal.before (first : FirstRefusal issued turn error) (issued' : List PetTurn) :
    FirstRefusal (issued' ++ issued) turn error := by
  obtain ⟨refused, later, earlier, rfl, answered⟩ := first
  exact ⟨refused, issued' ++ later, earlier, (List.append_assoc ..).symm, answered⟩

theorem FirstRefusal.behind (first : FirstRefusal issued' turn error) (answered : AllAnswered issued) :
    FirstRefusal (issued' ++ issued) turn error := by
  obtain ⟨refused, later, earlier, rfl, answered'⟩ := first
  exact ⟨refused, later, earlier ++ issued, by simp, answered'.append answered⟩

theorem FirstRefusal.member (first : FirstRefusal issued turn error) : turn ∈ issued := by
  obtain ⟨_, later, earlier, rfl, _⟩ := first
  simp

theorem FirstRefusal.not_answered (first : FirstRefusal issued turn error) : ¬ AllAnswered issued := by
  intro answered
  obtain ⟨reply, replied⟩ := answered turn first.member
  rw [first.1] at replied
  cases replied

/-- There is one first refusal. -/
theorem FirstRefusal.unique (first : FirstRefusal issued turn error)
    (first' : FirstRefusal issued turn' error') : turn = turn' ∧ error = error' := by
  obtain ⟨refused, later, earlier, rfl, answered⟩ := first
  obtain ⟨refused', later', earlier', same, answered'⟩ := first'
  have turns : turn = turn' := by
    rcases List.append_eq_append_iff.mp same with ⟨between, _, split⟩ | ⟨between, _, split⟩
    · cases between with
      | nil => exact (List.cons.inj split).1
      | cons head rest =>
        obtain ⟨reply, replied⟩ := answered turn' (by rw [(List.cons.inj split).2]; simp)
        rw [refused'] at replied
        cases replied
    · cases between with
      | nil => exact (List.cons.inj split).1.symm
      | cons head rest =>
        obtain ⟨reply, replied⟩ := answered' turn (by rw [(List.cons.inj split).2]; simp)
        rw [refused] at replied
        cases replied
  subst turns
  rw [refused] at refused'
  exact ⟨rfl, Except.error.inj refused'⟩

theorem Surfaced.answered {value : α}
    (surfaced : Surfaced diagnostic issued (.ok value : Except ε α)) : AllAnswered issued := by
  cases surfaced with
  | returned answered => exact answered

theorem Surfaced.after (surfaced : Surfaced diagnostic issued' result)
    (answered : AllAnswered issued) : Surfaced diagnostic (issued' ++ issued) result := by
  cases surfaced with
  | returned answered' value => exact .returned (answered'.append answered) value
  | own answered' error plain => exact .own (answered'.append answered) error plain
  | refused first error same => exact .refused (first.behind answered) error same

/-- An error goes on as it is, or in another type. -/
theorem Surfaced.translate {failed : ε} {failed' : ε'} {diagnostic' : ε' → Option ProofDiagnostic}
    (surfaced : Surfaced diagnostic issued (.error failed : Except ε α))
    (kept : diagnostic' failed' = diagnostic failed) :
    Surfaced diagnostic' issued (.error failed' : Except ε' β) := by
  cases surfaced with
  | own answered _ plain => exact .own answered _ (kept.trans plain)
  | refused first _ same => exact .refused first _ (kept.trans same)

theorem FollowUps.append (left : FollowUps issued') (right : FollowUps issued) :
    FollowUps (issued' ++ issued) :=
  List.forall_mem_append.mpr ⟨left, right⟩

end

namespace PetActor

variable {project : ProjectId} {α β : Type}

abbrev Following : Account α := fun _ issued result _ => Follows PetError.diagnostic issued result

section

variable {call : PetCall} {live live' : Bool} {issued : List PetTurn}
  {result : Except PetError (PetReply PetStateId)}

theorem Called.surfaced (called : Called project call live issued result live') :
    Surfaced PetError.diagnostic issued result := by
  rcases called with ⟨_, rfl, _, message, rfl⟩ | ⟨_, rfl, _⟩
  · exact .own (List.forall_mem_nil _) _ rfl
  · cases result with
    | ok reply =>
      refine .returned ?_ reply
      intro turn member
      exact ⟨reply, by rw [List.mem_singleton.mp member]⟩
    | error error => exact .refused ⟨rfl, [], [], rfl, List.forall_mem_nil _⟩ error rfl

theorem Called.followUps (called : Called project call live issued result live')
    (next : call.isGoals = true ∨ call.isRelease = true) : FollowUps issued := by
  intro turn member
  rwa [called.only turn member]

end

/-- No request, and an error without a range. -/
def Plainly : Account α := fun _ issued result _ =>
  issued = [] ∧ ∀ error, result = .error error → error.diagnostic = none

theorem plainly_pure (value : α) : Reports project (pure value) Plainly := by
  refine (Reports.pure value).weaken ?_
  rintro live issued result live' ⟨rfl, rfl, rfl⟩
  exact ⟨rfl, nofun⟩

theorem plainly_violated (message : String) :
    Reports project (violated project message : PetM α) Plainly := by
  refine (violated_reports message).weaken ?_
  rintro live issued result live' ⟨rfl, rfl, rfl⟩
  refine ⟨rfl, ?_⟩
  rintro error ⟨⟩
  rfl

theorem Plainly.surfaced {live live' : Bool} {issued : List PetTurn} {result : Except PetError α}
    (plainly : Plainly live issued result live') : Surfaced PetError.diagnostic issued result := by
  obtain ⟨rfl, plain⟩ := plainly
  cases result with
  | ok value => exact .returned (List.forall_mem_nil _) value
  | error error => exact .own (List.forall_mem_nil _) error (plain error rfl)

theorem plainly_following {action : PetM α} (plainly : Reports project action Plainly) :
    Reports project action Following := by
  refine plainly.weaken ?_
  intro live issued result live' holds
  exact ⟨holds.surfaced, by rw [holds.1]; exact List.forall_mem_nil _⟩

theorem releaseStates_following (states : List PetStateId) :
    Reports project (releaseStates project states) Following := by
  unfold releaseStates
  split
  · exact plainly_following (plainly_pure ())
  · let settled (inner : Except PetError (PetReply PetStateId)) : Account Unit :=
      fun _ issued result _ => issued = [] ∧ inner.casesOn (fun error => result = .error error)
        fun _ => ∀ error, result = .error error → error.diagnostic = none
    have called : Reports project (callLive project (.releaseStates states) none) _ :=
      callLive_reports _ _
    refine called.attempt.bind settled (fun inner => ?_) ?_
    · cases inner with
      | error error =>
        refine (Quiet.gets _).bind fun alive => (Quiet.note _ _).bind fun _ =>
          (Reports.throw error).weaken ?_
        rintro live issued result live' ⟨rfl, rfl, rfl⟩
        exact ⟨rfl, rfl⟩
      | ok reply =>
        cases reply with
        | released known missing =>
          dsimp only
          split
          · exact plainly_pure ()
          · exact plainly_violated _
        | _ => exact plainly_violated _
    · rintro live issued inner middle issued' result live' called ⟨rfl, ended⟩
      refine ⟨?_, called.followUps (.inr rfl)⟩
      cases inner with
      | ok reply =>
        have plainly : Plainly true [] result true := ⟨rfl, ended⟩
        exact plainly.surfaced.after called.surfaced.answered
      | error error =>
        obtain rfl : result = .error error := ended
        exact called.surfaced.translate rfl

/-- The goals of a state: an error that leaves the process is that of the request. -/
def Listed : Account PetGoals := fun live issued result live' =>
  Following live issued result live' ∧ ∀ error, result = .error error → live' = true →
    ∃ turn, FirstRefusal issued turn error

theorem goals_listed (state : PetStateId) : Reports project (goals project state) Listed := by
  let decoded : Account PetGoals := fun live issued result live' =>
    Plainly live issued result live' ∧ ∀ error, result = .error error → live' = false
  have refused (message : String) :
      Reports project (violated project message : PetM PetGoals) decoded := by
    refine (violated_reports message).weaken ?_
    rintro live issued result live' ⟨rfl, rfl, rfl⟩
    refine ⟨⟨rfl, ?_⟩, fun _ _ => rfl⟩
    rintro error ⟨⟩
    rfl
  have shown (goals : PetGoals) : Reports project (pure goals : PetM PetGoals) decoded := by
    refine (Reports.pure goals).weaken ?_
    rintro live issued result live' ⟨rfl, rfl, rfl⟩
    exact ⟨⟨rfl, nofun⟩, nofun⟩
  refine .bind (fun _ => decoded) (callLive_reports (.goals state) none) (fun reply => ?_) ?_ ?_
  · cases reply with
    | null => exact shown .outsideProof
    | goals goals => exact shown { goals with proofMode := true }
    | _ => exact refused _
  · intro live issued error live' called
    refine ⟨⟨called.surfaced.translate rfl, called.followUps (.inl rfl)⟩, ?_⟩
    rintro found ⟨⟩ installed
    rcases called with ⟨_, _, gone, _⟩ | ⟨_, rfl, _⟩
    · rw [gone] at installed
      cases installed
    · exact ⟨_, rfl, [], [], rfl, List.forall_mem_nil _⟩
  · rintro live issued reply middle issued' result live' called ⟨plainly, lost⟩
    refine ⟨⟨plainly.surfaced.after called.surfaced.answered, ?_⟩, fun error failed installed => ?_⟩
    · rw [plainly.1]
      exact called.followUps (.inl rfl)
    · rw [lost error failed] at installed
      cases installed

/-- The clean-up release does not change what the refused goals have shown. -/
theorem materialize_following (state : PetStateId) (proofFinished : Bool) :
    Reports project (materialize project state proofFinished) Following := by
  let materialized : Except PetError PetGoals → Account PetExecution := fun inner =>
    inner.casesOn (CleanedUp project state) fun _ => Plainly
  refine (goals_listed state).attempt.bind materialized (fun inner => ?_) ?_
  · cases inner with
    | ok goals => exact plainly_pure _
    | error error => exact cleanedUp_reports state error
  · rintro live issued inner middle issued' result live' ⟨⟨surfaced, followUps⟩, refused⟩ ended
    cases inner with
    | ok goals =>
      have plainly : Plainly live issued' result live' := ended
      refine ⟨plainly.surfaced.after surfaced.answered, ?_⟩
      rw [plainly.1]
      exact followUps
    | error error =>
      obtain ⟨rfl, ⟨_, rfl, _⟩ | ⟨installed, outcome, rfl, _⟩⟩ := ended
      · exact ⟨surfaced.translate rfl, followUps⟩
      · obtain ⟨turn, first⟩ := refused error rfl installed
        refine ⟨.refused (first.before _) error rfl, FollowUps.append ?_ followUps⟩
        intro release member
        rw [List.mem_singleton.mp member]
        exact .inr rfl

theorem materializeRun_following (reply : PetReply PetStateId) :
    Reports project (materializeRun project reply) Following := by
  cases reply with
  | run state proofFinished feedback => exact materialize_following state proofFinished
  | _ => exact plainly_following (plainly_violated _)

/-! ### A fragment -/

abbrev Sending (project : ProjectId) (call : PetCall) (settlement : Settlement PetError α) :
    Account α :=
  fun _ => Sent PetError.diagnostic project call settlement

/-- `run`: a misplaced range ends the epoch. -/
def RunSettled (fragment : String) : Settlement PetError PetExecution
  | .ok _, rest, result, _ => Follows PetError.diagnostic rest result
  | .error error, rest, result, live' => rest = [] ∧
    if error.misplaced fragment then (∃ message, result = .error (.protocol message)) ∧ live' = false
    else result = .error error

theorem bounded_plainly (condition : Bool) (message : String) :
    Reports project (Act.ensure condition (PetError.invalid message)) Plainly := by
  have plain : Throws (fun error => PetError.diagnostic error = none)
      (Act.ensure condition (PetError.invalid message) : PetM Unit) := .ensure rfl
  refine (Reports.unasked (.ensure _ _) plain).weaken ?_
  rintro live issued result live' ⟨rfl, _, plain⟩
  exact ⟨rfl, plain⟩

/-- The bound on the size of a fragment is checked first. -/
theorem sent_bounded {call : PetCall} {action : PetM α} 
    {settlement : Settlement PetError α} {condition : Bool} {message : String}
    (sent : Reports project action (Sending project call settlement)) :
    Reports project (do
      Act.ensure condition (PetError.invalid message)
      action) (Sending project call settlement) := by
  refine .bind (fun _ => Sending project call settlement) (bounded_plainly condition message)
    (fun _ => sent) ?_ ?_
  · rintro live issued error live' ⟨rfl, plain⟩
    exact .inl ⟨rfl, error, rfl, plain error rfl⟩
  · rintro live issued value middle issued' result live' ⟨rfl, _⟩ later
    rw [List.append_nil]
    exact later

theorem run_sent (state : PetStateId) (fragment : String) (timeoutMs : Option Nat) :
    Reports project (run project state fragment timeoutMs)
      (Sending project (.run state fragment) (RunSettled fragment)) := by
  let settled (inner : Except PetError (PetReply PetStateId)) : Account PetExecution :=
    fun _ rest result live' => RunSettled fragment inner rest result live'
  have called : Reports project (callLive project (.run state fragment) timeoutMs) _ :=
    callLive_reports _ _
  refine sent_bounded (called.attempt.bind settled (fun inner => ?_) ?_)
  · cases inner with
    | ok reply => exact materializeRun_following reply
    | error error =>
      dsimp only
      split
      · rename_i misplaced
        refine (violated_reports _).weaken ?_
        rintro live issued result live' ⟨rfl, rfl, rfl⟩
        exact ⟨rfl, by rw [if_pos misplaced]; exact ⟨⟨_, rfl⟩, rfl⟩⟩
      · rename_i placed
        refine (Reports.throw error).weaken ?_
        rintro live issued result live' ⟨rfl, rfl, rfl⟩
        exact ⟨rfl, by rw [if_neg placed]⟩
  · rintro live issued inner middle rest result live' called settled
    rcases called with ⟨rfl, rfl, rfl, message, rfl⟩ | ⟨rfl, rfl, rfl⟩
    · obtain ⟨rfl, ended⟩ := settled
      rw [if_neg (by simp [PetError.misplaced])] at ended
      exact .inl ⟨rfl, _, ended, rfl⟩
    · exact .inr ⟨inner, rest, rfl, settled⟩

/-- `run_traced`: only the ranges of an embedded failure are compared with the fragment. -/
def TraceSettled (fragment : String) : Settlement PetError PetTraceOutcome
  | .ok reply, rest, result, live' => Follows PetError.diagnostic rest result ∧
    (∀ before failure, reply = .traceFailure before failure → ¬ failure.Placed fragment →
      (∃ message, result = .error (.protocol message)) ∧ live' = false) ∧
    ∀ failure, result = .ok (.failure failure) → ∀ range ∈ failure.ranges, range.Within fragment
  | .error error, rest, result, _ => rest = [] ∧ result = .error error

theorem fits_placed {failure : RawTraceFailure} {fragment : String}
    {diagnostic : Option ProofDiagnostic} (fits : failure.fits fragment = true)
    (located : failure.diagnostic? fragment = some diagnostic) :
    failure.Placed fragment ∧ ∀ range ∈ diagnostic, range.Within fragment := by
  simp only [RawTraceFailure.fits, Bool.and_eq_true, List.all_eq_true] at fits
  obtain ⟨⟨sentence, _⟩, trace⟩ := fits
  have steps : ∀ step ∈ failure.trace, validRange fragment step.byteStart step.byteEnd = true :=
    fun step member => (trace step member).1
  unfold RawTraceFailure.diagnostic? at located
  split at located
  · rename_i byteStart byteEnd starts ends
    split at located
    · rename_i valid
      cases located
      refine ⟨⟨sentence, steps, fun start stop starts' ends' => ?_⟩, ?_⟩
      · rw [starts] at starts'
        rw [ends] at ends'
        cases starts'
        cases ends'
        exact valid
      · rintro range ⟨⟩
        exact valid
    · cases located
  · rename_i starts _
    cases located
    exact ⟨⟨sentence, steps, fun _ _ starts' => by rw [starts] at starts'; cases starts'⟩, nofun⟩
  · cases located

theorem violated_settled (reply : PetReply PetStateId) (fragment message : String) :
    Reports project (violated project message : PetM PetTraceOutcome) fun _ rest result live' =>
      TraceSettled fragment (.ok reply) rest result live' := by
  refine (violated_reports message).weaken ?_
  rintro live issued result live' ⟨rfl, rfl, rfl⟩
  refine ⟨⟨.own (List.forall_mem_nil _) _ rfl, List.forall_mem_nil _⟩, ?_, nofun⟩
  intro before raw _ _
  exact ⟨⟨_, rfl⟩, rfl⟩

/-- What follows the reply to a traced run. -/
theorem traceFailure_settled (beforeState : PetStateId) (failure : RawTraceFailure)
    (fragment : String) :
    Reports project (traceFailure project beforeState failure fragment) fun _ rest result live' =>
      TraceSettled fragment (.ok (.traceFailure beforeState failure)) rest result live' := by
  unfold traceFailure
  split
  · exact violated_settled _ fragment _
  · rename_i fits
    split
    · exact violated_settled _ fragment _
    · rename_i diagnostic located
      obtain ⟨placed, within⟩ := fits_placed (by simpa using fits) located
      refine .bind _ (materialize_following beforeState false) (fun _ => .pure _) ?_ ?_
      · intro live issued error live' ⟨surfaced, followUps⟩
        exact ⟨⟨surfaced.translate rfl, followUps⟩,
          fun _ _ same misplaced => absurd placed (by cases same; exact misplaced), nofun⟩
      · rintro live issued before middle issued' result live' ⟨surfaced, followUps⟩ ⟨rfl, rfl, rfl⟩
        refine ⟨⟨.returned surfaced.answered _, followUps⟩,
          fun _ _ same misplaced => absurd placed (by cases same; exact misplaced), ?_⟩
        rintro _ ⟨⟩ range member
        rcases List.mem_append.mp member with shown | shown
        · exact within range (Option.mem_toList.mp shown)
        · rcases List.mem_cons.mp shown with rfl | traced
          · exact placed.sentence
          · obtain ⟨step, listed, rfl⟩ := List.mem_map.mp traced
            exact placed.trace step listed

theorem runTraced_sent (state : PetStateId) (fragment : String) (includeTrace : Bool)
    (timeoutMs : Option Nat) :
    Reports project (runTraced project state fragment includeTrace timeoutMs)
      (Sending project (.runTrace state fragment includeTrace) (TraceSettled fragment)) := by
  let settled (reply : PetReply PetStateId) : Account PetTraceOutcome :=
    fun _ rest result live' => TraceSettled fragment (.ok reply) rest result live'
  refine sent_bounded (.bind settled (callLive_reports _ timeoutMs) (fun reply => ?_) ?_ ?_)
  · cases reply with
    | traceSuccess exported proofFinished =>
      refine .bind _ (materialize_following exported proofFinished) (fun _ => .pure _) ?_ ?_
      · intro live issued error live' ⟨surfaced, followUps⟩
        exact ⟨⟨surfaced.translate rfl, followUps⟩, nofun, nofun⟩
      · rintro live issued execution middle issued' result live' ⟨surfaced, followUps⟩
          ⟨rfl, rfl, rfl⟩
        exact ⟨⟨.returned surfaced.answered _, followUps⟩, nofun, nofun⟩
    | traceFailure beforeState failure => exact traceFailure_settled beforeState failure fragment
    | _ => exact violated_settled _ fragment _
  · rintro live issued error live' (⟨rfl, rfl, rfl, message, same⟩ | ⟨rfl, rfl, rfl⟩)
    · exact .inl ⟨rfl, error, rfl, by cases same; rfl⟩
    · exact .inr ⟨.error error, [], rfl, rfl, rfl⟩
  · rintro live issued reply middle rest result live' called settled
    rcases called with ⟨_, _, _, _, impossible⟩ | ⟨rfl, rfl, rfl⟩
    · cases impossible
    · exact .inr ⟨.ok reply, rest, rfl, settled⟩

end PetActor

end RocqMcp
