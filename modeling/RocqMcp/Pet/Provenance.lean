import RocqMcp.Pet.Operations

/-! Where an exported state comes from: the record of requests names the state
and the fragment that it was exported for. The record only grows. -/

namespace RocqMcp

open Library

/-- The requests so far stay on record. -/
def Remembers (before after : World) : Prop :=
  ∃ turns, after.ghost.turns = turns ++ before.ghost.turns

instance : IsPreorder World Remembers where
  refl _ := ⟨[], rfl⟩
  trans _ _ _ := by
    rintro ⟨early, grown⟩ ⟨late, grown'⟩
    exact ⟨late ++ early, by rw [grown', grown, List.append_assoc]⟩

/-- No session is touched, and the requests so far stay on record. -/
structure Spares (before after : World) : Prop where
  selections : after.selections = before.selections
  turns : Remembers before after

instance : IsPreorder World Spares where
  refl world := ⟨rfl, refl_of Remembers world⟩
  trans _ _ _ first second :=
    ⟨second.selections.trans first.selections, trans_of Remembers first.turns second.turns⟩

namespace World

/-- A request to PET has ended in the given way. -/
def Told (world : World) (call : PetCall) (outcome : Except PetError (PetReply PetStateId)) :
    Prop :=
  ∃ project, { project, call, outcome } ∈ world.ghost.turns

/-- PET has exported the state at a position of a document. -/
def Opened (world : World) (state : PetStateId) (finished : Bool) : Prop :=
  ∃ path position feedback,
    world.Told (.getStateAtPos path position) (.ok (.run state finished feedback))

/-- PET has exported the state for a fragment in another state. -/
def Ran (world : World) (before : PetStateId) (fragment : String) (state : PetStateId)
    (finished : Bool) : Prop :=
  (∃ feedback, world.Told (.run before fragment) (.ok (.run state finished feedback))) ∨
    ∃ includeTrace,
      world.Told (.runTrace before fragment includeTrace) (.ok (.traceSuccess state finished))

/-- PET has reported these goals for the state. -/
def Showed (world : World) (state : PetStateId) (goals : PetGoals) : Prop :=
  (world.Told (.goals state) (.ok .null) ∧ goals = .outsideProof) ∨
    ∃ shown, world.Told (.goals state) (.ok (.goals shown)) ∧
      goals = { shown with proofMode := true }

variable {before after : World}

theorem Told.later {call : PetCall} {outcome : Except PetError (PetReply PetStateId)}
    (told : before.Told call outcome) (remembers : Remembers before after) :
    after.Told call outcome := by
  obtain ⟨turns, grown⟩ := remembers
  obtain ⟨project, member⟩ := told
  exact ⟨project, grown ▸ List.mem_append_right _ member⟩

theorem Opened.later {state : PetStateId} {finished : Bool} (opened : before.Opened state finished)
    (remembers : Remembers before after) : after.Opened state finished := by
  obtain ⟨path, position, feedback, told⟩ := opened
  exact ⟨path, position, feedback, told.later remembers⟩

theorem Ran.later {source state : PetStateId} {fragment : String} {finished : Bool}
    (ran : before.Ran source fragment state finished) (remembers : Remembers before after) :
    after.Ran source fragment state finished :=
  ran.imp (fun ⟨feedback, told⟩ => ⟨feedback, told.later remembers⟩)
    fun ⟨includeTrace, told⟩ => ⟨includeTrace, told.later remembers⟩

theorem Showed.later {state : PetStateId} {goals : PetGoals} (showed : before.Showed state goals)
    (remembers : Remembers before after) : after.Showed state goals :=
  showed.imp (fun ⟨told, same⟩ => ⟨told.later remembers, same⟩)
    fun ⟨shown, told, same⟩ => ⟨shown, told.later remembers, same⟩

end World

theorem Idle.spares {before after : World} (idle : Idle before after) : Spares before after :=
  ⟨idle.selections, idle.turns⟩

theorem spared {action : Act World ε α} (stays : Stays Idle action) : Stays Spares action :=
  stays.weaken fun _ _ idle => idle.spares

theorem sparing {action : Act World ε α} (stays : Stays Spares action) : Stays Remembers action :=
  stays.weaken fun _ _ spares => spares.turns

theorem remembered {action : Act World ε α} (stays : Stays Idle action) :
    Stays Remembers action :=
  sparing (spared stays)

/-- A fact about the record that later requests do not undo. -/
def Lasting (known : World → Prop) : Prop :=
  ∀ before after, Remembers before after → known before → known after

theorem Lasting.true : Lasting fun _ => True := fun _ _ _ _ => trivial

theorem Lasting.and {known known' : World → Prop} (left : Lasting known) (right : Lasting known') :
    Lasting fun world => known world ∧ known' world :=
  fun _ _ remembers holds => ⟨left _ _ remembers holds.1, right _ _ remembers holds.2⟩

theorem Lasting.const (fact : Prop) : Lasting fun _ => fact := fun _ _ _ holds => holds

/-- The error is not the deadline of a request. -/
def PetError.Prompt (error : PetError) : Prop := ∀ timeoutMs, error ≠ .timedOut timeoutMs

/-- The error ends the PET epoch only because the transport is lost. -/
def PetError.Plain (error : PetError) : Prop :=
  error.invalidatesProcess = true → error.isTransportLoss = true

/-- A change that leaves the record alone. -/
theorem Remembers.of_same {before after : World} (same : after.ghost.turns = before.ghost.turns) :
    Remembers before after :=
  ⟨[], same⟩

theorem Spares.of_same {before after : World} (selections : after.selections = before.selections)
    (turns : after.ghost.turns = before.ghost.turns) : Spares before after :=
  ⟨selections, .of_same turns⟩

/-- What any operation may do besides writing source files and changing sessions
stays within the relation. -/
class Frames (relation : World → World → Prop) : Prop extends IsPreorder World relation where
  idle : ∀ before after, Idle before after → relation before after
  setRuntime : ∀ world project runtime, relation world (World.setRuntime world project runtime)
  record : ∀ world event, relation world (World.record world event)
  recordTurn : ∀ world turn, relation world (World.recordTurn world turn)
  recordChange : ∀ world project, relation world (World.recordChange world project)
  recordSplice : ∀ world splice, relation world (World.recordSplice world splice)

section

variable {relation : World → World → Prop} [Frames relation]

theorem framed {action : Act World ε α} (stays : Stays Idle action) : Stays relation action :=
  stays.weaken Frames.idle

theorem Frames.setActor (world : World) (project : ProjectId) (actor : PetActor) :
    relation world (world.setActor project actor) :=
  Frames.setRuntime world project _

end

instance : Frames Spares where
  idle _ _ idle := idle.spares
  setRuntime _ _ _ := .of_same rfl rfl
  record _ _ := .of_same rfl rfl
  recordTurn _ _ := ⟨rfl, [_], rfl⟩
  recordChange _ _ := .of_same rfl rfl
  recordSplice _ _ := .of_same rfl rfl

namespace PetActor

section

variable {relation : World → World → Prop} [Frames relation] (project : ProjectId)

theorem discard_framed : Stays relation (discard project : Act World ε Unit) :=
  .modify fun world => Frames.setActor world project _

theorem fail_framed (error : PetError) : Stays relation (fail project error : PetM α) :=
  .bind (.when _ (discard_framed project)) fun _ => .throw error

theorem violated_framed (message : String) :
    Stays relation (violated project message : PetM α) :=
  fail_framed project _

theorem orDiscard_framed {action : PetM α} (stays : Stays relation action) :
    Stays relation (orDiscard project action) := by
  refine .bind (.attempt stays) fun result => ?_
  cases result with
  | ok value => exact .pure value
  | error error => exact fail_framed project error

theorem recordTurn_framed (call : PetCall) (outcome : Except PetError (PetReply PetStateId)) :
    Stays relation (recordTurn project call outcome : Act World ε Unit) :=
  .modify fun world => Frames.recordTurn world _

theorem rpc_framed (process : PetProcess) (call : PetCall) (timeoutMs : Option Nat) :
    Stays relation (rpc project process call timeoutMs) := by
  refine .bind (.attempt (framed (exchange_idle call timeoutMs))) fun result => ?_
  cases result with
  | error error => exact .bind (recordTurn_framed project call _) fun _ => .throw error
  | ok reply =>
    exact .bind (.gets _) fun _ => .bind (recordTurn_framed project call _) fun _ =>
      .bind (.modify fun world => Frames.setActor world project _) fun _ => .pure _

theorem callLive_framed (call : PetCall) (timeoutMs : Option Nat) :
    Stays relation (callLive project call timeoutMs) := by
  refine .bind (.gets _) fun found => ?_
  cases found with
  | none => exact .throw _
  | some process => exact orDiscard_framed project (rpc_framed project process call timeoutMs)

theorem bestEffort_framed {action : Act World ε α} (stays : Stays relation action) :
    Stays relation (bestEffort project action : Act World ε' (Except ε α)) :=
  .bind (.gets _) fun _ => .bind (.attempt stays) fun _ => .bind (.gets _) fun _ =>
    .bind (framed (noteWhen_idle _ _)) fun _ => .pure _

theorem releaseStates_framed (states : List PetStateId) :
    Stays relation (releaseStates project states) := by
  refine .ite (fun _ => .pure ()) fun _ => .bind (.attempt (callLive_framed project _ _))
    fun result => ?_
  cases result with
  | error error =>
    exact .bind (.gets _) fun _ => .bind (framed (noteWhen_idle _ _)) fun _ => .throw error
  | ok reply =>
    cases reply with
    | released count absent => exact .ite (fun _ => .pure ()) fun _ => violated_framed project _
    | _ => exact violated_framed project _

theorem goals_framed (state : PetStateId) : Stays relation (goals project state) := by
  refine .bind (callLive_framed project _ _) fun reply => ?_
  cases reply with
  | null | goals => exact .pure _
  | _ => exact violated_framed project _

theorem materialize_framed (state : PetStateId) (proofFinished : Bool) :
    Stays relation (materialize project state proofFinished) := by
  refine .bind (.attempt (goals_framed project state)) fun result => ?_
  cases result with
  | ok goals => exact .pure _
  | error error =>
    exact .bind (bestEffort_framed project (releaseStates_framed project _)) fun _ =>
      .throw error

theorem materializeRun_framed (reply : PetReply PetStateId) :
    Stays relation (materializeRun project reply) := by
  cases reply with
  | run => exact materialize_framed project _ _
  | _ => exact violated_framed project _

theorem run_framed (state : PetStateId) (fragment : String) (timeoutMs : Option Nat) :
    Stays relation (run project state fragment timeoutMs) := by
  refine .bind (.ensure _ _) fun _ => .bind (.attempt (callLive_framed project _ _))
    fun result => ?_
  cases result with
  | ok reply => exact materializeRun_framed project reply
  | error error => exact .ite (fun _ => violated_framed project _) fun _ => .throw error

theorem discard_remembers : Stays Remembers (discard project : Act World ε Unit) :=
  sparing (discard_framed project)

theorem callLive_remembers (call : PetCall) (timeoutMs : Option Nat) :
    Stays Remembers (callLive project call timeoutMs) :=
  sparing (callLive_framed project call timeoutMs)

theorem releaseStates_remembers (states : List PetStateId) :
    Stays Remembers (releaseStates project states) :=
  sparing (releaseStates_framed project states)

theorem run_remembers (state : PetStateId) (fragment : String) (timeoutMs : Option Nat) :
    Stays Remembers (run project state fragment timeoutMs) :=
  sparing (run_framed project state fragment timeoutMs)

/-- The error of a call is on record, if it is a deadline. -/
def Deadline (call : PetCall) (error : PetError) (world : World) : Prop :=
  ∀ timeoutMs, error = .timedOut timeoutMs → world.Told call (.error error)

theorem rpc_told (process : PetProcess) (call : PetCall) (timeoutMs : Option Nat)
    {before : World → Prop} :
    Triple before (rpc project process call timeoutMs)
      (fun reply world => world.Told call (.ok reply))
      fun error world => world.Told call (.error error) := by
  refine .bind (.attempt .trivial) fun result => ?_
  cases result with
  | error error => exact fun world _ => ⟨project, List.mem_cons_self⟩
  | ok reply => exact fun world _ => ⟨project, List.mem_cons_self⟩

theorem fail_told (call : PetCall) (error : PetError) {after : α → World → Prop} :
    Triple (fun world => world.Told call (.error error)) (fail project error) after (Deadline call) := by
  intro world told
  cases invalidates : error.invalidatesProcess with
  | true =>
    simp only [fail, poisonIfInvalidated, invalidates, Act.when, if_true]
    have discarded : Stays Remembers (discard project : PetM Unit) := discard_remembers project
    exact fun _ _ => told.later (discarded world)
  | false =>
    simp only [fail, poisonIfInvalidated, invalidates, Act.when]
    exact fun _ _ => told

theorem callLive_told (call : PetCall) (timeoutMs : Option Nat) {before : World → Prop} :
    Triple before (callLive project call timeoutMs)
      (fun reply world => world.Told call (.ok reply)) (Deadline call) := by
  refine .bind (.gets _) fun found => ?_
  cases found with
  | none => exact .throw fun _ _ _ => nofun
  | some process =>
    refine .bind (.attempt (rpc_told project process call timeoutMs)) fun result => ?_
    cases result with
    | ok reply => exact .pure fun _ told => told
    | error error =>
      exact fail_told project call error

variable {known : World → Prop} {before : World → Prop} (lasting : Lasting known)

include lasting

theorem callLive_knowing (call : PetCall) (timeoutMs : Option Nat) :
    Triple known (callLive project call timeoutMs)
      (fun reply world => known world ∧ world.Told call (.ok reply)) (Deadline call) :=
  (Triple.both ((callLive_remembers project call timeoutMs).keeps lasting)
    (callLive_told project call timeoutMs)).weaken (fun _ holds => ⟨holds, holds⟩)
      (fun _ _ holds => holds) fun _ _ holds => holds.2

omit lasting

/-- No error of the action is a deadline. -/
def Prompts (action : PetM α) : Prop :=
  Triple (fun _ => True) action (fun _ _ => True) fun error _ => error.Prompt

theorem exchange_prompts (call : PetCall) : Prompts (exchange call none) := by
  have throws : Throws PetError.Prompt (exchange call none) := by
    refine .bind tick_throws fun tick => .bind (.gets _) fun _ => .bind (.ensure nofun) fun _ =>
      .ofExcept ?_
    intro error failed
    unfold Tick.outcome at failed
    cases expired : tick.expired <;> cases asked : tick.rpc call <;>
      · simp only [expired, asked] at failed
        cases failed
        try exact nofun
  exact (throws.triple .trivial).weaken (fun _ holds => holds) (fun _ _ holds => holds)
    fun _ _ holds => holds.2

theorem fail_prompt {error : PetError} {after : α → World → Prop} :
    Triple (fun _ => error.Prompt) (fail project error) after fun thrown _ => thrown.Prompt := by
  intro world prompt
  unfold fail poisonIfInvalidated
  cases error.invalidatesProcess <;> exact prompt

theorem violated_prompt (message : String) {after : α → World → Prop} :
    Triple before (violated project message) after fun error _ => error.Prompt :=
  (fail_prompt project).weaken (fun _ _ => nofun) (fun _ _ holds => holds) fun _ _ holds => holds

/-- A best-effort call does not fail. -/
theorem bestEffort_fact {fact : Prop} (action : Act World ε α) {failed : ε' → World → Prop} :
    Triple (fun _ => fact) (bestEffort project action) (fun _ _ => fact) failed :=
  .bind ((Triple.gets _).weaken (fun _ holds => holds) (fun _ _ holds => holds.1)
    fun _ _ holds => holds) fun _ => .bind .attempt_fact fun _ =>
      .bind ((Triple.gets _).weaken (fun _ holds => holds) (fun _ _ holds => holds.1)
        fun _ _ holds => holds) fun _ => .bind (noteWhen_keeps fun _ _ _ holds => holds) fun _ =>
          .pure fun _ holds => holds

theorem callLive_prompts (call : PetCall) : Prompts (callLive project call) := by
  refine .bind (.gets _) fun found => ?_
  cases found with
  | none => exact .throw fun _ _ => nofun
  | some process =>
    have asked : Prompts (rpc project process call none) := by
      refine .bind (.attempt (exchange_prompts call)) fun result => ?_
      cases result with
      | ok reply => exact fun _ _ => trivial
      | error error => exact fun _ prompt => prompt
    refine .bind (.attempt (asked.weaken (fun _ _ => trivial) (fun _ _ holds => holds)
      fun _ _ holds => holds)) fun result => ?_
    cases result with
    | ok reply => exact .pure fun _ holds => holds
    | error error =>
      exact fail_prompt project

/-- No error of the action is a cancellation or a deadline, once the request has
committed. -/
def Plains (action : PetM α) : Prop :=
  Triple (fun world => world.signal = .committed) action (fun _ _ => True)
    fun error _ => error.Plain

theorem exchange_plains (call : PetCall) : Plains (exchange call none) := by
  refine .bind (tick_throws.safe (tick_idle.keeps fun _ _ idle => idle.committed)) fun tick => ?_
  refine .through (fun cancelled _ => cancelled = false) ?_ fun cancelled => ?_
  · intro world committed
    simp only [Act.gets, committed, Signal.isCancelled]
  · refine .through (fun _ _ => True) (.ensure (fun _ _ _ => trivial) ?_) fun _ => ?_
    · rintro rejected _ rfl
      cases rejected
    · refine (Triple.ofExcept _).weaken (fun _ holds => holds) (fun _ _ _ => trivial) ?_
      rintro error _ ⟨_, failed⟩ invalidates
      unfold Tick.outcome at failed
      cases expired : tick.expired <;> cases asked : tick.rpc call <;>
        · simp only [expired, asked] at failed
          cases failed
          try exact rfl
          try cases invalidates

theorem fail_plain {error : PetError} {after : α → World → Prop} :
    Triple (fun _ => error.Plain) (fail project error) after fun thrown _ => thrown.Plain := by
  intro world plain
  unfold fail poisonIfInvalidated
  cases error.invalidatesProcess <;> exact plain

theorem callLive_plains (call : PetCall) : Plains (callLive project call) := by
  refine .bind (.gets _) fun found => ?_
  cases found with
  | none => exact .throw fun _ _ _ => rfl
  | some process =>
    have asked : Plains (rpc project process call none) := by
      refine .bind (.attempt (exchange_plains call)) fun result => ?_
      cases result with
      | ok reply => exact fun _ _ => trivial
      | error error => exact fun _ plain => plain
    refine .bind (.attempt (asked.weaken (fun _ holds => holds.1) (fun _ _ holds => holds)
      fun _ _ holds => holds)) fun result => ?_
    cases result with
    | ok reply => exact .pure fun _ holds => holds
    | error error => exact fail_plain project

theorem releaseStates_plains (states : List PetStateId) : Plains (releaseStates project states) := by
  refine .ite (fun _ => .pure fun _ _ => trivial) fun _ =>
    .bind (.attempt (callLive_plains project _)) fun result => ?_
  have violating (message : String) : Triple (fun _ => True) (violated project message : PetM Unit)
      (fun _ _ => True) fun error _ => error.Plain :=
    (fail_plain project).weaken (fun _ _ _ => rfl) (fun _ _ holds => holds) fun _ _ holds => holds
  cases result with
  | error error =>
    refine .bind (.gets _) fun alive => .through (fun _ _ => error.Plain) ?_ fun _ =>
      .throw fun _ plain => plain
    exact noteWhen_keeps fun _ _ _ holds => holds.1
  | ok reply =>
    cases reply with
    | released count absent => exact .ite (fun _ => .pure fun _ _ => trivial) fun _ => violating _
    | _ => exact violating _

variable {project}

/-- The goals of a state, as PET has reported them. -/
theorem goals_showed (lasting : Lasting known) (state : PetStateId) :
    Triple known (goals project state)
      (fun goals world => known world ∧ world.Showed state goals) fun error _ => error.Prompt := by
  refine .bind ((Triple.both (callLive_knowing project lasting (.goals state) none)
    (callLive_prompts project _)).weaken (fun _ holds => ⟨holds, trivial⟩)
      (fun _ _ holds => holds.1) fun _ _ holds => holds.2) fun reply => ?_
  cases reply with
  | null => exact .pure fun _ ⟨holds, told⟩ => ⟨holds, .inl ⟨told, rfl⟩⟩
  | goals shown => exact .pure fun _ ⟨holds, told⟩ => ⟨holds, .inr ⟨shown, told, rfl⟩⟩
  | _ => exact violated_prompt project _

theorem materialize_showed (lasting : Lasting known) (state : PetStateId) (proofFinished : Bool) :
    Triple known (materialize project state proofFinished)
      (fun execution world => known world ∧ world.Showed state execution.goals ∧
        execution.state = state ∧ execution.proofFinished = proofFinished)
      fun error _ => error.Prompt := by
  refine .bind (.attempt (goals_showed lasting state)) fun result => ?_
  cases result with
  | ok goals => exact .pure fun _ ⟨holds, showed⟩ => ⟨holds, showed, rfl, rfl⟩
  | error error =>
    exact .bind (bestEffort_fact project _) fun _ => .throw fun _ prompt => prompt

theorem materializeRun_showed (known : PetReply PetStateId → World → Prop)
    (lasting : ∀ reply, Lasting (known reply)) (reply : PetReply PetStateId) :
    Triple (known reply) (materializeRun project reply)
      (fun execution world => world.Showed execution.state execution.goals ∧
        ∃ feedback, known (.run execution.state execution.proofFinished feedback) world)
      fun error _ => error.Prompt := by
  cases reply with
  | run state proofFinished feedback =>
    refine (materialize_showed (lasting _) state proofFinished).weaken (fun _ holds => holds) ?_
      fun _ _ prompt => prompt
    rintro execution world ⟨holds, showed, rfl, rfl⟩
    exact ⟨showed, feedback, holds⟩
  | _ => exact violated_prompt project _

theorem stateAt_opened (workspace : PetWorkspace) (source : PetSource) (offset : Nat) :
    Triple before (stateAt project workspace source offset)
      (fun execution world => world.Opened execution.state execution.proofFinished ∧
        world.Showed execution.state execution.goals) fun _ _ => True := by
  refine .bind .trivial fun text => .bind .trivial fun position => .bind (.bind .trivial fun _ =>
    (callLive_told project (.getStateAtPos source.path position) none).weaken (fun _ holds => holds)
      (fun _ _ told => told) fun _ _ _ => trivial) fun reply => ?_
  refine (materializeRun_showed
    (fun reply world => world.Told (.getStateAtPos source.path position) (.ok reply))
    (fun _ _ _ remembers told => told.later remembers) reply).weaken (fun _ holds => holds) ?_
      fun _ _ _ => trivial
  rintro execution world ⟨showed, feedback, told⟩
  exact ⟨⟨source.path, position, feedback, told⟩, showed⟩

theorem run_ran (state : PetStateId) (fragment : String) (timeoutMs : Option Nat) :
    Triple before (run project state fragment timeoutMs)
      (fun execution world =>
        world.Ran state fragment execution.state execution.proofFinished ∧
          world.Showed execution.state execution.goals) fun _ _ => True := by
  refine .bind .trivial fun _ => .bind (.attempt (callLive_told project (.run state fragment) _))
    fun result => ?_
  cases result with
  | error error => exact .ite (fun _ => (violated_prompt project _).weaken (fun _ holds => holds)
      (fun _ _ holds => holds) fun _ _ _ => trivial) fun _ => .throw fun _ _ => trivial
  | ok reply =>
    refine (materializeRun_showed (fun reply world => world.Told (.run state fragment) (.ok reply))
      (fun _ _ _ remembers told => told.later remembers) reply).weaken (fun _ holds => holds) ?_
        fun _ _ _ => trivial
    rintro execution world ⟨showed, feedback, told⟩
    exact ⟨.inl ⟨feedback, told⟩, showed⟩

/-- The outcome of a traced run is what PET has answered to it. -/
def Traced (state : PetStateId) (fragment : String) (includeTrace : Bool)
    (outcome : PetTraceOutcome) (world : World) : Prop :=
  match outcome with
  | .success execution =>
    world.Told (.runTrace state fragment includeTrace)
      (.ok (.traceSuccess execution.state execution.proofFinished)) ∧
      world.Showed execution.state execution.goals
  | .failure failed => ∃ before failure diagnostic goals,
    world.Told (.runTrace state fragment includeTrace) (.ok (.traceFailure before failure)) ∧
      world.Showed before goals ∧ failure.fits fragment = true ∧
      failure.diagnostic? fragment = some diagnostic ∧
      failed = {
        error := .remote failure.code (.fromCode failure.code) failure.message diagnostic
        sentenceIndex := failure.sentenceIndex
        sentenceRange := { byteStart := failure.sentenceStart, byteEnd := failure.sentenceEnd }
        beforeState := before
        beforeGoals := goals
        trace := failure.trace }

theorem runTraced_traced (state : PetStateId) (fragment : String) (includeTrace : Bool)
    (timeoutMs : Option Nat) :
    Triple before (runTraced project state fragment includeTrace timeoutMs)
      (Traced state fragment includeTrace) (Deadline (.runTrace state fragment includeTrace)) := by
  refine .bind ((Triple.ensure (fun _ _ _ => trivial) fun _ _ _ => nofun : Triple before _
    (fun _ _ => True) _)) fun _ => .bind (callLive_told project _ _) fun reply => ?_
  cases reply with
  | traceSuccess exported proofFinished =>
    refine .bind ((materialize_showed (fun _ _ remembers told => World.Told.later told remembers)
      exported proofFinished).weaken (fun _ told => told) (fun _ _ holds => holds)
        fun error _ prompt timeoutMs late => absurd late (prompt timeoutMs)) fun execution => ?_
    refine .pure ?_
    rintro world ⟨told, showed, rfl, rfl⟩
    exact ⟨told, showed⟩
  | traceFailure exported failure =>
    refine .ite (fun _ => ?_) fun fits => ?_
    · exact (violated_prompt project _).weaken (fun _ holds => holds) (fun _ _ holds => holds)
        fun error _ prompt timeoutMs late => absurd late (prompt timeoutMs)
    · split
      · exact (violated_prompt project _).weaken (fun _ holds => holds) (fun _ _ holds => holds)
          fun error _ prompt timeoutMs late => absurd late (prompt timeoutMs)
      · rename_i diagnostic placed
        refine .bind ((materialize_showed (fun _ _ remembers told => World.Told.later told remembers)
          exported false).weaken (fun _ told => told) (fun _ _ holds => holds)
            fun error _ prompt timeoutMs late => absurd late (prompt timeoutMs)) fun shown => .pure ?_
        rintro world ⟨told, showed, rfl, -⟩
        exact ⟨_, failure, diagnostic, _, told, showed, by simpa using fits, placed, rfl⟩
  | _ =>
    exact (violated_prompt project _).weaken (fun _ holds => holds) (fun _ _ holds => holds)
      fun error _ prompt timeoutMs late => absurd late (prompt timeoutMs)

end

end PetActor

end RocqMcp
