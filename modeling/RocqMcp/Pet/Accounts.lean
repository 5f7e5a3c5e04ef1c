import RocqMcp.Pet.Provenance

/-! What a method of `PetActor` returns against what its requests have done to
the process. The only error that a method swallows is that of a clean-up release. -/

namespace RocqMcp

open Library

/-- Requests and processes are as before. -/
structure Unasked (before after : World) : Prop where
  projects : after.projects = before.projects
  turns : after.ghost.turns = before.ghost.turns

instance : IsPreorder World Unasked where
  refl _ := ⟨rfl, rfl⟩
  trans _ _ _ first second :=
    ⟨second.projects.trans first.projects, second.turns.trans first.turns⟩

theorem World.edit_unasked (world : World) (edit : Edit) : Unasked world (world.edit edit) := by
  unfold World.edit
  dsimp only
  split
  · exact ⟨rfl, rfl⟩
  · exact ⟨rfl, rfl⟩

theorem World.edits_unasked (world : World) (edits : List Edit) : Unasked world (world.edits edits) := by
  induction edits generalizing world with
  | nil => exact ⟨rfl, rfl⟩
  | cons edit rest ih => exact trans_of Unasked (world.edit_unasked edit) (ih (world.edit edit))

theorem tick_unasked : Stays Unasked (tick : Act World ε Tick) := by
  intro world
  let tick := world.environment.tick world.now
  let later := { world with now := world.now + 1, signal := world.signal.receive tick.arrival }
  have moved : Unasked world later := ⟨rfl, rfl⟩
  exact trans_of Unasked moved (later.edits_unasked tick.edits)

theorem exchange_unasked (call : PetCall) (timeoutMs : Option Nat) :
    Stays Unasked (exchange call timeoutMs) :=
  .bind tick_unasked fun _ => .bind (.gets _) fun _ => .bind (.ensure _ _) fun _ => .ofExcept _

/-- What an action does, by whether a process is installed before and after it
and by its requests, the last one first. -/
abbrev Account (α : Type) := Bool → List PetTurn → Except PetError α → Bool → Prop

def Reports (project : ProjectId) (action : PetM α) (account : Account α) : Prop :=
  ∀ world, ∃ issued, (action world).2.ghost.turns = issued ++ world.ghost.turns ∧
    account (world.process project).isSome issued (action world).1
      ((action world).2.process project).isSome

namespace Reports

variable {project : ProjectId} {α β : Type}

theorem weaken {action : PetM α} {account wider : Account α} (reports : Reports project action account)
    (implied : ∀ live issued result live', account live issued result live' →
      wider live issued result live') : Reports project action wider := by
  intro world
  obtain ⟨issued, turns, holds⟩ := reports world
  exact ⟨issued, turns, implied _ _ _ _ holds⟩

theorem bind {action : PetM α} {next : α → PetM β} {early : Account α} {account : Account β}
    (late : α → Account β) (first : Reports project action early)
    (second : ∀ value, Reports project (next value) (late value))
    (failed : ∀ live issued error live', early live issued (.error error) live' →
      account live issued (.error error) live')
    (done : ∀ live issued value middle issued' result live', early live issued (.ok value) middle →
      late value middle issued' result live' → account live (issued' ++ issued) result live') :
    Reports project (action >>= next) account := by
  intro world
  obtain ⟨issued, turns, holds⟩ := first world
  change ∃ issued, (Act.bind action next world).2.ghost.turns = issued ++ world.ghost.turns ∧
    account (world.process project).isSome issued (Act.bind action next world).1
      ((Act.bind action next world).2.process project).isSome
  unfold Act.bind
  rcases ran : action world with ⟨result, world'⟩
  rw [ran] at turns holds
  cases result with
  | error error => exact ⟨issued, turns, failed _ _ _ _ holds⟩
  | ok value =>
    obtain ⟨issued', turns', holds'⟩ := second value world'
    refine ⟨issued' ++ issued, ?_, done _ _ _ _ _ _ _ holds holds'⟩
    rw [turns', turns, List.append_assoc]

theorem pure (value : α) : Reports project (Pure.pure value) fun live issued result live' =>
    issued = [] ∧ result = .ok value ∧ live' = live :=
  fun _ => ⟨[], rfl, rfl, rfl, rfl⟩

theorem throw (error : PetError) : Reports project (Act.throw error : PetM α)
    fun live issued result live' => issued = [] ∧ result = .error error ∧ live' = live :=
  fun _ => ⟨[], rfl, rfl, rfl, rfl⟩

/-- An action that leaves requests and processes as they are. -/
theorem unasked {action : PetM α} {allowed : PetError → Prop} (stays : Stays Unasked action)
    (throws : Throws allowed action) : Reports project action fun live issued result live' =>
      issued = [] ∧ live' = live ∧ ∀ error, result = .error error → allowed error := by
  intro world
  have same := stays world
  refine ⟨[], same.turns, rfl, ?_, fun error failed => throws world error failed⟩
  rw [World.process, World.actor, same.projects]
  rfl

end Reports

/-- An action that does not fail, with what its value says. -/
def Returns (project : ProjectId) (action : PetM α)
    (account : α → Bool → List PetTurn → Bool → Prop) : Prop :=
  Reports project action fun live issued result live' =>
    ∃ value, result = .ok value ∧ account value live issued live'

/-- An action that returns, with requests and process as before. -/
abbrev Quiet (project : ProjectId) (action : PetM α) : Prop :=
  Returns project action fun _ live issued live' => issued = [] ∧ live' = live

section

variable {project : ProjectId} {α β : Type}

theorem Returns.bind {action : PetM α} {next : α → PetM β}
    {early : α → Bool → List PetTurn → Bool → Prop} {account : Account β} (late : α → Account β)
    (first : Returns project action early)
    (second : ∀ value, Reports project (next value) (late value))
    (done : ∀ live issued value middle issued' result live', early value live issued middle →
      late value middle issued' result live' → account live (issued' ++ issued) result live') :
    Reports project (action >>= next) account := by
  refine .bind late first second ?_ ?_
  · rintro live issued error live' ⟨value, impossible, _⟩
    cases impossible
  · rintro live issued value middle issued' result live' ⟨found, same, holds⟩ ended
    obtain rfl := Except.ok.inj same
    exact done _ _ _ _ _ _ _ holds ended

/-- What follows an action without effect gives the account. -/
theorem Quiet.bind {action : PetM α} {next : α → PetM β} {account : Account β}
    (quiet : Quiet project action) (second : ∀ value, Reports project (next value) account) :
    Reports project (action >>= next) account := by
  refine Returns.bind (fun _ => account) quiet second ?_
  rintro live issued value middle issued' result live' ⟨rfl, rfl⟩ ended
  rwa [List.append_nil]

theorem Quiet.gets (read : World → α) : Quiet project (Act.gets read : PetM α) :=
  fun _ => ⟨[], rfl, _, rfl, rfl, rfl⟩

theorem Quiet.note (condition : Bool) (mishap : Mishap) :
    Quiet project (noteWhen condition mishap : PetM Unit) := by
  intro world
  cases condition with
  | true => exact ⟨[], rfl, _, rfl, rfl, rfl⟩
  | false => exact ⟨[], rfl, _, rfl, rfl, rfl⟩

/-- The installed process is read. -/
theorem Reports.process {next : Option PetProcess → PetM β} {account : Account β}
    (second : ∀ found, Reports project (next found) fun live issued result live' =>
      found.isSome = live → account live issued result live') :
    Reports project ((Act.gets fun world => world.process project) >>= next) account := by
  have read : Returns project (Act.gets fun world => world.process project)
      fun found live issued live' => issued = [] ∧ live' = live ∧ found.isSome = live :=
    fun _ => ⟨[], rfl, _, rfl, rfl, rfl, rfl⟩
  refine read.bind _ second ?_
  rintro live issued found middle issued' result live' ⟨rfl, rfl, known⟩ ended
  rw [List.append_nil]
  exact ended known

theorem Reports.attempt {action : PetM α} {account : Account α}
    (reports : Reports project action account) :
    Returns project (Act.attempt action : PetM (Except PetError α))
      fun inner live issued live' => account live issued inner live' := by
  intro world
  obtain ⟨issued, turns, holds⟩ := reports world
  exact ⟨issued, turns, _, rfl, holds⟩

end

/-- The process is installed after the result of a call to it. -/
def keepsProcess : Except PetError α → Bool
  | .ok _ => true
  | .error error => !error.invalidatesProcess

/-- The reply to a release that accounts for every state. -/
def PetReply.accountsFor (count : Nat) : PetReply State → Bool
  | .released known missing => known + missing = count
  | _ => false

/-- The process is installed after a release with this outcome. -/
def keepsAfterRelease (count : Nat) : Except PetError (PetReply State) → Bool
  | .ok reply => reply.accountsFor count
  | .error error => !error.invalidatesProcess

def PetCall.isGoals : PetCall → Bool
  | .goals _ => true
  | _ => false

def PetCall.isRelease : PetCall → Bool
  | .releaseStates _ => true
  | _ => false

section

variable {α β : Type} {live live' middle : Bool} {issued issued' : List PetTurn}
  {result : Except PetError α}

/-- A process lost between is reported as lost, and what is reported as lost is not kept. -/
def Sincere (live : Bool) (result : Except PetError α) (live' : Bool) : Prop :=
  (live = true → live' = false →
    ∃ error, result = .error error ∧ error.invalidatesProcess = true) ∧
  ∀ error, result = .error error → error.invalidatesProcess = true → live' = false

/-- The last two requests: the goals of a state are refused without ending the
epoch, and the release of the state that follows loses the process. -/
def LosesCleanup (issued : List PetTurn) : Prop :=
  ∃ project state error outcome earlier,
    issued = { project, call := .releaseStates [state], outcome } ::
      { project, call := .goals state, outcome := .error error } :: earlier ∧
    error.invalidatesProcess = false ∧ keepsAfterRelease 1 outcome = false

/-- A part of a method without goals and releases. -/
structure Smooth (live : Bool) (issued : List PetTurn) (result : Except PetError α)
    (live' : Bool) : Prop where
  sincere : Sincere live result live'
  plain : ∀ turn ∈ issued, turn.call.isGoals = false ∧ turn.call.isRelease = false

/-- How a method ends: sincerely, or after a clean-up release. -/
inductive Ended (live : Bool) (issued : List PetTurn) (result : Except PetError α)
    (live' : Bool) : Prop where
  | sincere (holds : Sincere live result live')
      (quiet : (∀ turn ∈ issued, turn.call.isRelease = false) ∨
        ∀ turn ∈ issued, turn.call.isGoals = false)
  | cleaned (project : ProjectId) (state : PetStateId) (error : PetError)
      (outcome : Except PetError (PetReply PetStateId)) (earlier : List PetTurn)
      (last : issued = { project, call := .releaseStates [state], outcome } ::
        { project, call := .goals state, outcome := .error error } :: earlier)
      (mild : error.invalidatesProcess = false) (returned : result = .error error)
      (kept : live' = keepsAfterRelease 1 outcome)

theorem Sincere.ok {value : α} (kept : live = true → live' = true) :
    Sincere live (.ok value : Except PetError α) live' := by
  refine ⟨fun before after => ?_, nofun⟩
  rw [kept before] at after
  cases after

/-- A violation of the protocol leaves no process. -/
theorem Sincere.violated (message : String) :
    Sincere live (.error (.protocol message) : Except PetError α) false :=
  ⟨fun _ _ => ⟨_, rfl, rfl⟩, fun _ _ _ => rfl⟩

theorem Sincere.kept {value : α} (sincere : Sincere live (.ok value : Except PetError α) live')
    (before : live = true) : live' = true := by
  cases after : live' with
  | true => rfl
  | false =>
    obtain ⟨error, impossible, _⟩ := sincere.1 before after
    cases impossible

theorem Sincere.later (sincere : Sincere middle result live') (kept : live = true → middle = true) :
    Sincere live result live' :=
  ⟨fun before => sincere.1 (kept before), sincere.2⟩

theorem Sincere.retype {error : PetError}
    (sincere : Sincere live (.error error : Except PetError α) live') :
    Sincere live (.error error : Except PetError β) live' := by
  constructor
  · intro before after
    obtain ⟨found, same, invalidates⟩ := sincere.1 before after
    cases same
    exact ⟨error, rfl, invalidates⟩
  · rintro found ⟨⟩ invalidates
    exact sincere.2 error rfl invalidates

/-- Without requests. -/
theorem Sincere.silent (sincere : Sincere live result live') : Smooth live [] result live' :=
  ⟨sincere, List.forall_mem_nil _⟩

theorem Smooth.ended (smooth : Smooth live issued result live') : Ended live issued result live' :=
  .sincere smooth.sincere (.inl fun turn member => (smooth.plain turn member).2)

/-- A smooth start does not change how the rest ends. -/
theorem Smooth.ended_after {value : β} {result : Except PetError α}
    (early : Smooth live issued (.ok value : Except PetError β) middle)
    (late : Ended middle issued' result live') : Ended live (issued' ++ issued) result live' := by
  cases late with
  | sincere holds quiet =>
    refine .sincere (holds.later early.sincere.kept) (quiet.imp ?_ ?_)
    · intro none turn member
      rcases List.mem_append.mp member with last | first
      · exact none turn last
      · exact (early.plain turn first).2
    · intro none turn member
      rcases List.mem_append.mp member with last | first
      · exact none turn last
      · exact (early.plain turn first).1
  | cleaned project state error outcome earlier last mild returned kept =>
    subst last
    exact .cleaned project state error outcome (earlier ++ issued) rfl mild returned kept

/-- The method is sincere unless its clean-up release loses the process. -/
theorem Ended.sincere_iff (ended : Ended live issued result live') :
    Sincere live result live' ↔ ¬ (live = true ∧ LosesCleanup issued) := by
  cases ended with
  | sincere holds quiet =>
    refine iff_of_true holds ?_
    rintro ⟨_, project, state, error, outcome, earlier, rfl, _, _⟩
    rcases quiet with quiet | quiet
    · exact absurd (quiet _ List.mem_cons_self) (by simp [PetCall.isRelease])
    · exact absurd (quiet _ (List.mem_cons_of_mem _ List.mem_cons_self)) (by simp [PetCall.isGoals])
  | cleaned project state error outcome earlier last mild returned kept =>
    subst last returned kept
    constructor
    · rintro sincere ⟨before, _, _, _, _, _, same, _, lost⟩
      cases same
      obtain ⟨found, same, invalidates⟩ := sincere.1 before lost
      cases same
      rw [mild] at invalidates
      cases invalidates
    · intro spared
      constructor
      · intro before lost
        exact absurd ⟨before, project, state, error, outcome, earlier, rfl, mild, lost⟩ spared
      · rintro found ⟨⟩ invalidates
        rw [mild] at invalidates
        cases invalidates

end

namespace Reports

variable {project : ProjectId} {α β : Type}

theorem smooth_bind {action : PetM α} {next : α → PetM β} (first : Reports project action Smooth)
    (second : ∀ value, Reports project (next value) Smooth) :
    Reports project (action >>= next) Smooth := by
  refine .bind (fun _ => Smooth) first second ?_ ?_
  · intro live issued error live' smooth
    exact ⟨smooth.sincere.retype, smooth.plain⟩
  · intro live issued value middle issued' result live' early late
    refine ⟨late.sincere.later early.sincere.kept, fun turn member => ?_⟩
    rcases List.mem_append.mp member with last | first
    · exact late.plain turn last
    · exact early.plain turn first

theorem ended_bind {action : PetM α} {next : α → PetM β} (first : Reports project action Smooth)
    (second : ∀ value, Reports project (next value) Ended) :
    Reports project (action >>= next) Ended := by
  refine .bind (fun _ => Ended) first second ?_ ?_
  · intro live issued error live' smooth
    exact .sincere smooth.sincere.retype (.inl fun turn member => (smooth.plain turn member).2)
  · intro live issued value middle issued' result live' early late
    exact early.ended_after late

/-- What follows without requests or errors changes nothing. -/
theorem ended_map {action : PetM α} {next : α → PetM β} (first : Reports project action Ended)
    (second : ∀ value, ∃ result, next value = Pure.pure result) :
    Reports project (action >>= next) Ended := by
  have later (value : α) : Reports project (next value) fun live issued result live' =>
      issued = [] ∧ live' = live ∧ ∃ final, result = .ok final := by
    obtain ⟨final, same⟩ := second value
    rw [same]
    refine (Reports.pure final).weaken ?_
    rintro live issued result live' ⟨rfl, rfl, rfl⟩
    exact ⟨rfl, rfl, _, rfl⟩
  refine .bind _ first later ?_ ?_
  · intro live issued error live' ended
    cases ended with
    | sincere holds quiet => exact .sincere holds.retype quiet
    | cleaned project state error' outcome earlier last mild returned kept =>
      cases returned
      exact .cleaned project state _ outcome earlier last mild rfl kept
  · rintro live issued value middle issued' result live' ended ⟨rfl, rfl, final, rfl⟩
    cases ended with
    | sincere holds quiet => exact .sincere (.ok holds.kept) quiet
    | cleaned project state error outcome earlier last mild returned kept => cases returned

theorem smooth_pure (value : α) : Reports project (Pure.pure value) Smooth := by
  refine (Reports.pure value).weaken ?_
  rintro live issued result live' ⟨rfl, rfl, rfl⟩
  exact Sincere.silent (.ok id)

/-- Without requests, and with errors that do not end the epoch. -/
theorem smooth_unasked {action : PetM α} (stays : Stays Unasked action)
    (mild : Throws (fun error => PetError.invalidatesProcess error = false) action) :
    Reports project action Smooth := by
  refine (Reports.unasked stays mild).weaken ?_
  rintro live issued result live' ⟨rfl, rfl, errors⟩
  apply Sincere.silent
  constructor
  · intro before after
    rw [before] at after
    cases after
  · intro error same invalidates
    rw [errors error same] at invalidates
    cases invalidates

theorem smooth_ended {action : PetM α} (smooth : Reports project action Smooth) :
    Reports project action Ended :=
  smooth.weaken fun _ _ _ _ => Smooth.ended

end Reports

namespace PetActor

variable {project : ProjectId} {α : Type}

/-- A call on the installed process. -/
def Called (project : ProjectId) (call : PetCall) : Account (PetReply PetStateId) :=
  fun live issued result live' =>
    (live = false ∧ issued = [] ∧ live' = false ∧
      ∃ message, result = .error (.processLost message)) ∨
    (live = true ∧ issued = [{ project, call, outcome := result }] ∧ live' = keepsProcess result)

theorem discard_returns :
    Returns project (discard project) fun _ _ issued live' => issued = [] ∧ live' = false := by
  intro world
  refine ⟨[], rfl, (), rfl, rfl, ?_⟩
  simp [discard, Act.modify, World.process, World.actor, World.setActor, World.setRuntime]

theorem fail_reports (error : PetError) :
    Reports project (fail project error : PetM α) fun live issued result live' =>
      issued = [] ∧ result = .error error ∧ live' = (live && !error.invalidatesProcess) := by
  unfold fail poisonIfInvalidated
  cases invalidates : error.invalidatesProcess with
  | true =>
    refine discard_returns.bind _ (fun _ => .throw error) ?_
    rintro live issued value middle issued' result live' ⟨rfl, rfl⟩ ⟨rfl, rfl, rfl⟩
    exact ⟨rfl, rfl, by simp⟩
  | false =>
    have skipped : Quiet project (Act.when false (discard project)) :=
      fun _ => ⟨[], rfl, _, rfl, rfl, rfl⟩
    refine skipped.bind fun _ => (Reports.throw error).weaken ?_
    rintro live issued result live' ⟨rfl, rfl, rfl⟩
    exact ⟨rfl, rfl, by simp⟩

theorem violated_reports (message : String) :
    Reports project (violated project message : PetM α) fun _ issued result live' =>
      issued = [] ∧ result = .error (.protocol message) ∧ live' = false := by
  refine (fail_reports (.protocol message)).weaken ?_
  rintro live issued result live' ⟨rfl, rfl, rfl⟩
  exact ⟨rfl, rfl, by simp [PetError.invalidatesProcess, PetError.isTransportLoss]⟩

theorem violated_smooth (message : String) :
    Reports project (violated project message : PetM α) Smooth := by
  refine (violated_reports message).weaken ?_
  rintro live issued result live' ⟨rfl, rfl, rfl⟩
  exact (Sincere.violated message).silent

theorem violated_ended (message : String) :
    Reports project (violated project message : PetM α) Ended :=
  .smooth_ended (violated_smooth message)

theorem install_returns (process : PetProcess) :
    Returns project (install project process) fun _ _ issued live' =>
      issued = [] ∧ live' = true := by
  intro world
  refine ⟨[], rfl, (), rfl, rfl, ?_⟩
  simp [install, Act.modify, World.process, World.actor, World.setActor, World.setRuntime]

theorem recordTurn_returns (call : PetCall) (outcome : Except PetError (PetReply PetStateId)) :
    Returns project (recordTurn project call outcome) fun _ live issued live' =>
      issued = [{ project, call, outcome }] ∧ live' = live :=
  fun _ => ⟨[_], rfl, (), rfl, rfl, rfl⟩

/-- A request to a process that is or is not the installed one. -/
def Requested (project : ProjectId) (call : PetCall) : Account (PetReply PetStateId) :=
  fun live issued result live' =>
    issued = [{ project, call, outcome := result }] ∧
      live' = match result with
        | .ok _ => true
        | .error _ => live

theorem refused_reports (call : PetCall) (error : PetError) :
    Reports project (do
      recordTurn project call (.error error)
      .throw error) (Requested project call) := by
  refine (recordTurn_returns call _).bind _ (fun _ => .throw error) ?_
  rintro live issued value middle issued' result live' ⟨rfl, rfl⟩ ⟨rfl, rfl, rfl⟩
  exact ⟨rfl, rfl⟩

theorem answered_reports (process : PetProcess) (call : PetCall) (reply : PetReply Unit)
    (now : Nat) :
    Reports project (do
      recordTurn project call (.ok (reply.answer (process.fresh now)))
      install project (process.serve call reply now)
      return reply.answer (process.fresh now)) (Requested project call) := by
  have installed : Reports project (do
      install project (process.serve call reply now)
      return reply.answer (process.fresh now)) fun _ issued result live' =>
        issued = [] ∧ live' = true ∧ result = .ok (reply.answer (process.fresh now)) := by
    refine (install_returns _).bind _ (fun _ => .pure _) ?_
    rintro live issued value middle issued' result live' ⟨rfl, rfl⟩ ⟨rfl, rfl, rfl⟩
    exact ⟨rfl, rfl, rfl⟩
  refine (recordTurn_returns call _).bind _ (fun _ => installed) ?_
  rintro live issued value middle issued' result live' ⟨rfl, rfl⟩ ⟨rfl, rfl, rfl⟩
  exact ⟨rfl, rfl⟩

theorem rpc_reports (process : PetProcess) (call : PetCall) (timeoutMs : Option Nat) :
    Reports project (rpc project process call timeoutMs) (Requested project call) := by
  have asked : Reports project (exchange call timeoutMs) fun live issued _ live' =>
      issued = [] ∧ live' = live := by
    refine (Reports.unasked (exchange_unasked call timeoutMs) (fun _ _ _ => trivial)).weaken ?_
    rintro live issued result live' ⟨rfl, rfl, _⟩
    exact ⟨rfl, rfl⟩
  have asked : Quiet project (Act.attempt (exchange call timeoutMs)) := asked.attempt
  refine asked.bind fun result => ?_
  cases result with
  | error error => exact refused_reports call error
  | ok reply => exact (Quiet.gets World.now).bind (answered_reports process call reply)

theorem orDiscard_reports {action : PetM α} {account : Account α}
    (reports : Reports project action account) :
    Reports project (orDiscard project action) fun live issued result live' =>
      ∃ middle, account live issued result middle ∧ live' = (middle && keepsProcess result) := by
  let passed (inner : Except PetError α) : Account α := fun live issued result live' =>
    issued = [] ∧ result = inner ∧ live' = (live && keepsProcess inner)
  refine reports.attempt.bind passed (fun inner => ?_) ?_
  · cases inner with
    | ok value =>
      refine (Reports.pure value).weaken ?_
      rintro live issued result live' ⟨rfl, rfl, rfl⟩
      exact ⟨rfl, rfl, by simp [keepsProcess]⟩
    | error error => exact fail_reports error
  · rintro live issued inner middle issued' result live' holds ⟨rfl, rfl, rfl⟩
    exact ⟨middle, holds, rfl⟩

theorem callLive_reports (call : PetCall) (timeoutMs : Option Nat) :
    Reports project (callLive project call timeoutMs) (Called project call) := by
  refine .process fun found => ?_
  cases found with
  | none =>
    refine (Reports.throw _).weaken ?_
    rintro live issued result live' ⟨rfl, rfl, rfl⟩ absent
    exact .inl ⟨absent.symm, rfl, absent.symm, _, rfl⟩
  | some process =>
    refine (orDiscard_reports (rpc_reports process call timeoutMs)).weaken ?_
    rintro live issued result live' ⟨middle, ⟨rfl, rfl⟩, rfl⟩ present
    refine .inr ⟨present.symm, rfl, ?_⟩
    cases result <;> simp [keepsProcess, ← present]

theorem keepsProcess_sincere (result : Except PetError α) :
    Sincere true result (keepsProcess result) := by
  cases result with
  | ok value => exact .ok fun _ => rfl
  | error error =>
    constructor
    · intro _ lost
      exact ⟨error, rfl, by simpa [keepsProcess] using lost⟩
    · rintro found ⟨⟩ invalidates
      simp [keepsProcess, invalidates]

section

variable {call : PetCall} {live live' : Bool} {issued : List PetTurn}
  {result : Except PetError (PetReply PetStateId)}

theorem Called.sincere (called : Called project call live issued result live') :
    Sincere live result live' := by
  rcases called with ⟨rfl, _, rfl, message, rfl⟩ | ⟨rfl, _, rfl⟩
  · exact ⟨nofun, fun _ _ _ => rfl⟩
  · exact keepsProcess_sincere result

theorem Called.only (called : Called project call live issued result live') :
    ∀ turn ∈ issued, turn.call = call := by
  rcases called with ⟨_, rfl, _, _⟩ | ⟨_, rfl, _⟩
  · exact List.forall_mem_nil _
  · intro turn member
    obtain rfl := List.mem_singleton.mp member
    rfl

theorem Called.smooth (called : Called project call live issued result live')
    (goals : call.isGoals = false) (release : call.isRelease = false) :
    Smooth live issued result live' := by
  refine ⟨called.sincere, fun turn member => ?_⟩
  rw [called.only turn member]
  exact ⟨goals, release⟩

end

theorem callLive_smooth {call : PetCall} (timeoutMs : Option Nat) (goals : call.isGoals = false)
    (release : call.isRelease = false) : Reports project (callLive project call timeoutMs) Smooth :=
  (callLive_reports call timeoutMs).weaken fun _ _ _ _ called => called.smooth goals release

theorem spawn_unasked : Stays Unasked spawn := by
  refine .bind tick_unasked fun tick => ?_
  cases tick.spawn with
  | some error => exact .throw error
  | none =>
    refine .bind (.gets _) fun epoch => .bind (exchange_unasked _ _) fun reply => ?_
    cases reply with
    | capabilities names => exact .bind (.ensure _ _) fun _ => .pure _
    | _ => exact .throw _

/-- A child is installed, or there has been and is none. -/
def Provided : Account PetProcess := fun live issued result live' =>
  issued = [] ∧
    match result with
    | .ok _ => live' = true
    | .error _ => live = false ∧ live' = false

theorem spawned_reports : Reports project (do
    let process ← spawn
    .modify fun world => world.setActor project { process := some process, workspace := none }
    return process) fun live issued result live' =>
      live = false → Provided live issued result live' := by
  have installed (process : PetProcess) : Reports project (do
      .modify fun world => world.setActor project { process := some process, workspace := none }
      return process) fun _ issued result live' =>
        issued = [] ∧ live' = true ∧ result = .ok process := by
    intro world
    refine ⟨[], rfl, rfl, ?_, rfl⟩
    simp [bind, Act.bind, Act.modify, pure, Act.pure, World.process, World.actor, World.setActor,
      World.setRuntime]
  refine .bind _ (Reports.unasked spawn_unasked fun _ _ _ => trivial) installed ?_ ?_
  · rintro live issued error live' ⟨rfl, rfl, _⟩ absent
    exact ⟨rfl, absent, absent⟩
  · rintro live issued value middle issued' result live' ⟨rfl, rfl, _⟩ ⟨rfl, rfl, rfl⟩ _
    exact ⟨rfl, rfl⟩

theorem ensureChild_reports : Reports project (ensureChild project) Provided := by
  refine .process fun found => ?_
  cases found with
  | some process =>
    refine (Reports.pure process).weaken ?_
    rintro live issued result live' ⟨rfl, rfl, rfl⟩ present
    exact ⟨rfl, present.symm⟩
  | none => exact spawned_reports.weaken fun _ _ _ _ provided absent => provided absent.symm

theorem ensureChild_smooth : Reports project (ensureChild project) Smooth := by
  refine ensureChild_reports.weaken ?_
  rintro live issued result live' ⟨rfl, ended⟩
  apply Sincere.silent
  cases result with
  | ok process => exact .ok fun _ => ended
  | error error =>
    obtain ⟨rfl, rfl⟩ := ended
    exact ⟨nofun, fun _ _ _ => rfl⟩

/-- The call that follows the provision of a child. -/
theorem rpc_smooth (process : PetProcess) {call : PetCall} (timeoutMs : Option Nat)
    (goals : call.isGoals = false) (release : call.isRelease = false) :
    Reports project (orDiscard project (rpc project process call timeoutMs)) Smooth := by
  refine (orDiscard_reports (rpc_reports process call timeoutMs)).weaken ?_
  rintro live issued result live' ⟨middle, ⟨rfl, rfl⟩, rfl⟩
  constructor
  · cases result with
    | ok value => exact .ok fun _ => rfl
    | error error =>
      cases live with
      | true => exact keepsProcess_sincere _
      | false => exact ⟨nofun, fun _ _ _ => rfl⟩
  · intro turn member
    obtain rfl := List.mem_singleton.mp member
    exact ⟨goals, release⟩

theorem discard_throw_smooth (message : String) :
    Reports project (do
      discard project
      .throw (.protocol message) : PetM α) Smooth := by
  refine discard_returns.bind _ (fun _ => .throw _) ?_
  rintro live issued value middle issued' result live' ⟨rfl, rfl⟩ ⟨rfl, rfl, rfl⟩
  exact (Sincere.violated message).silent

theorem ensureProcess_smooth (workspace : PetWorkspace) :
    Reports project (ensureProcess project workspace) Smooth := by
  refine .smooth_bind ensureChild_smooth fun process => (Quiet.gets _).bind fun current => ?_
  split
  · exact .smooth_pure ()
  · refine .smooth_bind (rpc_smooth process none rfl rfl) fun reply => ?_
    cases reply with
    | null =>
      intro world
      refine ⟨[], rfl, Sincere.silent (.ok ?_)⟩
      simp [Act.modify, World.process, World.actor, World.setActor, World.setRuntime]
    | _ => exact discard_throw_smooth _

theorem callInWorkspace_smooth (workspace : PetWorkspace) {call : PetCall}
    (goals : call.isGoals = false) (release : call.isRelease = false) :
    Reports project (callInWorkspace project workspace call) Smooth :=
  .smooth_bind (ensureProcess_smooth workspace) fun _ => callLive_smooth none goals release

end PetActor

end RocqMcp
