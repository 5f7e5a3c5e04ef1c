import RocqMcp.Pet.Actor
import RocqMcp.Pet.Reading
import Mathlib.Data.List.Forall2

/-! The child behind a `PetActor` and its standard streams. Every request that
the child was sent has been answered by one whole frame with its id, as long as
the child stays installed. -/

namespace RocqMcp

open Library

/-- What one request to a child meets. -/
structure RpcConditions where
  inScope : Bool := false
  cancelled : Bool := false
  /-- The deadline lies beyond the range of the clock. -/
  unreachable : Bool := false
  writeError : Option String := none
  /-- `process_diagnostic`. -/
  detail : String := ""

/-- The children that are spawned, and what each request meets. -/
structure PetSurroundings where
  conditions : Nat → RpcConditions
  spawn : Nat → Except PetError (List (Delivery UInt8 PetSignal))

/-- A request that was written and what the client made of the reply. -/
structure PetExchange where
  id : Nat
  result : Except PetError Value

/-- A `PetProcess`. Its whole output, the ids of the requests written to it and
the exchanges that ended are recorded. -/
structure PetChild where
  nextId : Nat
  stdout : PetReader
  output : Bytes
  written : List Nat
  exchanges : List PetExchange

def PetChild.start (deliveries : List (Delivery UInt8 PetSignal)) : PetChild where
  nextId := 1
  stdout := { buffer := [], deliveries }
  output := deliveries.flatMap Delivery.content
  written := []
  exchanges := []

/-- `annotate_transport`. -/
def PetError.annotate (detail : String) : PetError → PetError
  | .processLost message => .processLost s!"{message}; {detail}"
  | .protocol message => .protocol s!"{message}; {detail}"
  | .outputOverflow => .protocol s!"response exceeded the output limit; {detail}"
  | error => error

/-- `ResponseDeadline::new`, of a duration in nanoseconds. -/
def responseDeadline (conditions : RpcConditions) (timeout : Nat) : Except PetError Nat :=
  if timeout = 0 then .error (.invalid "timeout must be positive")
  else if 2 ^ 64 ≤ timeout / 1000000 then .error (.invalid "timeout is too large")
  else if timeout / 1000000 = 0 then
    .error (.invalid "timeout must be at least one millisecond")
  else if conditions.unreachable then .error (.invalid "timeout is too large")
  else .ok (timeout / 1000000)

def deadlineOf (conditions : RpcConditions) : Option Nat → Except PetError (Option Nat)
  | none => .ok none
  | some timeout => (responseDeadline conditions timeout).map some

def requestValue (id : Nat) (method : String) (params : Value) : Value :=
  .object [("jsonrpc", .string "2.0"), ("id", .number id), ("method", .string method),
    ("params", params)]

namespace PetChild

/-- An action on the standard output. -/
def onStdout (action : Act PetReader PetError α) : Act PetChild PetError α := fun child =>
  let (result, stdout) := action child.stdout
  (result, { child with stdout })

/-- The bytes of a request, or the error that keeps it from being written. -/
def encodeRequest (json : JsonCodec) (conditions : RpcConditions) (id : Nat) (method : String)
    (params : Value) (timeout : Option Nat) : Except PetError (Option Nat) := do
  match json.toVec (requestValue id method params) with
  | none => .error (.invalid "request encoding failed")
  | some request =>
    if maxRequestBytes < request.length then .error (.invalid "request is oversized")
    else
      let timeoutMs ← deadlineOf conditions timeout
      if conditions.inScope && conditions.cancelled then .error .cancelled
      else
        match conditions.writeError with
        | some error =>
          .error (.processLost s!"connection stdin write failed: {error}; {conditions.detail}")
        | none => .ok timeoutMs

def allocate (child : PetChild) : PetChild := { child with nextId := child.nextId + 1 }

def send (id : Nat) (child : PetChild) : PetChild := { child with written := child.written ++ [id] }

def record (exchange : PetExchange) (child : PetChild) : PetChild :=
  { child with exchanges := child.exchanges ++ [exchange] }

def receive (json : JsonCodec) (conditions : RpcConditions) (timeoutMs : Option Nat) (id : Nat) :
    Act PetChild PetError Value :=
  Act.mapError (PetError.annotate conditions.detail)
    (onStdout (readResponse json { inScope := conditions.inScope, timeoutMs } id))

def rpcWithTimeout (json : JsonCodec) (conditions : RpcConditions) (method : String)
    (params : Value) (timeout : Option Nat) : Act PetChild PetError Value := do
  let id ← Act.gets PetChild.nextId
  Act.ensure (id + 1 < 2 ^ 64) (.protocol "PET request id space exhausted")
  .modify allocate
  let timeoutMs ← Act.ofExcept (encodeRequest json conditions id method params timeout)
  .modify (send id)
  let result ← Act.attempt (receive json conditions timeoutMs id)
  .modify (record { id, result })
  Act.ofExcept result

end PetChild

/-- `PetActor`, with the children of one project. -/
structure PetLink where
  process : Option PetChild := none
  workspace : Option PetWorkspace := none
  clock : Nat := 0

def capabilityNames (value : Value) : Option (List String) :=
  value.asArray.bind fun names => names.mapM Value.asString

/-- The text of an absolute path. -/
def Path.text (path : Path) : String := "/" ++ joinStrings "/" path

def hexDigit (value : Nat) : Char :=
  if value < 10 then Char.ofNat (48 + value) else Char.ofNat (55 + value)

def isUriByte (byte : UInt8) : Bool :=
  let c := Char.ofNat byte.toNat
  (byte < 128 && c.isAlphanum) || c ∈ ['/', '_', '-', '.', '~']

def fileUri (path : Path) : String :=
  "file://" ++ String.ofList ((textBytes path.text).flatMap fun byte =>
    if isUriByte byte then [Char.ofNat byte.toNat]
    else ['%', hexDigit (byte.toNat / 16), hexDigit (byte.toNat % 16)])

/-- The parameters of `petanque/setWorkspace`. -/
def workspaceParams (workspace : PetWorkspace) : Value :=
  .object [("debug", .bool false), ("root", .string (fileUri workspace.root)),
    ("load_paths", .array (workspace.loadPaths.map fun mapping =>
      .object [("physical", .string mapping.physical.text),
        ("logical", .string (joinStrings "." mapping.logical.parts)),
        ("implicit", .bool mapping.implicit)]))]

namespace PetLink

section

variable (json : JsonCodec) (surroundings : PetSurroundings)

def install (process : PetChild) : Act PetLink PetError Unit :=
  .modify fun link => { link with process := some process }

/-- `process.take()` and `workspace.take()`. -/
def discard : Act PetLink PetError Unit :=
  .modify fun link => { link with process := none, workspace := none }

def poisonIfInvalidated (error : PetError) : Act PetLink PetError Unit :=
  .when error.invalidatesProcess discard

/-- Run a call and drop the child if its error ends the epoch. -/
def orDiscard (action : Act PetLink PetError α) : Act PetLink PetError α := do
  match ← Act.attempt action with
  | .ok value => return value
  | .error error => do
    poisonIfInvalidated error
    .throw error

/-- A request to a child, which need not be installed. -/
def exchange (process : PetChild) (method : String) (params : Value) (timeout : Option Nat) :
    Act PetLink PetError (Except PetError Value × PetChild) := do
  let clock ← Act.gets PetLink.clock
  .modify fun link => { link with clock := clock + 1 }
  return process.rpcWithTimeout json (surroundings.conditions clock) method params timeout

def rpc (process : PetChild) (method : String) (params : Value) (timeout : Option Nat) :
    Act PetLink PetError Value := do
  let answered ← exchange json surroundings process method params timeout
  install answered.2
  Act.ofExcept answered.1

/-- `PetProcess::spawn` and the handshake. -/
def spawn : Act PetLink PetError PetChild := do
  let clock ← Act.gets PetLink.clock
  .modify fun link => { link with clock := clock + 1 }
  let deliveries ← Act.ofExcept (surroundings.spawn clock)
  let answered ← exchange json surroundings (.start deliveries) "petanque/capabilities"
    (.object []) none
  let value ← Act.ofExcept answered.1
  match capabilityNames value with
  | none => .throw (.protocol "PET capabilities response is invalid")
  | some names => do
    Act.ensure (missingCapabilities names).isEmpty (.environment
      ("required capabilities are missing: " ++ joinStrings ", " (missingCapabilities names)))
    return answered.2

def ensureChild : Act PetLink PetError PetChild := do
  match ← Act.gets PetLink.process with
  | some process => return process
  | none => do
    let process ← spawn json surroundings
    .modify fun link => { link with process := some process, workspace := none }
    return process

def ensureProcess (workspace : PetWorkspace) : Act PetLink PetError Unit := do
  let process ← ensureChild json surroundings
  let current ← Act.gets PetLink.workspace
  if current = some workspace then return ()
  else
    match ← orDiscard (rpc json surroundings process "petanque/setWorkspace"
      (workspaceParams workspace) none) with
    | .null => .modify fun link => { link with workspace := some workspace }
    | _ => do
      discard
      .throw (.protocol "setWorkspace returned a non-null result")

def callLiveWithTimeout (method : String) (params : Value) (timeout : Option Nat) :
    Act PetLink PetError Value := do
  match ← Act.gets PetLink.process with
  | none => .throw (.processLost "process is not running")
  | some process => orDiscard (rpc json surroundings process method params timeout)

def callInWorkspace (workspace : PetWorkspace) (method : String) (params : Value) :
    Act PetLink PetError Value := do
  ensureProcess json surroundings workspace
  callLiveWithTimeout json surroundings method params none

def replaceLocked (workspace : PetWorkspace) : Act PetLink PetError Unit := do
  discard
  ensureProcess json surroundings workspace

def refreshWorkspace (workspace : PetWorkspace) : Act PetLink PetError Unit := do
  ensureProcess json surroundings workspace
  match ← Act.gets PetLink.process with
  | none => .throw (.processLost "process is not running")
  | some process =>
    match ← Act.attempt (rpc json surroundings process "petanque/refresh_workspace" (.object [])
      none) with
    | .ok .null => return ()
    | _ => replaceLocked json surroundings workspace

/-- The ways in which the engine uses the actor. -/
inductive Use where
  | inWorkspace (workspace : PetWorkspace) (method : String) (params : Value)
  | live (method : String) (params : Value) (timeout : Option Nat)
  | refresh (workspace : PetWorkspace)
  | restart
  | poison (error : PetError)

def serve : Use → PetLink → PetLink
  | .inWorkspace workspace method params, link =>
    (callInWorkspace json surroundings workspace method params link).2
  | .live method params timeout, link =>
    (callLiveWithTimeout json surroundings method params timeout link).2
  | .refresh workspace, link => (refreshWorkspace json surroundings workspace link).2
  | .restart, link => (discard link).2
  | .poison error, link => (poisonIfInvalidated error link).2

/-- The actor after a sequence of uses. -/
def run (uses : List Use) : PetLink :=
  uses.foldl (fun link use => serve json surroundings use link) {}

end

end PetLink

/-- The frame is the child's reply to this request, and the client returned
what it states. -/
def PetExchange.AnsweredBy (json : JsonCodec) (exchange : PetExchange) (frame : PetFrame) : Prop :=
  ∃ response, json.fromSlice frame.body = .ok response ∧
    Answers exchange.id response exchange.result

/-- Requests and replies are in step: every request that was written has been
answered by one frame of its own, the frames are all that was read, and ids are
never used again. -/
structure PetChild.Paired (json : JsonCodec) (child : PetChild) : Prop where
  answered : child.exchanges.map PetExchange.id = child.written
  frames : ∃ frames, List.Forall₂ (PetExchange.AnsweredBy json) child.exchanges frames ∧
    child.output = frames.flatMap PetFrame.bytes ++ child.stdout.unread
  increasing : child.written.Pairwise (· < ·)
  fresh : ∀ id ∈ child.written, id < child.nextId

namespace PetChild

variable {json : JsonCodec} {conditions : RpcConditions} {method : String} {params : Value}
  {timeout : Option Nat} {child child' : PetChild} {error : PetError}

/-- A request that is given up before it is written uses up an id. -/
theorem Paired.allocate (paired : child.Paired json) : child.allocate.Paired json where
  answered := paired.answered
  frames := paired.frames
  increasing := paired.increasing
  fresh id member := Nat.lt_succ_of_lt (paired.fresh id member)

/-- The result is what the child's own reply to the request states, and the
reader stands behind that reply. -/
def Replied (json : JsonCodec) (id : Nat) (child child' : PetChild)
    (result : Except PetError Value) : Prop :=
  ∃ frame, child.stdout.unread = frame.bytes ++ child'.stdout.unread ∧
    PetExchange.AnsweredBy json { id, result } frame

/-- One more request and its reply. -/
theorem Paired.exchange {stdout : PetReader} {result : Except PetError Value}
    (paired : child.Paired json)
    (replied : Replied json child.nextId child { child.allocate.send child.nextId with stdout } result) :
    (record { id := child.nextId, result }
      { child.allocate.send child.nextId with stdout }).Paired json where
  answered := by
    change (child.exchanges ++ [_]).map PetExchange.id = child.written ++ [_]
    rw [List.map_append, paired.answered]
    rfl
  frames := by
    obtain ⟨frame, consumed, answered⟩ := replied
    obtain ⟨frames, before, output⟩ := paired.frames
    refine ⟨frames ++ [frame], List.rel_append before (.cons answered .nil), ?_⟩
    change child.output = _
    rw [output, consumed, List.flatMap_append, List.flatMap_singleton, List.append_assoc]
    rfl
  increasing := by
    change (child.written ++ [_]).Pairwise _
    rw [List.pairwise_append]
    refine ⟨paired.increasing, List.pairwise_singleton _ _, fun id member last same => ?_⟩
    rw [List.mem_singleton.mp same]
    exact paired.fresh id member
  fresh id member := by
    rcases List.mem_append.mp member with old | new
    · exact Nat.lt_succ_of_lt (paired.fresh id old)
    · rw [List.mem_singleton.mp new]
      exact Nat.lt_succ_self _

/-- The errors of a request that end the epoch of the child. -/
inductive RpcLoss (timeoutMs : Option Nat) : PetError → Prop where
  | lost (message : String) : RpcLoss timeoutMs (.processLost message)
  | violated (message : String) : RpcLoss timeoutMs (.protocol message)
  | cancelled : RpcLoss timeoutMs .cancelled
  | expired (timed : timeoutMs = some duration) : RpcLoss timeoutMs (.timedOut duration)

theorem RpcLoss.invalidates (loss : RpcLoss timeoutMs error) : error.invalidatesProcess = true := by
  cases loss <;> rfl

theorem RpcLoss.of_ends {watch : PetWatch} (ends : watch.Ends error) :
    RpcLoss watch.timeoutMs (error.annotate detail) := by
  rcases ends with lost | rfl | ⟨timeoutMs, timed, rfl⟩
  · cases error with
    | processLost message => exact .lost _
    | protocol message => exact .violated _
    | outputOverflow => exact .violated _
    | _ => cases lost
  · exact .cancelled
  · exact .expired timed

/-- An error that a reply states is not annotated. -/
theorem annotate_of_answers {id : Nat} (answers : Answers id response (.error error)) :
    PetError.annotate detail error = error := by
  cases answers
  rfl

theorem onStdout_triple {action : Act PetReader PetError α} {after : α → PetReader → Prop}
    {failed : PetError → PetReader → Prop} (triple : Triple (· = child.stdout) action after failed) :
    Triple (· = child) (onStdout action)
      (fun value child' => ∃ stdout, child' = { child with stdout } ∧ after value stdout)
      (fun error child' => ∃ stdout, child' = { child with stdout } ∧ failed error stdout) := by
  rintro _ rfl
  rename_i child
  have ended := triple child.stdout rfl
  unfold onStdout
  rcases ran : action child.stdout with ⟨error | value, stdout⟩
  · rw [ran] at ended
    exact ⟨stdout, rfl, ended⟩
  · rw [ran] at ended
    exact ⟨stdout, rfl, ended⟩

theorem receive_triple (timeoutMs : Option Nat) (id : Nat) (child : PetChild) :
    Triple (· = child) (receive json conditions timeoutMs id)
      (fun value child' => ∃ stdout, child' = { child with stdout } ∧
        Replied json id child child' (.ok value))
      (fun error child' => RpcLoss timeoutMs error ∨ ∃ stdout, child' = { child with stdout } ∧
        Replied json id child child' (.error error)) := by
  refine .mapError (.weaken (onStdout_triple (readResponse_triple json id child.stdout))
    (fun _ same => same) ?_ ?_)
  · rintro value _ ⟨stdout, rfl, frame, consumed, response, decoded, answers⟩
    exact ⟨stdout, rfl, frame, consumed.unread, response, decoded, answers⟩
  · rintro error _ ⟨stdout, rfl, ends | ⟨frame, consumed, response, decoded, answers⟩⟩
    · exact .inl (.of_ends ends)
    · refine .inr ⟨stdout, rfl, frame, consumed.unread, response, decoded, ?_⟩
      rw [annotate_of_answers answers]
      exact answers

theorem deadlineOf_invalid (failed : deadlineOf conditions timeout = .error error) :
    ∃ message, error = .invalid message := by
  cases timeout with
  | none => cases failed
  | some timeout =>
    simp only [deadlineOf, responseDeadline] at failed
    repeat' split at failed
    all_goals cases failed
    all_goals exact ⟨_, rfl⟩

theorem deadlineOf_ok (passed : deadlineOf conditions timeout = .ok (some timeoutMs)) :
    ∃ duration, timeout = some duration ∧ timeoutMs = duration / 1000000 := by
  cases timeout with
  | none => cases passed
  | some timeout =>
    simp only [deadlineOf, responseDeadline] at passed
    repeat' split at passed
    all_goals cases passed
    exact ⟨timeout, rfl, rfl⟩

/-- What keeps a request from being written: a mistake of the client, a
cancellation, or a closed pipe. -/
theorem encodeRequest_error {id : Nat}
    (failed : encodeRequest json conditions id method params timeout = .error error) :
    (∃ message, error = .invalid message) ∨ RpcLoss none error := by
  unfold encodeRequest at failed
  split at failed
  · cases failed
    exact .inl ⟨_, rfl⟩
  · split at failed
    · cases failed
      exact .inl ⟨_, rfl⟩
    · cases deadline : deadlineOf conditions timeout with
      | error earlier =>
        rw [deadline] at failed
        cases failed
        exact .inl (deadlineOf_invalid deadline)
      | ok timeoutMs =>
        rw [deadline] at failed
        change (if _ then _ else _) = _ at failed
        split at failed
        · cases failed
          exact .inr .cancelled
        · split at failed <;> cases failed
          exact .inr (.lost _)

theorem encodeRequest_ok {id : Nat} {timeoutMs : Option Nat}
    (passed : encodeRequest json conditions id method params timeout = .ok timeoutMs) :
    deadlineOf conditions timeout = .ok timeoutMs := by
  unfold encodeRequest at passed
  split at passed
  · cases passed
  · split at passed
    · cases passed
    · cases deadline : deadlineOf conditions timeout with
      | error earlier =>
        rw [deadline] at passed
        cases passed
      | ok timeoutMs =>
        rw [deadline] at passed
        change (if _ then _ else _) = _ at passed
        split at passed
        · cases passed
        · split at passed <;> cases passed
          rfl

/-- The errors of a request: after one that does not end the epoch, requests
and replies are in step. -/
inductive RpcFailure (json : JsonCodec) (timeout : Option Nat) (child child' : PetChild)
    (error : PetError) : Prop where
  | loss (loss : RpcLoss (timeout.map (· / 1000000)) error)
  | unsent (invalid : ∃ message, error = .invalid message) (paired : child'.Paired json)
  | stated (paired : child'.Paired json)
      (replied : Replied json child.nextId child child' (.error error))

theorem RpcLoss.wider (loss : RpcLoss none error) : RpcLoss timeoutMs error := by
  cases loss with
  | lost message => exact .lost message
  | violated message => exact .violated message
  | cancelled => exact .cancelled
  | expired timed => cases timed

theorem rpc_triple (paired : child.Paired json) :
    Triple (· = child) (rpcWithTimeout json conditions method params timeout)
      (fun value child' => child'.Paired json ∧ Replied json child.nextId child child' (.ok value))
      (fun error child' => RpcFailure json timeout child child' error) := by
  unfold rpcWithTimeout
  refine .through (fun id state => state = child ∧ id = child.nextId)
    (fun _ same => ⟨same, congrArg nextId same⟩) fun id => .assume fun same => ?_
  subst same
  refine .through (fun _ => (· = child))
    (.ensure (fun _ _ same => same) fun _ _ _ => .loss (.violated _)) fun _ => ?_
  refine .bind (.update allocate child) fun _ => ?_
  refine .bind (.weaken (.ofExcept (encodeRequest ..)) (fun _ => id) (fun _ _ => id) ?_)
    fun timeoutMs => .assume fun encoded => ?_
  · rintro error _ ⟨rfl, failed⟩
    rcases encodeRequest_error failed with invalid | loss
    · exact .unsent invalid paired.allocate
    · exact .loss loss.wider
  refine .bind (.update (send child.nextId) _) fun _ => ?_
  have timed : ∀ duration ∈ timeoutMs, timeout.map (· / 1000000) = some duration := by
    rintro duration rfl
    obtain ⟨_, rfl, rfl⟩ := deadlineOf_ok (encodeRequest_ok encoded)
    rfl
  refine .bind (.attempt (receive_triple timeoutMs child.nextId _)) fun result => ?_
  refine .each_state fun middle received => ?_
  refine .bind (.update (record { id := child.nextId, result }) middle) fun _ => ?_
  cases result with
  | ok value =>
    obtain ⟨stdout, rfl, replied⟩ := received
    refine .weaken (.ofExcept _) (fun _ => id) ?_ nofun
    rintro _ _ ⟨rfl, same⟩
    cases same
    exact ⟨paired.exchange replied, replied⟩
  | error error =>
    refine .weaken (.ofExcept _) (fun _ => id) nofun ?_
    rintro _ _ ⟨rfl, same⟩
    cases same
    rcases received with loss | ⟨stdout, rfl, replied⟩
    · refine .loss ?_
      cases loss with
      | lost message => exact .lost message
      | violated message => exact .violated message
      | cancelled => exact .cancelled
      | expired known => exact .expired (timed _ known)
    · exact .stated (paired.exchange replied) replied

end PetChild

/-- A request fails only as an exchange of `PetActor` can. -/
theorem PetChild.rpc_covered {json : JsonCodec} {conditions : RpcConditions} {method : String}
    {params : Value} {timeout : Option Nat} {child : PetChild} {error : PetError}
    (paired : child.Paired json) (call : PetCall)
    (failed : (child.rpcWithTimeout json conditions method params timeout).1 = .error error) :
    error = .cancelled ∨
      ∃ tick : Tick, tick.outcome call (timeout.map (· / 1000000)) = .error error := by
  have answering (reply : RpcOutcome) (outcome : Except PetError (PetReply Unit))
      (same : ∀ timeoutMs, Tick.outcome { rpc := fun _ => reply } call timeoutMs = outcome)
      (stated : outcome = .error error) :
      ∃ tick : Tick, tick.outcome call (timeout.map (· / 1000000)) = .error error :=
    ⟨_, (same _).trans stated⟩
  cases (rpc_triple paired).of_error rfl failed with
  | loss loss =>
    cases loss with
    | lost message => exact .inr (answering (.processLost message) _ (fun _ => rfl) rfl)
    | violated message => exact .inr (answering (.protocol message) _ (fun _ => rfl) rfl)
    | cancelled => exact .inl rfl
    | expired timed =>
      refine .inr ⟨{ expired := true }, ?_⟩
      rw [timed]
      rfl
  | unsent invalid =>
    obtain ⟨message, rfl⟩ := invalid
    exact .inr (answering (.invalid message) _ (fun _ => rfl) rfl)
  | stated _ replied =>
    obtain ⟨_, _, _, _, answers⟩ := replied
    cases answers with
    | error =>
      exact .inr (answering (.remote _ _ _) _ (fun _ => rfl) rfl)

namespace PetLink

/-- The installed child, if any, has answered every request. -/
def InStep (json : JsonCodec) (link : PetLink) : Prop :=
  ∀ child, link.process = some child → child.Paired json

variable {json : JsonCodec} {surroundings : PetSurroundings} {method : String} {params : Value}
  {timeout : Option Nat} {workspace : PetWorkspace}

theorem InStep.tick (inStep : InStep json link) (clock : Nat) :
    InStep json { link with clock } := inStep

/-- What a child that is asked once more is. -/
def Asked (json : JsonCodec) (answered : Except PetError Value × PetChild) : Prop :=
  match answered.1 with
  | .ok _ => answered.2.Paired json
  | .error error => error.invalidatesProcess = true ∨ answered.2.Paired json

end PetLink

end RocqMcp
