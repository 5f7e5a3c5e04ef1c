import RocqMcp.Adapter.Progress
import RocqMcp.Library.Runs

/-! The tool calls of one connection: the admission mutex, the cancellation
signal of each call with its watcher, the blocking worker, and the progress
record. Any number of calls are in flight, and their steps interleave. -/

namespace RocqMcp

open Library

abbrev CallId := Nat

structure ToolCall where
  name : String
  args : Value

/-- Only a query has a deadline. -/
def ToolCall.timed (call : ToolCall) : Bool := call.name = "query"

/-- The first target of the progress record. -/
def ToolCall.target (call : ToolCall) : Option Value :=
  (call.args.get? "target").or (call.args.get? "at")

/-- What the worker returns for a call that was cancelled before it ran. -/
def cancelledBeforeAdmission : Error := .new .requestCancelled "request was cancelled before admission"

def queryDeadline : Error := .new .queryTimeout "query deadline exceeded"

/-- The end of a worker: what `dispatch` returned, if it ran, and what the
worker makes of it. -/
structure Outcome where
  dispatched : Option (Except Error Value)
  result : Except Error Value

/-- How far `call_tool` is. -/
inductive CallPhase where
  | waiting
  | admitted
  | begun (generation : Nat)
  /-- `dispatch` runs. `update_current_progress` reads the generation first. -/
  | working (generation : Nat) (observed : Option Nat)
  | settling (generation : Nat) (outcome : Outcome)
  | finished (generation : Nat) (outcome : Outcome)
  /-- The guard is released. -/
  | answered (outcome : Outcome)
  /-- The client cancelled before the admission. -/
  | withdrawn
  /-- The worker panicked, and its guard was released. -/
  | lost

structure CallState where
  call : ToolCall
  phase : CallPhase := .waiting
  /-- The `RequestCancellation` of the call. -/
  signal : Signal := .active
  /-- The client has cancelled the call. -/
  cancelled : Bool := false
  /-- The watcher waits for the cancellation or the deadline. -/
  armed : Bool := false
  /-- What `commit_request` and `request_cancelled` have answered. -/
  commits : List Bool := []
  polls : List Bool := []

structure Connection where
  calls : CallId → Option CallState := fun _ => none
  /-- The call that has the admission mutex. -/
  guard : Option CallId := none
  book : ProgressBook := {}

inductive CallEvent where
  | arrive (id : CallId) (call : ToolCall)
  | cancel (id : CallId)
  | withdraw (id : CallId)
  | admitCall (id : CallId)
  | begin (id : CallId) (now : Nat)
  | fire (id : CallId) (arrival : Arrival)
  | work (id : CallId)
  | commit (id : CallId)
  | poll (id : CallId)
  | observe (id : CallId)
  | report (id : CallId) (phase : String) (completed : Nat) (total : Option Nat) (log : String)
  | target (id : CallId) (value : Value)
  | return' (id : CallId) (result : Except Error Value)
  | finish (id : CallId) (now : Nat)
  | release (id : CallId)
  | panic (id : CallId)
  /-- The worker is joined, and the watcher aborted. -/
  | abort (id : CallId)

/-- A new operation begins. -/
def CallEvent.begins : CallEvent → Bool
  | .begin _ _ => true
  | _ => false

/-- The call that writes the progress record. -/
def CallEvent.writer : CallEvent → Option CallId
  | .begin id _ | .report id _ _ _ _ | .target id _ | .finish id _ => some id
  | _ => none

/-- `commit`: the first decision stands. -/
def Signal.commit (signal : Signal) : Signal := if signal.isCancelled then signal else .committed

/-- The watcher may fire: its token is cancelled, or its deadline expires. -/
def CallState.fires (state : CallState) : Arrival → Bool
  | .cancel => state.armed && state.cancelled
  | .timeout => state.armed && state.call.timed

/-- The worker begins. -/
def CallState.start (state : CallState) (generation : Nat) : CallPhase :=
  if state.cancelled then
    .settling generation { dispatched := none, result := .error cancelledBeforeAdmission }
  else .working generation none

/-- What the worker returns after `dispatch`. -/
def CallState.outcome (state : CallState) (result : Except Error Value) : Outcome where
  dispatched := some result
  result := if state.signal = .timedOut then .error queryDeadline else result

namespace Connection

def set (connection : Connection) (id : CallId) (state : CallState) : Connection :=
  { connection with calls := Function.update connection.calls id (some state) }

/-- A step of one call. -/
def on (connection : Connection) (id : CallId)
    (move : CallState → Option (Connection × CallState)) : Option Connection :=
  (connection.calls id).bind fun state => (move state).map fun moved => moved.1.set id moved.2

def step (connection : Connection) : CallEvent → Option Connection
  | .arrive id call =>
    if (connection.calls id).isSome then none else some (connection.set id { call })
  | .cancel id => connection.on id fun state => some (connection, { state with cancelled := true })
  | .withdraw id => connection.on id fun state =>
    match state.phase with
    | .waiting =>
      if state.cancelled then some (connection, { state with phase := .withdrawn }) else none
    | _ => none
  | .admitCall id => connection.on id fun state =>
    match state.phase with
    | .waiting =>
      if connection.guard.isSome then none
      else some ({ connection with guard := some id }, { state with phase := .admitted })
    | _ => none
  | .begin id now => connection.on id fun state =>
    match state.phase with
    | .admitted =>
      let book := connection.book.begin state.call.name state.call.target now
      some ({ connection with book },
        { state with phase := .begun book.generation, armed := true })
    | _ => none
  | .fire id arrival => connection.on id fun state =>
    if state.fires arrival then
      some (connection, { state with armed := false, signal := state.signal.receive (some arrival) })
    else none
  | .work id => connection.on id fun state =>
    match state.phase with
    | .begun generation =>
      some (connection, { state with phase := state.start generation })
    | _ => none
  | .commit id => connection.on id fun state =>
    match state.phase with
    | .working _ _ =>
      some (connection, { state with
        signal := state.signal.commit
        commits := (!state.signal.isCancelled) :: state.commits })
    | _ => none
  | .poll id => connection.on id fun state =>
    match state.phase with
    | .working _ _ =>
      some (connection, { state with polls := state.signal.isCancelled :: state.polls })
    | _ => none
  | .observe id => connection.on id fun state =>
    match state.phase with
    | .working generation _ =>
      some (connection, { state with phase := .working generation (some connection.book.generation) })
    | _ => none
  | .report id phase completed total log => connection.on id fun state =>
    match state.phase with
    | .working generation (some observed) =>
      some ({ connection with book := connection.book.update observed phase completed total log },
        { state with phase := .working generation none })
    | _ => none
  | .target id value => connection.on id fun state =>
    match state.phase with
    | .working _ _ => some ({ connection with book := connection.book.setTarget value }, state)
    | _ => none
  | .return' id result => connection.on id fun state =>
    match state.phase with
    | .working generation _ =>
      some (connection, { state with phase := .settling generation (state.outcome result) })
    | _ => none
  | .finish id now => connection.on id fun state =>
    match state.phase with
    | .settling generation outcome =>
      some ({ connection with book := connection.book.finish generation outcome.result now },
        { state with phase := .finished generation outcome })
    | _ => none
  | .release id => connection.on id fun state =>
    match state.phase with
    | .finished _ outcome =>
      some ({ connection with guard := none }, { state with phase := .answered outcome })
    | _ => none
  | .panic id => connection.on id fun state =>
    match state.phase with
    | .working _ _ =>
      some ({ connection with guard := none }, { state with phase := .lost })
    | _ => none
  | .abort id => connection.on id fun state =>
    match state.phase with
    | .answered _ | .lost => some (connection, { state with armed := false })
    | _ => none

/-- The states of a connection after any interleaving of its calls. -/
def Reached (connection : Connection) : Prop :=
  Reachable step (fun _ _ => True) {} connection

end Connection

/-- The call has the admission mutex. -/
def CallPhase.isAdmitted : CallPhase → Bool
  | .admitted | .begun _ | .working _ _ | .settling _ _ | .finished _ _ => true
  | _ => false

/-- `dispatch` has not run. -/
def CallPhase.isEarly : CallPhase → Bool
  | .waiting | .admitted | .begun _ | .withdrawn => true
  | _ => false

def CallPhase.outcome? : CallPhase → Option Outcome
  | .settling _ outcome | .finished _ outcome | .answered outcome => some outcome
  | _ => none

theorem CallPhase.outcome?_early {phase : CallPhase} (early : phase.isEarly = true) :
    phase.outcome? = none := by
  cases phase <;> first | rfl | cases early

/-- What an event does to one call. -/
inductive CallState.Next (state : CallState) : CallState → Prop where
  | cancel : state.Next { state with cancelled := true }
  | withdraw (waiting : state.phase = .waiting) : state.Next { state with phase := .withdrawn }
  | admitCall (waiting : state.phase = .waiting) : state.Next { state with phase := .admitted }
  | begin (generation : Nat) (admitted : state.phase = .admitted) :
      state.Next { state with phase := .begun generation, armed := true }
  | fire {arrival : Arrival} (fires : state.fires arrival = true) :
      state.Next { state with armed := false, signal := state.signal.receive (some arrival) }
  | work {generation : Nat} (begun : state.phase = .begun generation) :
      state.Next { state with phase := state.start generation }
  | commit {generation : Nat} {observed : Option Nat}
      (working : state.phase = .working generation observed) :
      state.Next { state with
        signal := state.signal.commit
        commits := (!state.signal.isCancelled) :: state.commits }
  | poll : state.Next { state with polls := state.signal.isCancelled :: state.polls }
  | go {generation : Nat} {observed : Option Nat} (next : Option Nat)
      (working : state.phase = .working generation observed) :
      state.Next { state with phase := .working generation next }
  | return' {generation : Nat} {observed : Option Nat} (result : Except Error Value)
      (working : state.phase = .working generation observed) :
      state.Next { state with phase := .settling generation (state.outcome result) }
  | finish {generation : Nat} {outcome : Outcome}
      (settling : state.phase = .settling generation outcome) :
      state.Next { state with phase := .finished generation outcome }
  | release {generation : Nat} {outcome : Outcome}
      (finished : state.phase = .finished generation outcome) :
      state.Next { state with phase := .answered outcome }
  | panic {generation : Nat} {observed : Option Nat}
      (working : state.phase = .working generation observed) :
      state.Next { state with phase := .lost }
  | abort : state.Next { state with armed := false }

/-- The progress record is the one of the call, from its begin to its release. -/
def CallState.Recorded (state : CallState) (book : ProgressBook) : Prop :=
  match state.phase with
  | .begun generation | .settling generation _ => book.Runs state.call.name generation
  | .working generation observed =>
    book.Runs state.call.name generation ∧ ∀ seen ∈ observed, seen = generation
  | .finished generation outcome =>
    book.Ended state.call.name generation (.ofResult outcome.result)
  | _ => True

/-- What the worker makes of the end of `dispatch`. -/
def CallState.Settles (state : CallState) (outcome : Outcome) : Prop :=
  match outcome.dispatched with
  | none =>
    outcome.result = .error cancelledBeforeAdmission ∧ state.cancelled = true ∧
      state.signal ≠ .committed
  | some result =>
    outcome.result = result ∨ outcome.result = .error queryDeadline ∧ state.signal = .timedOut

/-- The signal has one winner, and the answers that `dispatch` got agree with it. -/
structure CallState.Decided (state : CallState) : Prop where
  early : state.phase.isEarly = true → state.signal ≠ .committed
  allowed : true ∈ state.commits → state.signal = .committed
  stopped : true ∈ state.polls ∨ false ∈ state.commits → state.signal.isCancelled = true
  requested : state.signal = .cancelled → state.cancelled = true
  expired : state.signal = .timedOut → state.call.timed = true
  settled : ∀ outcome, state.phase.outcome? = some outcome → state.Settles outcome

namespace Connection

structure Orderly (connection : Connection) : Prop where
  guarded : ∀ id state, connection.calls id = some state →
    (state.phase.isAdmitted = true ↔ connection.guard = some id)
  present : ∀ id, connection.guard = some id → (connection.calls id).isSome = true
  recorded : ∀ id state, connection.calls id = some state → state.Recorded connection.book
  decided : ∀ id state, connection.calls id = some state → state.Decided

section

variable {connection after : Connection} {id : CallId} {state state' : CallState}

theorem set_calls (other : CallId) :
    (connection.set id state).calls other =
      if other = id then some state else connection.calls other :=
  Function.update_apply ..

theorem on_some {move : CallState → Option (Connection × CallState)}
    (moved : connection.on id move = some after) :
    ∃ state next, connection.calls id = some state ∧ move state = some next ∧
      after = next.1.set id next.2 := by
  obtain ⟨state, found, mapped⟩ := Option.bind_eq_some_iff.mp moved
  obtain ⟨next, went, rfl⟩ := Option.map_eq_some_iff.mp mapped
  exact ⟨state, next, found, went, rfl⟩

/-- A call without the guard says nothing of the record. -/
theorem unadmitted_recorded {book : ProgressBook} (outside : state.phase.isAdmitted = false) :
    state.Recorded book := by
  unfold CallState.Recorded
  cases phase : state.phase with
  | waiting | answered | withdrawn | lost | admitted => trivial
  | begun | working | settling | finished =>
    rw [phase] at outside
    cases outside

/-- What an event of one call has to keep. -/
theorem Orderly.next (orderly : connection.Orderly) {guard : Option CallId} {book : ProgressBook}
    (others : ∀ other, other ≠ id → (guard = some other ↔ connection.guard = some other))
    (mine : state'.phase.isAdmitted = true ↔ guard = some id)
    (written : book = connection.book ∨ connection.guard = some id)
    (recorded : state'.Recorded book) (decided : state'.Decided) :
    ({ connection with guard, book }.set id state').Orderly where
  guarded other found present := by
    rw [set_calls] at present
    by_cases same : other = id
    · rw [if_pos same] at present
      obtain rfl := Option.some.inj present
      rw [same]
      exact mine
    · rw [if_neg same] at present
      exact (orderly.guarded other found present).trans (others other same).symm
  present other held := by
    rw [set_calls]
    by_cases same : other = id
    · rw [if_pos same]
      rfl
    · rw [if_neg same]
      exact orderly.present other ((others other same).mp held)
  recorded other found present := by
    rw [set_calls] at present
    by_cases same : other = id
    · rw [if_pos same] at present
      obtain rfl := Option.some.inj present
      exact recorded
    · rw [if_neg same] at present
      change found.Recorded book
      rcases written with unchanged | held
      · rw [unchanged]
        exact orderly.recorded other found present
      · apply unadmitted_recorded
        rw [Bool.eq_false_iff]
        intro admitted
        have also := (orderly.guarded other found present).mp admitted
        rw [held] at also
        exact same (Option.some.inj also).symm
  decided other found present := by
    rw [set_calls] at present
    by_cases same : other = id
    · rw [if_pos same] at present
      obtain rfl := Option.some.inj present
      exact decided
    · rw [if_neg same] at present
      exact orderly.decided other found present

/-- An event that leaves the mutex and the record alone. -/
theorem Orderly.quiet (orderly : connection.Orderly) (found : connection.calls id = some state)
    (same : state'.phase.isAdmitted = state.phase.isAdmitted)
    (recorded : state'.Recorded connection.book) (decided : state'.Decided) :
    (connection.set id state').Orderly := by
  apply orderly.next (fun _ _ => Iff.rfl) _ (.inl rfl) recorded decided
  rw [same]
  exact orderly.guarded id state found

end

end Connection

namespace CallState

section

variable {state : CallState}

theorem Decided.initial (call : ToolCall) : ({ call } : CallState).Decided where
  early _ := nofun
  allowed := nofun
  stopped := nofun
  requested := nofun
  expired := nofun
  settled _ := nofun

theorem Decided.moveTo (decided : state.Decided) {phase : CallPhase}
    (early : phase.isEarly = true → state.phase.isEarly = true)
    (settled : ∀ outcome, phase.outcome? = some outcome → state.Settles outcome) :
    { state with phase }.Decided where
  early within := decided.early (early within)
  allowed := decided.allowed
  stopped := decided.stopped
  requested := decided.requested
  expired := decided.expired
  settled := settled

/-- The outcome of the call, where it has one, stays. -/
theorem Decided.keep (decided : state.Decided) {phase : CallPhase}
    (early : phase.isEarly = true → state.phase.isEarly = true)
    (outcome : phase.outcome? = state.phase.outcome? ∨ phase.outcome? = none) :
    { state with phase }.Decided := by
  apply decided.moveTo early
  intro settled found
  rcases outcome with same | absent
  · rw [same] at found
    exact decided.settled settled found
  · rw [absent] at found
    cases found

theorem Decided.arm (decided : state.Decided) (armed : Bool) : { state with armed }.Decided where
  early := decided.early
  allowed := decided.allowed
  stopped := decided.stopped
  requested := decided.requested
  expired := decided.expired
  settled := decided.settled

theorem Decided.cancel (decided : state.Decided) : { state with cancelled := true }.Decided where
  early := decided.early
  allowed := decided.allowed
  stopped := decided.stopped
  requested _ := rfl
  expired := decided.expired
  settled outcome found := by
    have settles := decided.settled outcome found
    unfold Settles at settles ⊢
    cases dispatched : outcome.dispatched with
    | none =>
      rw [dispatched] at settles
      exact ⟨settles.1, rfl, settles.2.2⟩
    | some result =>
      rw [dispatched] at settles
      exact settles

/-- Only an active signal changes. -/
theorem receive_eq (signal : Signal) (arrival : Arrival) :
    signal.receive (some arrival) = signal ∨
      signal = .active ∧ (arrival = .cancel ∧ signal.receive (some arrival) = .cancelled ∨
        arrival = .timeout ∧ signal.receive (some arrival) = .timedOut) := by
  cases signal with
  | active =>
    right
    cases arrival with
    | cancel => exact ⟨rfl, .inl ⟨rfl, rfl⟩⟩
    | timeout => exact ⟨rfl, .inr ⟨rfl, rfl⟩⟩
  | cancelled | committed | timedOut => exact .inl rfl

theorem Decided.fire (decided : state.Decided) {arrival : Arrival}
    (fires : state.fires arrival = true) :
    { state with armed := false, signal := state.signal.receive (some arrival) }.Decided := by
  rcases receive_eq state.signal arrival with same | ⟨active, arrived⟩
  · rw [same]
    exact decided.arm false
  · have undecided : state.signal ≠ .committed ∧ state.signal.isCancelled = false ∧
        state.signal ≠ .timedOut := by
      rw [active]
      decide
    obtain ⟨uncommitted, running, unexpired⟩ := undecided
    have stops : state.signal.receive (some arrival) ≠ .committed := by
      rcases arrived with ⟨-, became⟩ | ⟨-, became⟩
      · rw [became]
        decide
      · rw [became]
        decide
    constructor
    · intro _
      exact stops
    · intro committed
      exact absurd (decided.allowed committed) uncommitted
    · intro told
      rw [decided.stopped told] at running
      cases running
    · intro cancelled
      rcases arrived with ⟨rfl, -⟩ | ⟨-, became⟩
      · exact (Bool.and_eq_true_iff.mp fires).2
      · rw [became] at cancelled
        cases cancelled
    · intro expired
      rcases arrived with ⟨-, became⟩ | ⟨rfl, -⟩
      · rw [became] at expired
        cases expired
      · exact (Bool.and_eq_true_iff.mp fires).2
    · intro outcome found
      have settles := decided.settled outcome found
      unfold Settles at settles ⊢
      cases dispatched : outcome.dispatched with
      | none =>
        rw [dispatched] at settles
        exact ⟨settles.1, settles.2.1, stops⟩
      | some result =>
        rw [dispatched] at settles
        rcases settles with same | ⟨-, late⟩
        · exact .inl same
        · exact absurd late unexpired

theorem Decided.poll (decided : state.Decided) :
    { state with polls := state.signal.isCancelled :: state.polls }.Decided where
  early := decided.early
  allowed := decided.allowed
  stopped told := by
    rcases told with polled | refused
    · rcases List.mem_cons.mp polled with answer | earlier
      · exact answer.symm
      · exact decided.stopped (.inl earlier)
    · exact decided.stopped (.inr refused)
  requested := decided.requested
  expired := decided.expired
  settled := decided.settled

theorem Decided.commit (decided : state.Decided) (late : state.phase.isEarly = false)
    (running : state.phase.outcome? = none) :
    { state with
      signal := state.signal.commit
      commits := (!state.signal.isCancelled) :: state.commits }.Decided := by
  have unsettled : ∀ outcome, state.phase.outcome? ≠ some outcome := by simp [running]
  cases cancelled : state.signal.isCancelled with
  | true =>
    have stays : state.signal.commit = state.signal := if_pos cancelled
    rw [stays]
    exact
      { early := decided.early
        allowed := fun allowed => decided.allowed (by simpa using allowed)
        stopped := fun _ => cancelled
        requested := decided.requested
        expired := decided.expired
        settled := decided.settled }
  | false =>
    have becomes : state.signal.commit = .committed := by
      rw [Signal.commit, cancelled]
      rfl
    rw [becomes]
    exact
      { early := fun early => by rw [late] at early; cases early
        allowed := fun _ => rfl
        stopped := fun told => by
          have earlier := decided.stopped (by simpa using told)
          rw [cancelled] at earlier
          cases earlier
        requested := nofun
        expired := nofun
        settled := fun outcome found => absurd found (unsettled outcome) }

theorem settles_some {outcome : Outcome} {result : Except Error Value}
    (dispatched : outcome.dispatched = some result)
    (same : outcome.result = result ∨
      outcome.result = .error queryDeadline ∧ state.signal = .timedOut) :
    state.Settles outcome := by
  unfold Settles
  rw [dispatched]
  exact same

theorem settles_outcome (result : Except Error Value) : state.Settles (state.outcome result) := by
  apply settles_some rfl
  by_cases late : state.signal = .timedOut
  · exact .inr ⟨if_pos late, late⟩
  · exact .inl (if_neg late)

theorem Decided.work (decided : state.Decided) {generation : Nat}
    (begun : state.phase = .begun generation) :
    { state with phase := state.start generation }.Decided := by
  unfold CallState.start
  split
  · rename_i cancelled
    apply decided.moveTo (by simp [CallPhase.isEarly])
    intro outcome settled
    obtain rfl := Option.some.inj settled
    exact ⟨rfl, cancelled, decided.early (by rw [begun]; rfl)⟩
  · exact decided.keep (by simp [CallPhase.isEarly]) (.inr rfl)

theorem Decided.next (decided : state.Decided) {state' : CallState} (next : state.Next state') :
    state'.Decided := by
  cases next with
  | cancel => exact decided.cancel
  | withdraw waiting => exact decided.keep (fun _ => by rw [waiting]; rfl) (.inr rfl)
  | admitCall waiting => exact decided.keep (fun _ => by rw [waiting]; rfl) (.inr rfl)
  | begin generation admitted =>
    have begun := @Decided.keep _ decided (.begun generation) (fun _ => by rw [admitted]; rfl)
      (.inr rfl)
    exact begun.arm true
  | fire fires => exact decided.fire fires
  | work begun => exact decided.work begun
  | commit working => exact decided.commit (by rw [working]; rfl) (by rw [working]; rfl)
  | poll => exact decided.poll
  | go next working => exact decided.keep (by simp [CallPhase.isEarly]) (.inr rfl)
  | return' result working =>
    apply decided.moveTo (by simp [CallPhase.isEarly])
    intro outcome settled
    obtain rfl := Option.some.inj settled
    exact settles_outcome result
  | finish settling =>
    exact decided.keep (by simp [CallPhase.isEarly]) (.inl (by rw [settling]; rfl))
  | release finished =>
    exact decided.keep (by simp [CallPhase.isEarly]) (.inl (by rw [finished]; rfl))
  | panic working => exact decided.keep (by simp [CallPhase.isEarly]) (.inr rfl)
  | abort => exact decided.arm false

/-- The deadline has expired before the end of `dispatch`. -/
def Expired (state : CallState) : Prop :=
  state.signal = .timedOut ∧ ∀ outcome, state.phase.outcome? = some outcome →
    ∀ result, outcome.dispatched = some result → outcome.result = .error queryDeadline

/-- An expired signal stays so, and the worker asks for it. -/
theorem Expired.next (expired : state.Expired) {state' : CallState} (next : state.Next state') :
    state'.Expired := by
  obtain ⟨late, answers⟩ := expired
  have unsettled {phase : CallPhase} (absent : phase.outcome? = none) : ∀ outcome,
      phase.outcome? = some outcome → ∀ result, outcome.dispatched = some result →
        outcome.result = .error queryDeadline := by
    intro outcome found
    rw [absent] at found
    cases found
  cases next with
  | cancel | poll | abort => exact ⟨late, answers⟩
  | withdraw | admitCall | begin | go | panic => exact ⟨late, unsettled rfl⟩
  | fire fires =>
    rcases receive_eq state.signal _ with same | ⟨active, -⟩
    · exact ⟨same.trans late, answers⟩
    · rw [late] at active
      cases active
  | work begun =>
    refine ⟨late, ?_⟩
    unfold CallState.start
    split
    · intro outcome settled result ran
      obtain rfl := Option.some.inj settled
      cases ran
    · exact unsettled rfl
  | commit working =>
    have stands : state.signal.commit = state.signal := if_pos (by rw [late]; rfl)
    exact ⟨stands.trans late, answers⟩
  | return' result working =>
    refine ⟨late, fun outcome settled _ _ => ?_⟩
    obtain rfl := Option.some.inj settled
    exact if_pos late
  | finish settling => exact ⟨late, fun outcome found => answers outcome (settling ▸ found)⟩
  | release finished => exact ⟨late, fun outcome found => answers outcome (finished ▸ found)⟩

/-- The call is cancelled, and its worker has not run it. -/
def Unrun (state : CallState) : Prop :=
  state.cancelled = true ∧ (state.phase.isEarly = true ∨
    ∃ outcome, state.phase.outcome? = some outcome ∧ outcome.dispatched = none)

theorem Unrun.idle (unrun : state.Unrun) (generation : Nat) (observed : Option Nat) :
    state.phase ≠ .working generation observed := by
  rintro working
  rcases unrun.2 with early | ⟨outcome, settled, -⟩
  · rw [working] at early
    cases early
  · rw [working] at settled
    cases settled

/-- Its worker reports the cancellation instead of running it. -/
theorem Unrun.next (unrun : state.Unrun) {state' : CallState} (next : state.Next state') :
    state'.Unrun := by
  obtain ⟨cancelled, undispatched⟩ := unrun
  cases next with
  | cancel => exact ⟨rfl, undispatched⟩
  | fire | poll | abort => exact ⟨cancelled, undispatched⟩
  | withdraw | admitCall | begin => exact ⟨cancelled, .inl rfl⟩
  | work begun =>
    refine ⟨cancelled, .inr
      ⟨{ dispatched := none, result := .error cancelledBeforeAdmission }, ?_, rfl⟩⟩
    rw [CallState.start, if_pos cancelled]
    rfl
  | commit working | go _ working | return' _ working | panic working =>
    exact absurd working (Unrun.idle ⟨cancelled, undispatched⟩ _ _)
  | finish settling =>
    refine ⟨cancelled, .inr ?_⟩
    rcases undispatched with early | settled
    · rw [settling] at early
      cases early
    · rwa [settling] at settled
  | release finished =>
    refine ⟨cancelled, .inr ?_⟩
    rcases undispatched with early | settled
    · rw [finished] at early
      cases early
    · rwa [finished] at settled

end

end CallState

namespace Connection

section

variable {connection after : Connection}

theorem Orderly.initial : ({} : Connection).Orderly where
  guarded _ _ := nofun
  present _ := nofun
  recorded _ _ := nofun
  decided _ _ := nofun

section

variable {id : CallId}

theorem Orderly.arrive (orderly : connection.Orderly) {call : ToolCall}
    (stepped : connection.step (.arrive id call) = some after) : after.Orderly := by
  simp only [Connection.step] at stepped
  split at stepped
  · cases stepped
  · rename_i absent
    obtain rfl := Option.some.inj stepped
    apply orderly.next (fun _ _ => Iff.rfl) _ (.inl rfl)
    · trivial
    · exact .initial call
    · constructor
      · nofun
      · intro held
        exact absurd (orderly.present id held) absent

theorem Orderly.cancel (orderly : connection.Orderly)
    (stepped : connection.step (.cancel id) = some after) : after.Orderly := by
  obtain ⟨state, next, found, went, rfl⟩ := on_some stepped
  obtain rfl := Option.some.inj went
  apply orderly.quiet found
  · rfl
  · exact orderly.recorded id state found
  · exact (orderly.decided id state found).next .cancel

theorem Orderly.withdraw (orderly : connection.Orderly)
    (stepped : connection.step (.withdraw id) = some after) : after.Orderly := by
  obtain ⟨state, next, found, went, rfl⟩ := on_some stepped
  split at went
  · rename_i waiting
    split at went
    · obtain rfl := Option.some.inj went
      apply orderly.quiet found
      · rw [waiting]
        rfl
      · trivial
      · exact (orderly.decided id state found).next (.withdraw waiting)
    · cases went
  · cases went

theorem Orderly.admitCall (orderly : connection.Orderly)
    (stepped : connection.step (.admitCall id) = some after) : after.Orderly := by
  obtain ⟨state, next, found, went, rfl⟩ := on_some stepped
  split at went
  · rename_i waiting
    split at went
    · cases went
    · rename_i free
      obtain rfl := Option.some.inj went
      have unheld : connection.guard = none := Option.not_isSome_iff_eq_none.mp free
      apply orderly.next _ _ (.inl rfl)
      · trivial
      · exact (orderly.decided id state found).next (.admitCall waiting)
      · intro other different
        simp [unheld, Ne.symm different]
      · simp [CallPhase.isAdmitted]
  · cases went

theorem Orderly.begin (orderly : connection.Orderly) {now : Nat}
    (stepped : connection.step (.begin id now) = some after) : after.Orderly := by
  obtain ⟨state, next, found, went, rfl⟩ := on_some stepped
  split at went
  · rename_i admitted
    obtain rfl := Option.some.inj went
    have held := (orderly.guarded id state found).mp (by rw [admitted]; rfl)
    apply orderly.next (fun _ _ => Iff.rfl) _ (.inr held)
    · exact ProgressBook.begin_runs _ _
    · exact (orderly.decided id state found).next
        (.begin (nextGeneration connection.book.generation) admitted)
    · simp [CallPhase.isAdmitted, held]
  · cases went

theorem Orderly.fire (orderly : connection.Orderly) {arrival : Arrival}
    (stepped : connection.step (.fire id arrival) = some after) : after.Orderly := by
  obtain ⟨state, next, found, went, rfl⟩ := on_some stepped
  split at went
  · rename_i fires
    obtain rfl := Option.some.inj went
    apply orderly.quiet found
    · rfl
    · exact orderly.recorded id state found
    · exact (orderly.decided id state found).next (.fire fires)
  · cases went

theorem Orderly.work (orderly : connection.Orderly)
    (stepped : connection.step (.work id) = some after) : after.Orderly := by
  obtain ⟨state, next, found, went, rfl⟩ := on_some stepped
  split at went
  · rename_i generation begun
    obtain rfl := Option.some.inj went
    have runs := orderly.recorded id state found
    simp only [CallState.Recorded, begun] at runs
    apply orderly.quiet found
    · rw [begun, CallState.start]
      split <;> rfl
    · cases cancelled : state.cancelled with
      | true =>
        rw [CallState.start, if_pos cancelled]
        exact runs
      | false =>
        rw [CallState.start, if_neg (by rw [cancelled]; exact Bool.false_ne_true)]
        exact ⟨runs, nofun⟩
    · exact (orderly.decided id state found).next (.work begun)
  · cases went

theorem Orderly.commit (orderly : connection.Orderly)
    (stepped : connection.step (.commit id) = some after) : after.Orderly := by
  obtain ⟨state, next, found, went, rfl⟩ := on_some stepped
  split at went
  · rename_i working
    obtain rfl := Option.some.inj went
    apply orderly.quiet found
    · rfl
    · exact orderly.recorded id state found
    · exact (orderly.decided id state found).next (.commit working)
  · cases went

theorem Orderly.poll (orderly : connection.Orderly)
    (stepped : connection.step (.poll id) = some after) : after.Orderly := by
  obtain ⟨state, next, found, went, rfl⟩ := on_some stepped
  split at went
  · obtain rfl := Option.some.inj went
    apply orderly.quiet found
    · rfl
    · exact orderly.recorded id state found
    · exact (orderly.decided id state found).next .poll
  · cases went

theorem Orderly.observe (orderly : connection.Orderly)
    (stepped : connection.step (.observe id) = some after) : after.Orderly := by
  obtain ⟨state, next, found, went, rfl⟩ := on_some stepped
  split at went
  · rename_i working
    obtain rfl := Option.some.inj went
    have runs := orderly.recorded id state found
    simp only [CallState.Recorded, working] at runs
    apply orderly.quiet found
    · rw [working]
      rfl
    · refine ⟨runs.1, fun seen read => ?_⟩
      rw [← Option.some.inj read]
      exact runs.1.1
    · exact (orderly.decided id state found).next (.go _ working)
  · cases went

theorem Orderly.report (orderly : connection.Orderly) {phase : String} {completed : Nat}
    {total : Option Nat} {log : String}
    (stepped : connection.step (.report id phase completed total log) = some after) :
    after.Orderly := by
  obtain ⟨state, next, found, went, rfl⟩ := on_some stepped
  split at went
  · rename_i generation observed working
    obtain rfl := Option.some.inj went
    have held := (orderly.guarded id state found).mp (by rw [working]; rfl)
    have runs := orderly.recorded id state found
    simp only [CallState.Recorded, working] at runs
    apply orderly.next (fun _ _ => Iff.rfl) _ (.inr held)
    · exact ⟨runs.1.update observed phase completed total log, nofun⟩
    · exact (orderly.decided id state found).next (.go none working)
    · simp [CallPhase.isAdmitted, held]
  · cases went

theorem Orderly.target (orderly : connection.Orderly) {value : Value}
    (stepped : connection.step (.target id value) = some after) : after.Orderly := by
  obtain ⟨state, next, found, went, rfl⟩ := on_some stepped
  split at went
  · rename_i working
    obtain rfl := Option.some.inj went
    have held := (orderly.guarded id state found).mp (by rw [working]; rfl)
    have runs := orderly.recorded id state found
    apply orderly.next (fun _ _ => Iff.rfl) _ (.inr held)
    · simp only [CallState.Recorded, working] at runs ⊢
      exact ⟨runs.1.setTarget value, runs.2⟩
    · exact orderly.decided id state found
    · exact orderly.guarded id state found
  · cases went

theorem Orderly.return' (orderly : connection.Orderly) {result : Except Error Value}
    (stepped : connection.step (.return' id result) = some after) : after.Orderly := by
  obtain ⟨state, next, found, went, rfl⟩ := on_some stepped
  split at went
  · rename_i working
    obtain rfl := Option.some.inj went
    have runs := orderly.recorded id state found
    simp only [CallState.Recorded, working] at runs
    apply orderly.quiet found
    · rw [working]
      rfl
    · exact runs.1
    · exact (orderly.decided id state found).next (.return' result working)
  · cases went

theorem Orderly.finish (orderly : connection.Orderly) {now : Nat}
    (stepped : connection.step (.finish id now) = some after) : after.Orderly := by
  obtain ⟨state, next, found, went, rfl⟩ := on_some stepped
  split at went
  · rename_i generation outcome settling
    obtain rfl := Option.some.inj went
    have held := (orderly.guarded id state found).mp (by rw [settling]; rfl)
    have runs := orderly.recorded id state found
    simp only [CallState.Recorded, settling] at runs
    apply orderly.next (fun _ _ => Iff.rfl) _ (.inr held)
    · exact runs.finish outcome.result now
    · exact (orderly.decided id state found).next (.finish settling)
    · simp [CallPhase.isAdmitted, held]
  · cases went

theorem Orderly.release (orderly : connection.Orderly)
    (stepped : connection.step (.release id) = some after) : after.Orderly := by
  obtain ⟨state, next, found, went, rfl⟩ := on_some stepped
  split at went
  · rename_i finished
    obtain rfl := Option.some.inj went
    have held := (orderly.guarded id state found).mp (by rw [finished]; rfl)
    apply orderly.next _ _ (.inl rfl)
    · trivial
    · exact (orderly.decided id state found).next (.release finished)
    · intro other different
      simp [held, Ne.symm different]
    · simp [CallPhase.isAdmitted]
  · cases went

theorem Orderly.panic (orderly : connection.Orderly)
    (stepped : connection.step (.panic id) = some after) : after.Orderly := by
  obtain ⟨state, next, found, went, rfl⟩ := on_some stepped
  split at went
  · rename_i working
    obtain rfl := Option.some.inj went
    have held := (orderly.guarded id state found).mp (by rw [working]; rfl)
    apply orderly.next _ _ (.inl rfl)
    · trivial
    · exact (orderly.decided id state found).next (.panic working)
    · intro other different
      simp [held, Ne.symm different]
    · simp [CallPhase.isAdmitted]
  · cases went

theorem Orderly.abort (orderly : connection.Orderly)
    (stepped : connection.step (.abort id) = some after) : after.Orderly := by
  obtain ⟨state, next, found, went, rfl⟩ := on_some stepped
  have disarmed : (connection.set id { state with armed := false }).Orderly := by
    apply orderly.quiet found
    · rfl
    · exact orderly.recorded id state found
    · exact (orderly.decided id state found).next .abort
  split at went
  · obtain rfl := Option.some.inj went
    exact disarmed
  · obtain rfl := Option.some.inj went
    exact disarmed
  · cases went

end

theorem Orderly.step (orderly : connection.Orderly) {event : CallEvent}
    (stepped : connection.step event = some after) : after.Orderly := by
  cases event with
  | arrive => exact orderly.arrive stepped
  | cancel => exact orderly.cancel stepped
  | withdraw => exact orderly.withdraw stepped
  | admitCall => exact orderly.admitCall stepped
  | begin => exact orderly.begin stepped
  | fire => exact orderly.fire stepped
  | work => exact orderly.work stepped
  | commit => exact orderly.commit stepped
  | poll => exact orderly.poll stepped
  | observe => exact orderly.observe stepped
  | report => exact orderly.report stepped
  | target => exact orderly.target stepped
  | return' => exact orderly.return' stepped
  | finish => exact orderly.finish stepped
  | release => exact orderly.release stepped
  | panic => exact orderly.panic stepped
  | abort => exact orderly.abort stepped

theorem Reached.orderly (reached : connection.Reached) : connection.Orderly :=
  reached.invariant Orderly .initial fun _ _ _ orderly _ stepped => orderly.step stepped

/-! ### What an event does to one call -/

/-- The calls after a step of one call. -/
theorem on_next {id other : CallId} {state : CallState}
    {move : CallState → Option (Connection × CallState)}
    (moved : connection.on other move = some after) (found : connection.calls id = some state)
    (moves : ∀ state next, move state = some next → next.1.calls = connection.calls ∧
      (next.2 = state ∨ state.Next next.2)) :
    ∃ state', after.calls id = some state' ∧ (state' = state ∨ state.Next state') := by
  obtain ⟨mine, next, found', went, rfl⟩ := on_some moved
  obtain ⟨same, follows⟩ := moves mine next went
  rw [set_calls, same]
  by_cases own : id = other
  · subst own
    obtain rfl := Option.some.inj (found.symm.trans found')
    exact ⟨next.2, if_pos rfl, follows⟩
  · exact ⟨state, by rw [if_neg own]; exact found, .inl rfl⟩

theorem step_next {id : CallId} {state : CallState} {event : CallEvent}
    (stepped : connection.step event = some after) (found : connection.calls id = some state) :
    ∃ state', after.calls id = some state' ∧ (state' = state ∨ state.Next state') := by
  cases event with
  | arrive other call =>
    simp only [Connection.step] at stepped
    split at stepped
    · cases stepped
    · rename_i absent
      obtain rfl := Option.some.inj stepped
      refine ⟨state, ?_, .inl rfl⟩
      rw [set_calls, if_neg, found]
      rintro rfl
      exact absent (by rw [found]; rfl)
  | cancel =>
    refine on_next stepped found fun mine next went => ?_
    obtain rfl := Option.some.inj went
    exact ⟨rfl, .inr .cancel⟩
  | withdraw | admitCall | begin | fire | work | commit | poll | observe | report | target | return' |
      finish | release | panic | abort =>
    refine on_next stepped found fun mine next went => ?_
    grind [CallState.Next]

/-- What every event keeps of a call holds of it from then on. -/
theorem run_keeps {id : CallId} {state : CallState} {kept : CallState → Prop}
    (keeps : ∀ state state', kept state → state.Next state' → kept state') {later : Connection}
    (run : Reachable step (fun _ _ => True) connection later)
    (found : connection.calls id = some state) (holds : kept state) :
    ∃ state', later.calls id = some state' ∧ kept state' := by
  refine run.invariant (fun later => ∃ state', later.calls id = some state' ∧ kept state')
    ⟨state, found, holds⟩ ?_
  rintro between event after ⟨middle, present, holds⟩ - stepped
  obtain ⟨state', found', same | next⟩ := step_next stepped present
  · exact ⟨state', found', same ▸ holds⟩
  · exact ⟨state', found', keeps middle state' holds next⟩

/-- What a call with the guard does next. -/
def next (id : CallId) (now : Nat) (result : Except Error Value) : CallPhase → Option CallEvent
  | .admitted => some (.begin id now)
  | .begun _ => some (.work id)
  | .working _ _ => some (.return' id result)
  | .settling _ _ => some (.finish id now)
  | .finished _ _ => some (.release id)
  | _ => none

theorem next_enabled {id : CallId} {state : CallState} (found : connection.calls id = some state)
    (admitted : state.phase.isAdmitted = true) (now : Nat) (result : Except Error Value) :
    ∃ event, next id now result state.phase = some event ∧
      (connection.step event).isSome = true := by
  cases phase : state.phase with
  | waiting | answered | withdrawn | lost =>
    rw [phase] at admitted
    cases admitted
  | admitted => exact ⟨_, rfl, by simp [Connection.step, on, found, phase]⟩
  | begun => exact ⟨_, rfl, by simp [Connection.step, on, found, phase]⟩
  | working => exact ⟨_, rfl, by simp [Connection.step, on, found, phase]⟩
  | settling => exact ⟨_, rfl, by simp [Connection.step, on, found, phase]⟩
  | finished => exact ⟨_, rfl, by simp [Connection.step, on, found, phase]⟩

/-- Only the call with the guard writes the record. -/
theorem Orderly.written (orderly : connection.Orderly) {event : CallEvent}
    (stepped : connection.step event = some after) : after.book = connection.book ∨
      ∃ id, event.writer = some id ∧ connection.guard = some id := by
  have holds {id : CallId} {state : CallState} (found : connection.calls id = some state)
      (admitted : state.phase.isAdmitted = true) : connection.guard = some id :=
    (orderly.guarded id state found).mp admitted
  cases event with
  | arrive id call =>
    simp only [Connection.step] at stepped
    split at stepped
    · cases stepped
    · obtain rfl := Option.some.inj stepped
      exact .inl rfl
  | begin id | report id | target id | finish id =>
    obtain ⟨state, next, found, went, rfl⟩ := on_some stepped
    refine .inr ⟨id, rfl, holds found ?_⟩
    split at went
    · rename_i phase
      rw [phase]
      rfl
    · cases went
  | cancel | withdraw | admitCall | fire | work | commit | poll | observe | return' | release | panic |
      abort =>
    obtain ⟨state, next, found, went, rfl⟩ := on_some stepped
    left
    grind [Connection.set]

/-- A report of the worker is in the record. -/
theorem Orderly.report_eq (orderly : connection.Orderly) {id : CallId} {phase : String}
    {completed : Nat} {total : Option Nat} {log : String}
    (stepped : connection.step (.report id phase completed total log) = some after) :
    ∃ record, connection.book.record = some record ∧ after.book =
      { connection.book with record := some (record.report phase completed total log) } := by
  obtain ⟨state, next, found, went, rfl⟩ := on_some stepped
  split at went
  · rename_i generation observed working
    obtain rfl := Option.some.inj went
    have runs := orderly.recorded id state found
    simp only [CallState.Recorded, working] at runs
    obtain rfl := runs.2 observed rfl
    exact runs.1.update_eq phase completed total log
  · cases went

theorem Orderly.target_eq (orderly : connection.Orderly) {id : CallId} {value : Value}
    (stepped : connection.step (.target id value) = some after) :
    ∃ record, connection.book.record = some record ∧
      after.book = { connection.book with record := some { record with target := some value } } := by
  obtain ⟨state, next, found, went, rfl⟩ := on_some stepped
  split at went
  · rename_i working
    obtain rfl := Option.some.inj went
    have runs := orderly.recorded id state found
    simp only [CallState.Recorded, working] at runs
    exact runs.1.onRunning_eq
  · cases went

/-- The calls of a connection are handled one at a time. The progress record is
the one of the call at hand from its begin to its release, and ends with the
status of its result: nobody else writes it, and each report and each target of
the worker is in it. A call that waits can be admitted, or the one at hand can
go on. -/
theorem Reached.attributed (reached : connection.Reached) :
    (∀ first second state state', connection.calls first = some state →
      connection.calls second = some state' → state.phase.isAdmitted = true →
      state'.phase.isAdmitted = true → first = second) ∧
    (∀ id state, connection.calls id = some state → state.Recorded connection.book) ∧
    (∀ event after, connection.step event = some after → after.book = connection.book ∨
      ∃ id, event.writer = some id ∧ connection.guard = some id) ∧
    (∀ id phase completed total log after,
      connection.step (.report id phase completed total log) = some after →
      ∃ record, connection.book.record = some record ∧ after.book =
        { connection.book with record := some (record.report phase completed total log) }) ∧
    (∀ id value after, connection.step (.target id value) = some after →
      ∃ record, connection.book.record = some record ∧ after.book =
        { connection.book with record := some { record with target := some value } }) ∧
    ∀ id state, connection.calls id = some state → state.phase = .waiting →
      (connection.step (.admitCall id)).isSome = true ∨
        ∃ holder holding, connection.calls holder = some holding ∧ ∀ now result,
          ∃ event, next holder now result holding.phase = some event ∧
            (connection.step event).isSome = true := by
  have orderly := reached.orderly
  refine ⟨?_, orderly.recorded, fun _ _ => orderly.written, fun _ _ _ _ _ _ => orderly.report_eq,
    fun _ _ _ => orderly.target_eq, ?_⟩
  · intro first second state state' found found' admitted admitted'
    have held := (orderly.guarded first state found).mp admitted
    rw [(orderly.guarded second state' found').mp admitted'] at held
    exact (Option.some.inj held).symm
  · intro id state found waiting
    cases guard : connection.guard with
    | none =>
      left
      simp [Connection.step, on, found, waiting, guard]
    | some holder =>
      right
      obtain ⟨holding, present⟩ := Option.isSome_iff_exists.mp (orderly.present holder guard)
      have admitted := (orderly.guarded holder holding present).mpr guard
      exact ⟨holder, holding, present, next_enabled present admitted⟩

/-- Commit and interruption exclude each other, in the order in which they came:
a request that was allowed to commit is never told to stop, and the other way
round. Its answer is what `dispatch` returned, except that a query whose deadline
expires before reports this, and that a call cancelled before its worker starts
does not run: these happen, and nothing else does. -/
theorem Reached.one_winner (reached : connection.Reached) {id : CallId} {state : CallState}
    (found : connection.calls id = some state) :
    (true ∈ state.commits → true ∉ state.polls ∧ false ∉ state.commits) ∧
    (∀ outcome, state.phase.outcome? = some outcome →
      (∀ result, outcome.dispatched = some result → outcome.result ≠ result →
        outcome.result = .error queryDeadline ∧ state.signal = .timedOut ∧
          state.call.name = "query" ∧ true ∉ state.commits) ∧
      (outcome.dispatched = none → outcome.result = .error cancelledBeforeAdmission ∧
        state.cancelled = true ∧ true ∉ state.commits)) ∧
    ∀ later state', Reachable step (fun _ _ => True) connection later →
      later.calls id = some state' →
      (state.signal = .timedOut → state.phase.outcome? = none →
        ∀ outcome result, state'.phase.outcome? = some outcome →
          outcome.dispatched = some result → outcome.result = .error queryDeadline) ∧
      (state.cancelled = true → state.phase.isEarly = true →
        (∀ generation observed, state'.phase ≠ .working generation observed) ∧
          ∀ outcome, state'.phase.outcome? = some outcome → outcome.dispatched = none) := by
  have decided := reached.orderly.decided id state found
  refine ⟨?_, ?_, ?_⟩
  · intro allowed
    have committed := decided.allowed allowed
    have running : state.signal.isCancelled = false := by
      rw [committed]
      rfl
    constructor
    · intro polled
      rw [decided.stopped (.inl polled)] at running
      cases running
    · intro refused
      rw [decided.stopped (.inr refused)] at running
      cases running
  · intro outcome settled
    have settles := decided.settled outcome settled
    constructor
    · intro result dispatched different
      simp only [CallState.Settles, dispatched] at settles
      obtain ⟨deadline, expired⟩ := settles.resolve_left different
      refine ⟨deadline, expired, by simpa [ToolCall.timed] using decided.expired expired,
        fun allowed => ?_⟩
      rw [decided.allowed allowed] at expired
      cases expired
    · intro undispatched
      simp only [CallState.Settles, undispatched] at settles
      exact ⟨settles.1, settles.2.1, fun allowed => settles.2.2 (decided.allowed allowed)⟩
  · intro later state' run found'
    constructor
    · intro expired running outcome result settled dispatched
      have begun : state.Expired :=
        ⟨expired, fun outcome settled => by rw [running] at settled; cases settled⟩
      obtain ⟨_, present, -, answers⟩ :=
        run_keeps (fun _ _ expired next => expired.next next) run found begun
      obtain rfl := Option.some.inj (found'.symm.trans present)
      exact answers outcome settled result dispatched
    · intro cancelled early
      obtain ⟨_, present, unrun⟩ := run_keeps (fun _ _ unrun next => CallState.Unrun.next unrun next)
        run found ⟨cancelled, .inl early⟩
      obtain rfl := Option.some.inj (found'.symm.trans present)
      refine ⟨unrun.idle, fun outcome settled => ?_⟩
      rcases unrun.2 with waits | ⟨other, settled', absent⟩
      · rw [CallPhase.outcome?_early waits] at settled
        cases settled
      · obtain rfl := Option.some.inj (settled.symm.trans settled')
        exact absent

theorem update_generation (book : ProgressBook) (generation : Nat) (phase : String)
    (completed : Nat) (total : Option Nat) (log : String) :
    (book.update generation phase completed total log).generation = book.generation := by
  unfold ProgressBook.update
  split
  · rfl
  · rfl

theorem finish_generation (book : ProgressBook) (generation : Nat) (result : Except Error Value)
    (now : Nat) : (book.finish generation result now).generation = book.generation := by
  unfold ProgressBook.finish
  split
  · rfl
  · rfl

theorem step_generation {event : CallEvent} (stepped : connection.step event = some after) :
    after.book.generation =
      if event.begins then nextGeneration connection.book.generation
      else connection.book.generation := by
  cases event with
  | arrive id call =>
    simp only [Connection.step] at stepped
    split at stepped
    · cases stepped
    · obtain rfl := Option.some.inj stepped
      rfl
  | report id phase completed total log =>
    obtain ⟨state, next, found, went, rfl⟩ := on_some stepped
    split at went
    · obtain rfl := Option.some.inj went
      exact update_generation ..
    · cases went
  | finish id now =>
    obtain ⟨state, next, found, went, rfl⟩ := on_some stepped
    split at went
    · obtain rfl := Option.some.inj went
      exact finish_generation ..
    · cases went
  | cancel | withdraw | admitCall | begin | fire | work | commit | poll | observe | target | return' |
      release | panic | abort =>
    obtain ⟨state, next, found, went, rfl⟩ := on_some stepped
    grind [Connection.set, ProgressBook.begin, ProgressBook.setTarget, ProgressBook.onRunning,
      CallEvent.begins]

theorem run_generation (events : List CallEvent)
    (ran : events.foldlM step connection = some after) (bounded : connection.book.generation ≤ wordMax) :
    after.book.generation =
      min (connection.book.generation + events.countP CallEvent.begins) wordMax := by
  induction events generalizing connection with
  | nil =>
    obtain rfl := Option.some.inj ran
    simpa using (Nat.min_eq_left bounded).symm
  | cons event rest ih =>
    obtain ⟨middle, stepped, continued⟩ := Option.bind_eq_some_iff.mp ran
    have stepped' := step_generation stepped
    rw [List.countP_cons]
    cases begins : event.begins with
    | true =>
      rw [begins, if_pos rfl, nextGeneration] at stepped'
      rw [ih continued (by omega), stepped', if_pos rfl]
      omega
    | false =>
      rw [begins, if_neg Bool.false_ne_true] at stepped'
      rw [ih continued (by omega), stepped', if_neg Bool.false_ne_true]
      omega

/-- The record of an ended operation stays until the next one begins. -/
theorem Orderly.step_book (orderly : connection.Orderly) (ended : connection.book.HasEnded)
    {event : CallEvent} (quiet : event.begins = false)
    (stepped : connection.step event = some after) : after.book = connection.book := by
  cases event with
  | arrive id call =>
    simp only [Connection.step] at stepped
    split at stepped
    · cases stepped
    · obtain rfl := Option.some.inj stepped
      rfl
  | report id phase completed total log =>
    obtain ⟨state, next, found, went, rfl⟩ := on_some stepped
    split at went
    · rename_i working
      have recorded := orderly.recorded id state found
      simp only [CallState.Recorded, working] at recorded
      exact (ended.not_runs recorded.1).elim
    · cases went
  | target id value =>
    obtain ⟨state, next, found, went, rfl⟩ := on_some stepped
    split at went
    · rename_i working
      have recorded := orderly.recorded id state found
      simp only [CallState.Recorded, working] at recorded
      exact (ended.not_runs recorded.1).elim
    · cases went
  | finish id now =>
    obtain ⟨state, next, found, went, rfl⟩ := on_some stepped
    split at went
    · rename_i settling
      have recorded := orderly.recorded id state found
      simp only [CallState.Recorded, settling] at recorded
      exact (ended.not_runs recorded).elim
    · cases went
  | begin id now => cases quiet
  | cancel | withdraw | admitCall | fire | work | commit | poll | observe | return' | release | panic |
      abort =>
    obtain ⟨state, next, found, went, rfl⟩ := on_some stepped
    grind [Connection.set]

theorem Orderly.run_book (orderly : connection.Orderly) (ended : connection.book.HasEnded)
    {events : List CallEvent} (quiet : events.any CallEvent.begins = false)
    (ran : events.foldlM Connection.step connection = some after) : after.book = connection.book := by
  induction events generalizing connection with
  | nil =>
    obtain rfl := Option.some.inj ran
    rfl
  | cons event rest ih =>
    obtain ⟨middle, stepped, continued⟩ := Option.bind_eq_some_iff.mp ran
    rw [List.any_cons, Bool.or_eq_false_iff] at quiet
    have same := orderly.step_book ended quiet.1 stepped
    rw [ih (orderly.step stepped) (same ▸ ended) quiet.2 continued, same]

theorem json_changed (book : ProgressBook) (observed : Option Nat) (now : Nat) :
    (book.json observed now).get? "changed" = some (.bool (book.changed observed)) := by
  unfold ProgressBook.json
  split
  · rfl
  · rfl

/-- A client that polls with the generation it has seen is told of a change
exactly if an operation has begun since. Without one, the record of an ended
operation is still the same. -/
theorem poll_changed {events later : List CallEvent}
    (ran : events.foldlM step {} = some connection) (went : later.foldlM step connection = some after)
    (bounded : (events ++ later).countP CallEvent.begins ≤ wordMax) (now : Nat) :
    (after.book.json (some connection.book.generation) now).get? "changed" =
      some (.bool (later.any CallEvent.begins)) ∧
    (later.any CallEvent.begins = false → connection.book.HasEnded →
      after.book = connection.book) := by
  rw [List.countP_append] at bounded
  have start : connection.book.generation = events.countP CallEvent.begins := by
    rw [run_generation events ran (Nat.zero_le _)]
    change min (0 + _) wordMax = _
    omega
  have stop : after.book.generation =
      events.countP CallEvent.begins + later.countP CallEvent.begins := by
    rw [run_generation later went (by omega), start]
    omega
  constructor
  · rw [json_changed, ProgressBook.changed, stop, start]
    congr 2
    cases begins : later.any CallEvent.begins with
    | true =>
      have some' : 0 < later.countP CallEvent.begins := by
        obtain ⟨event, member, begun⟩ := List.any_eq_true.mp begins
        exact List.countP_pos_iff.mpr ⟨event, member, begun⟩
      have different : events.countP CallEvent.begins ≠
          events.countP CallEvent.begins + later.countP CallEvent.begins := by omega
      simpa using different
    | false =>
      have none' : later.countP CallEvent.begins = 0 := by
        rw [List.countP_eq_zero]
        intro event member begun
        have present := List.any_eq_true.mpr ⟨event, member, begun⟩
        rw [begins] at present
        cases present
      simp [none']
  · intro quiet ended
    have reached : connection.Reached := .foldlM events .initial ran
    exact reached.orderly.run_book ended quiet went

end

/-- A query expires while it runs, and a second call is cancelled while it waits. -/
def expiring : List CallEvent :=
  [.arrive 0 { name := "query", args := .object [] }, .arrive 1 { name := "check", args := .object [] },
    .admitCall 0, .begin 0 0, .work 0, .poll 0, .fire 0 .timeout, .poll 0, .commit 0, .cancel 1,
    .observe 0]

/-- It returns nevertheless, and the second call begins. -/
def expired : List CallEvent :=
  [.report 0 "page" 1 (some 2) "text", .return' 0 (.ok (.object [])), .finish 0 5, .release 0,
    .admitCall 1, .begin 1 6]

/-- The worker of the second call finds the cancellation. -/
def refused : List CallEvent := [.work 1, .finish 1 7]

/-- Both calls have ended. -/
def answers (later : Connection) : Bool :=
  (later.calls 0).any (fun state => state.phase.outcome?.any fun outcome =>
    outcome.dispatched.isSome) &&
  (later.calls 1).any fun state => state.phase.outcome?.isSome

/-- The first call has been told of its deadline, and is in the middle of a report. -/
def interrupted (connection : Connection) : Bool :=
  (connection.calls 0).any (fun state => state.polls = [true, false] && state.commits = [false] &&
    state.phase.isAdmitted && state.phase.outcome?.isNone && state.signal = .timedOut) &&
  (connection.calls 1).any (fun state => state.cancelled && state.phase.isEarly) &&
  (connection.step (.report 0 "page" 1 (some 2) "text")).isSome &&
  (execute step (fun _ _ => True) connection (expired ++ refused)).any answers

def pending : { connection : Connection // connection.Reached ∧ interrupted connection = true } :=
  Reachable.run expiring _ (by decide)

theorem Reached.attributed_pending : ∃ (state : CallState) (record : ProgressRecord)
      (after : Connection),
    pending.val.calls 0 = some state ∧ state.phase.isAdmitted = true ∧
      state.Recorded pending.val.book ∧
      pending.val.step (.report 0 "page" 1 (some 2) "text") = some after ∧
      after.book.record = some (record.report "page" 1 (some 2) "text") ∧
      ∀ id state', pending.val.calls id = some state' → state'.phase.isAdmitted = true → id = 0 := by
  obtain ⟨reached, facts⟩ := pending.property
  simp only [interrupted, Bool.and_eq_true] at facts
  obtain ⟨⟨⟨first, -⟩, reports⟩, -⟩ := facts
  obtain ⟨state, found, facts⟩ := (Option.any_eq_true _ _).mp first
  simp only [Bool.and_eq_true] at facts
  have admitted := facts.1.1.2
  obtain ⟨alone, recorded, -, reported, -⟩ := Reached.attributed reached
  obtain ⟨after, stepped⟩ := Option.isSome_iff_exists.mp reports
  obtain ⟨record, -, written⟩ := reported 0 "page" 1 (some 2) "text" after stepped
  exact ⟨state, record, after, found, admitted, recorded 0 state found, stepped,
    congrArg ProgressBook.record written, fun id state' found' admitted' =>
      alone id 0 state' state found' found admitted' admitted⟩

theorem Reached.one_winner_pending : ∃ (first second : CallState) (later : Connection),
    pending.val.calls 0 = some first ∧ true ∈ first.polls ∧ true ∉ first.commits ∧
      pending.val.calls 1 = some second ∧
      Reachable step (fun _ _ => True) pending.val later ∧
      (∃ state outcome, later.calls 0 = some state ∧ state.phase.outcome? = some outcome ∧
        outcome.result = .error queryDeadline) ∧
      ∃ state outcome, later.calls 1 = some state ∧ state.phase.outcome? = some outcome ∧
        outcome.dispatched = none := by
  obtain ⟨reached, facts⟩ := pending.property
  simp only [interrupted, Bool.and_eq_true] at facts
  obtain ⟨⟨⟨asked, waits⟩, -⟩, ends⟩ := facts
  obtain ⟨first, found, facts⟩ := (Option.any_eq_true _ _).mp asked
  obtain ⟨second, found', facts'⟩ := (Option.any_eq_true _ _).mp waits
  simp only [Bool.and_eq_true, decide_eq_true_eq, Option.isNone_iff_eq_none] at facts facts'
  obtain ⟨⟨⟨⟨polls, -⟩, -⟩, running⟩, late⟩ := facts
  have polled : true ∈ first.polls := by simp [polls]
  obtain ⟨later, run, ended⟩ := Reachable.run (expired ++ refused) answers ends
  simp only [answers, Bool.and_eq_true] at ended
  obtain ⟨state, present, answered⟩ := (Option.any_eq_true _ _).mp ended.1
  obtain ⟨outcome, settled, ran⟩ := (Option.any_eq_true _ _).mp answered
  obtain ⟨result, dispatched⟩ := Option.isSome_iff_exists.mp ran
  obtain ⟨state', present', answered'⟩ := (Option.any_eq_true _ _).mp ended.2
  obtain ⟨outcome', settled'⟩ := Option.isSome_iff_exists.mp answered'
  obtain ⟨winner, -, expires⟩ := Reached.one_winner reached found
  obtain ⟨-, -, stops⟩ := Reached.one_winner reached found'
  exact ⟨first, second, later, found, polled, fun allowed => (winner allowed).1 polled, found', run,
    ⟨state, outcome, present, settled,
      (expires later state run present).1 late running outcome result settled dispatched⟩,
    state', outcome', present', settled',
    ((stops later state' run present').2 facts'.1 facts'.2).2 outcome' settled'⟩

theorem poll_changed_expired :
    ∃ seen after, expiring.foldlM step {} = some seen ∧ expired.foldlM step seen = some after ∧
      (after.book.json (some seen.book.generation) 7).get? "changed" = some (.bool true) := by
  have ran : (expiring.foldlM step {}).isSome = true := by decide
  have went : (expired.foldlM step ((expiring.foldlM step {}).get ran)).isSome = true := by
    decide +revert
  have seen := (Option.some_get ran).symm
  have reached := (Option.some_get went).symm
  exact ⟨_, _, seen, reached, (poll_changed seen reached (by decide) 7).1⟩

end Connection

end RocqMcp
