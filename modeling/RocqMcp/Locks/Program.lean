import RocqMcp.Library.Runs

/-! The locking programs of the server: what `dispatch`, `start`, opening a
connection and dropping the last handle of a session do to the mutexes and to
the reference counts. Everything else a request computes is a nondeterministic
choice here. -/

namespace RocqMcp.Locks

abbrev SessionId := Nat
abbrev ProjectId := Nat

/-- The mutexes of `server.rs` that a thread may hold together: the operation
barrier of a project, the selection of a session, and the session registry. -/
inductive Mutex where
  | barrier (project : ProjectId)
  | selection (session : SessionId)
  | registry
  deriving DecidableEq, Repr

/-- A worker thread runs the requests of one connection, one at a time; the
transport opens the connection and drops its handles. -/
inductive Thread where
  | request (session : SessionId)
  | transport (session : SessionId)
  deriving DecidableEq, Repr

def Thread.session : Thread → SessionId
  | .request session => session
  | .transport session => session

/-- A locking program. `upgrade` turns the live weak references of the registry
into strong ones and prunes the dead ones; `release` drops one strong reference
and learns whether it was the last. `enter` and `leave` bracket
`invalidate_project_states` of a project and have no effect on any lock. -/
inductive Program where
  | done
  | lock (mutex : Mutex) (rest : Program)
  | unlock (mutex : Mutex) (rest : Program)
  | attached (session : SessionId) (rest : Option ProjectId → Program)
  | attach (session : SessionId) (project : Option ProjectId) (rest : Program)
  | register (session : SessionId) (rest : Program)
  | upgrade (rest : List SessionId → Program)
  | release (session : SessionId) (rest : Bool → Program)
  | enter (project : ProjectId) (rest : Program)
  | leave (rest : Program)
  | choose (rest : Nat → Program)

/-- Programs under construction, in continuation-passing style. -/
def LockM (α : Type) := (α → Program) → Program

instance : Monad LockM where
  pure value := fun rest => rest value
  bind action next := fun rest => action fun value => next value rest

def LockM.program (action : LockM Unit) : Program := action fun _ => .done

def lock (mutex : Mutex) : LockM Unit := fun rest => .lock mutex (rest ())
def unlock (mutex : Mutex) : LockM Unit := fun rest => .unlock mutex (rest ())
def attached (session : SessionId) : LockM (Option ProjectId) := .attached session
def attach (session : SessionId) (project : Option ProjectId) : LockM Unit :=
  fun rest => .attach session project (rest ())
def register (session : SessionId) : LockM Unit := fun rest => .register session (rest ())
def upgrade : LockM (List SessionId) := .upgrade
def release (session : SessionId) : LockM Bool := .release session
def enter (project : ProjectId) : LockM Unit := fun rest => .enter project (rest ())
def leave : LockM Unit := fun rest => .leave (rest ())
def choose : LockM Nat := .choose

/-- A branch that the lock state does not decide. -/
def sometimes : LockM Bool := do
  let choice ← choose
  return choice != 0

def LockM.when (condition : Bool) (action : LockM Unit) : LockM Unit :=
  if condition then action else pure ()

/-- The scope of a mutex guard. -/
def locked (mutex : Mutex) (body : LockM α) : LockM α := do
  lock mutex
  let value ← body
  unlock mutex
  return value

/-- `ServerRuntime::connection`: the registry keeps a weak reference. -/
def connection (session : SessionId) : LockM Unit :=
  locked .registry (register session)

/-- `SessionCell::project`. -/
def sessionProject (session : SessionId) : LockM (Option ProjectId) :=
  locked (.selection session) (attached session)

/-- `Drop for SessionCell`: `get_mut` reads the selection without its mutex,
and the barrier is held while the states of the proof are released. -/
def SessionCell.drop (session : SessionId) : LockM Unit := do
  match ← attached session with
  | none => return ()
  | some project => locked (.barrier project) (pure ())

/-- Drop one `Arc<SessionCell>`. -/
def dropArc (session : SessionId) : LockM Unit := do
  LockM.when (← release session) (SessionCell.drop session)

/-- One iteration of the loop of `invalidate_project_states`. The guard of the
other selection goes out of scope before the upgraded reference does. -/
def invalidateSession (current session : SessionId) : LockM Unit := do
  if session = current then
    dropArc session
  else
    let _other ← locked (.selection session) (attached session)
    dropArc session

def invalidateSessions (current : SessionId) : List SessionId → LockM Unit
  | [] => return ()
  | session :: rest => do
    invalidateSession current session
    invalidateSessions current rest

/-- `ServerRuntime::invalidate_project_states`, called with the barrier of the
project and the selection of `current` held. -/
def invalidateProjectStates (project : ProjectId) (current : SessionId) : LockM Unit := do
  enter project
  let sessions ← locked .registry upgrade
  invalidateSessions current sessions
  leave

/-- `dispatch_attached`: the tools take no lock of their own, and each calls
`invalidate_project_states` some number of times. -/
def dispatchAttached (project : ProjectId) (session : SessionId) : Nat → LockM Unit
  | 0 => return ()
  | calls + 1 => do
    invalidateProjectStates project session
    dispatchAttached project session calls

/-- `dispatch` for every tool other than `start`. -/
def dispatch (session : SessionId) : LockM Unit := do
  -- Cancelled already, or the polling query that takes no lock.
  if ← sometimes then return ()
  else
    match ← sessionProject session with
    | none => return ()
    | some project =>
      locked (.barrier project) do
        -- Cancelled while queued, or `refresh_project` failed.
        if ← sometimes then return ()
        else
          locked (.selection session) do
            if (← attached session) ≠ some project then return ()
            else
              let layoutChanged ← sometimes
              LockM.when layoutChanged (invalidateProjectStates project session)
              let cancelled ← sometimes
              if cancelled then return ()
              else
                dispatchAttached project session (← choose)
                let invalidatesPetEpoch ← sometimes
                LockM.when invalidatesPetEpoch (invalidateProjectStates project session)

/-- `install_start_view`, called with the barrier of `project` and the
selection held. -/
def installStartView (session : SessionId) (project : ProjectId) : LockM Unit := do
  let refreshFailed ← sometimes
  if refreshFailed then return ()
  else
    attach session (some project)
    let layoutChanged ← sometimes
    LockM.when layoutChanged (invalidateProjectStates project session)

/-- `retire_proof` and the invalidation that follows a lost PET. The result
tells whether the request goes on. -/
def retire (project : ProjectId) (session : SessionId) : LockM Bool := do
  let retireFailed ← sometimes
  if retireFailed then return false
  else
    let petEpochLost ← sometimes
    LockM.when petEpochLost (invalidateProjectStates project session)
    return true

/-- The last part of `start`, under the barrier of the target project. -/
def startAdmit (session : SessionId) (next : ProjectId) : LockM Unit :=
  locked (.barrier next) do
    let cancelled ← sometimes
    if cancelled then return ()
    else locked (.selection session) (installStartView session next)

/-- `start` of the project `next`. -/
def start (session : SessionId) (next : ProjectId) : LockM Unit := do
  let rejected ← sometimes
  if rejected then return ()
  else
    match ← sessionProject session with
    | none => startAdmit session next
    | some previous =>
      if previous = next then
        locked (.barrier previous) do
          let cancelled ← sometimes
          if cancelled then return ()
          else
            locked (.selection session) do
              let retired ← retire previous session
              LockM.when retired (installStartView session next)
      else
        let detached ← locked (.barrier previous) do
          let cancelled ← sometimes
          if cancelled then return false
          else
            locked (.selection session) do
              if ← retire previous session then
                attach session none
                return true
              else return false
        LockM.when detached (startAdmit session next)

inductive Operation where
  | dispatch
  | start (next : ProjectId)
  deriving DecidableEq, Repr

def Operation.run (session : SessionId) : Operation → LockM Unit
  | .dispatch => Locks.dispatch session
  | .start next => Locks.start session next

/-- A request on its worker thread. The worker owns a reference to the session
and drops it after every lock of the request has been released. -/
def request (session : SessionId) (operation : Operation) : LockM Unit := do
  operation.run session
  dropArc session

end RocqMcp.Locks
