import Mathlib.Logic.Function.Basic
import RocqMcp.Library.WaitGraph
import RocqMcp.Locks.Program

/-! The server as a transition system: any number of connections, each thread
advancing its locking program by one operation at a time. -/

namespace RocqMcp.Locks

/-- What one thread still has to do. `requested` is set while the thread has
asked for the mutex at the head of its program and does not own it yet;
`invalidating` names the project while it executes `invalidate_project_states`. -/
structure Control where
  program : Program := .done
  requested : Bool := false
  invalidating : Option ProjectId := none

structure Config where
  owner : Mutex → Option Thread
  control : Thread → Control
  /-- The strong count of each `SessionCell`. -/
  strong : SessionId → Nat
  /-- The server handles that the transport of the connection still has. -/
  handles : SessionId → Nat
  attached : SessionId → Option ProjectId
  registered : List SessionId
  connections : Nat

def Config.initial : Config where
  owner _ := none
  control _ := {}
  strong _ := 0
  handles _ := 0
  attached _ := none
  registered := []
  connections := 0

inductive Action where
  | connect
  | clone (session : SessionId)
  | close (session : SessionId)
  | call (session : SessionId) (operation : Operation)
  | advance (thread : Thread) (choice : Nat)
  deriving DecidableEq, Repr

def Config.setControl (config : Config) (thread : Thread) (control : Control) : Config :=
  { config with control := Function.update config.control thread control }

def Config.setOwner (config : Config) (mutex : Mutex) (owner : Option Thread) : Config :=
  { config with owner := Function.update config.owner mutex owner }

def Config.idle (config : Config) (thread : Thread) : Bool :=
  match (config.control thread).program with
  | .done => true
  | _ => false

/-- `Weak::upgrade` for every registered session, and `retain`. -/
def Config.live (config : Config) : List SessionId :=
  config.registered.filter fun session => config.strong session ≠ 0

/-- One operation of a thread. Asking for a mutex and getting it are separate
steps; a `std::sync::Mutex` is not reentrant, so an owned mutex is granted to
nobody, its owner included. -/
def Config.advance (config : Config) (thread : Thread) (choice : Nat) : Option Config :=
  let control := config.control thread
  let continueWith (config : Config) (program : Program) : Option Config :=
    some (config.setControl thread { control with program, requested := false })
  match control.program with
  | .done => none
  | .lock mutex rest =>
    if control.requested then
      if config.owner mutex = none then
        continueWith (config.setOwner mutex (some thread)) rest
      else none
    else some (config.setControl thread { control with requested := true })
  | .unlock mutex rest => continueWith (config.setOwner mutex none) rest
  | .attached session rest => continueWith config (rest (config.attached session))
  | .attach session project rest =>
    continueWith { config with attached := Function.update config.attached session project } rest
  | .register session rest =>
    continueWith { config with registered := config.registered ++ [session] } rest
  | .upgrade rest =>
    continueWith
      { config with
        registered := config.live
        strong := fun session => config.strong session + config.live.count session }
      (rest config.live)
  | .release session rest =>
    continueWith
      { config with
        strong := Function.update config.strong session (config.strong session - 1) }
      (rest (config.strong session == 1))
  | .enter project rest =>
    some (config.setControl thread { program := rest, invalidating := some project })
  | .leave rest => some (config.setControl thread { program := rest })
  | .choose rest => continueWith config (rest choice)

/-- An idle thread of the connection takes up a new program. -/
def Config.spawn (config : Config) (thread : Thread) (program : Program) : Option Config :=
  if config.idle thread then some (config.setControl thread { program }) else none

/-- The admission mutex of a connection lets a request start only when the
connection runs none, and a request needs a handle that is still open. -/
def Config.step (config : Config) : Action → Option Config
  | .connect =>
    let session := config.connections
    { config with
      strong := Function.update config.strong session 1
      handles := Function.update config.handles session 1
      connections := session + 1 }.spawn (.transport session) (connection session).program
  | .clone session =>
    if 0 < config.handles session then
      some { config with
        strong := Function.update config.strong session (config.strong session + 1)
        handles := Function.update config.handles session (config.handles session + 1) }
    else none
  | .close session =>
    if 0 < config.handles session then
      { config with
        handles := Function.update config.handles session (config.handles session - 1) }.spawn
          (.transport session) (dropArc session).program
    else none
  | .call session operation =>
    if 0 < config.handles session then
      { config with
        strong := Function.update config.strong session (config.strong session + 1) }.spawn
          (.request session) (request session operation).program
    else none
  | .advance thread choice => config.advance thread choice

/-- `thread` has asked for `mutex` and does not have it yet. -/
def Config.Waits (config : Config) (thread : Thread) (mutex : Mutex) : Prop :=
  (config.control thread).requested = true ∧
    ∃ rest, (config.control thread).program = .lock mutex rest

def Program.head? : Program → Option Mutex
  | .lock mutex _ => some mutex
  | _ => none

instance (config : Config) (thread : Thread) (mutex : Mutex) :
    Decidable (config.Waits thread mutex) :=
  decidable_of_iff ((config.control thread).requested = true ∧
      (config.control thread).program.head? = some mutex) <| by
    unfold Config.Waits Program.head?
    cases (config.control thread).program <;> simp

def Config.WaitsFor (config : Config) (waiter holder : Thread) : Prop :=
  ∃ mutex, config.Waits waiter mutex ∧ config.owner mutex = some holder

/-- No thread waits for a mutex it holds itself, and no cycle of threads waits
each for a mutex that the next one holds. -/
def Config.DeadlockFree (config : Config) : Prop :=
  Library.Acyclic config.WaitsFor

/-- A mutex that a thread inside `invalidate_project_states` keeps until it
leaves: the selection of its own session, or the barrier of the project. -/
def Config.contested (config : Config) (mutex : Mutex) : Bool :=
  match config.owner mutex with
  | none => false
  | some holder =>
    match mutex, (config.control holder).invalidating with
    | .selection session, some _ => holder.session == session
    | .barrier project, some invalidated => project == invalidated
    | _, _ => false

/-- The step does not make a thread inside `invalidate_project_states` ask for
a contested mutex. -/
def Config.orderly (config : Config) : Action → Bool
  | .advance thread _ =>
    match config.control thread with
    | { program := .lock mutex _, requested := false, invalidating := some _ } =>
      !config.contested mutex
    | _ => true
  | _ => true

/-- Configurations that the server reaches from the one without connections. -/
def Config.Reached : Config → Prop :=
  Library.Reachable Config.step (fun _ _ => True) Config.initial

/-- Configurations reached by orderly steps only. -/
def Config.OrderlyReached : Config → Prop :=
  Library.Reachable Config.step (fun config action => config.orderly action = true)
    Config.initial

end RocqMcp.Locks
