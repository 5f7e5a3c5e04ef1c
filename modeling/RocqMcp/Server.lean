import RocqMcp.Adapter.Tools
import RocqMcp.Library.Runs

/-! Runs of the server: requests and disconnects of any number of connections,
in any order. A request holds the barrier of its project, so that it is one
step; `start` may also be interrupted between its two barriers. The end of a
connection is two steps: between them, its cell waits for the barrier. -/

namespace RocqMcp

open Library

inductive Event where
  | connect
  | request (session : SessionId) (name : String) (args : Value)
  /-- The first section of a `start` that changes projects. -/
  | detach (session : SessionId)
  /-- The second section of a `start`, or its only one. -/
  | enter (session : SessionId) (committed : Bool)
  /-- The connection closes: nobody shares its cell any more. -/
  | disconnect (session : SessionId)
  /-- The cell of a closed connection gets the barrier of its project. -/
  | drop (session : SessionId)

namespace World

/-- A request begins under its own cancellation signal. -/
def begin (world : World) (signal : Signal) : World :=
  { world with signal, ghost := { world.ghost with began := world.now } }

def request (world : World) (session : SessionId) (name : String) (args : Value) :
    Except Error Adapter.Response × World :=
  Adapter.dispatch session name args (world.begin .active)

def detach (world : World) (project : ProjectId) (session : SessionId) : World :=
  (Adapter.detach project session (world.begin .active)).2

/-- The section of a `start` over its new project. -/
def enter (world : World) (session : SessionId) (committed : Bool) : World :=
  let section' : EngineM Unit := do
    let attached ← Engine.attach
    Adapter.openRuntime attached
    Adapter.enterProject attached.root session
  (section' (world.begin (if committed then .committed else .active))).2

/-- The last reference to the cell of a connection is gone: no request and no
epoch boundary of another session finds it from now on. -/
def disconnect (world : World) (session : SessionId) : World := world.setClosing session true

/-- The dropped cell is empty, and may serve a new connection. -/
def drop (world : World) (session : SessionId) : World :=
  ((Adapter.dropSession session (world.begin .active)).2.setSelection session .empty).setClosing
    session false

/-- The connection is there to make requests. -/
def isOpen (world : World) (session : SessionId) : Bool :=
  session < world.connections && !world.closing session

/-- One event of the server, where it is possible. -/
def step (world : World) : Event → Option World
  | .connect => some { world with connections := world.connections + 1 }
  | .request session name args =>
    if world.isOpen session then some (world.request session name args).2 else none
  | .detach session =>
    match (world.selections session).project with
    | some project => if world.isOpen session then some (world.detach project session) else none
    | none => none
  | .enter session committed =>
    if world.isOpen session && (world.selections session).project.isNone then
      some (world.enter session committed)
    else none
  | .disconnect session =>
    if world.isOpen session then some (world.disconnect session) else none
  | .drop session =>
    if session < world.connections && world.closing session then some (world.drop session) else none

/-- The states of a server that starts with the given files. -/
def Reached (world : World) : Prop :=
  ∃ environment sources outputs,
    Reachable step (fun _ _ => True) (World.initial environment sources outputs) world

end World

end RocqMcp
