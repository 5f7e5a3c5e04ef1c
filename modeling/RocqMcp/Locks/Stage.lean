import RocqMcp.Locks.Program

/-! The lock discipline of the server's programs. A stage says which mutexes a
thread holds between two operations; every program moves through the stages
along `Acquire` and ends with no mutex held. -/

namespace RocqMcp.Locks

inductive Stage where
  | out
  /-- Reading the selection of its own session before the barrier is known. -/
  | peeking
  | listing
  | barred (project : ProjectId)
  | owning (project : ProjectId)
  | inside (project : ProjectId)
  | registering (project : ProjectId)
  | visiting (project : ProjectId) (session : SessionId)
  /-- Dropping the last reference to a session attached to `other`. -/
  | dropping (project other : ProjectId)
  deriving DecidableEq

/-- `Acquire thread before mutex after`: a thread at stage `before` may lock
`mutex`, which takes it to `after`; unlocking it leads back. -/
inductive Acquire (thread : Thread) : Stage → Mutex → Stage → Prop where
  | peek : Acquire thread .out (.selection thread.session) .peeking
  | list : Acquire thread .out .registry .listing
  | bar : Acquire thread .out (.barrier project) (.barred project)
  | own (request : thread = .request session) :
      Acquire thread (.barred project) (.selection session) (.owning project)
  | snapshot : Acquire thread (.inside project) .registry (.registering project)
  | visit (other : session ≠ thread.session) :
      Acquire thread (.inside project) (.selection session) (.visiting project session)
  | drop : Acquire thread (.inside project) (.barrier other) (.dropping project other)

/-- The mutexes held at a stage, the last one first. -/
def Stage.holds (thread : Thread) : Stage → List Mutex
  | .out => []
  | .peeking => [.selection thread.session]
  | .listing => [.registry]
  | .barred project => [.barrier project]
  | .owning project => [.selection thread.session, .barrier project]
  | .inside project => [.selection thread.session, .barrier project]
  | .registering project => [.registry, .selection thread.session, .barrier project]
  | .visiting project session =>
    [.selection session, .selection thread.session, .barrier project]
  | .dropping project other =>
    [.barrier other, .selection thread.session, .barrier project]

def Stage.invalidating : Stage → Option ProjectId
  | .inside project | .registering project | .visiting project _ | .dropping project _ =>
    some project
  | _ => none

/-- Only a request holds its own selection under a barrier. -/
def Stage.Fits (thread : Thread) : Stage → Prop
  | .out | .peeking | .listing | .barred _ => True
  | _ => ∃ session, thread = .request session

theorem Acquire.holds (acquire : Acquire thread before mutex after) :
    after.holds thread = mutex :: before.holds thread := by
  cases acquire with
  | own request => subst request; rfl
  | _ => rfl

theorem Acquire.invalidating (acquire : Acquire thread before mutex after) :
    after.invalidating = before.invalidating := by
  cases acquire <;> rfl

theorem Acquire.fits (acquire : Acquire thread before mutex after) :
    before.Fits thread ↔ after.Fits thread := by
  cases acquire with
  | own request => exact ⟨fun _ => ⟨_, request⟩, fun _ => trivial⟩
  | _ => exact Iff.rfl

/-- A thread that may ask for another mutex holds a selection only inside
`invalidate_project_states`, and only that of its own session. -/
theorem Acquire.held_selection (acquire : Acquire thread before mutex after)
    (held : .selection session ∈ before.holds thread) :
    session = thread.session ∧ ∃ project, before = .inside project := by
  cases acquire <;> simp_all [Stage.holds]

theorem Acquire.held_registry (acquire : Acquire thread before mutex after) :
    .registry ∉ before.holds thread := by
  cases acquire <;> simp [Stage.holds]

theorem Acquire.inside (acquire : Acquire thread before mutex after)
    (invalidating : before.invalidating.isSome) : ∃ project, before = .inside project := by
  cases acquire <;> simp_all [Stage.invalidating]

/-- The program respects the discipline from the given stage on, whatever the
values it reads. -/
def Follows (thread : Thread) : Program → Stage → Prop
  | .done, stage => stage = .out
  | .lock mutex rest, stage =>
    ∃ next, Acquire thread stage mutex next ∧ Follows thread rest next
  | .unlock mutex rest, stage =>
    ∃ next, Acquire thread next mutex stage ∧ Follows thread rest next
  | .attached _ rest, stage => ∀ project, Follows thread (rest project) stage
  | .attach _ _ rest, stage => Follows thread rest stage
  | .register _ rest, stage => Follows thread rest stage
  | .upgrade rest, stage => ∀ sessions, Follows thread (rest sessions) stage
  | .release _ rest, stage => ∀ last, Follows thread (rest last) stage
  | .enter project rest, stage =>
    stage = .owning project ∧ Follows thread rest (.inside project)
  | .leave rest, stage =>
    ∃ project, stage = .inside project ∧ Follows thread rest (.owning project)
  | .choose rest, stage => ∀ choice, Follows thread (rest choice) stage

/-- A part of a program that takes a thread from stage `before` to `after`. -/
def Obeys (thread : Thread) (before : Stage) (action : LockM α) (after : Stage) : Prop :=
  ∀ rest : α → Program, (∀ value, Follows thread (rest value) after) →
    Follows thread (action rest) before

namespace Obeys

theorem pure (value : α) : Obeys thread stage (pure value : LockM α) stage :=
  fun _ follows => follows value

theorem bind {action : LockM α} {next : α → LockM β}
    (first : Obeys thread before action middle)
    (second : ∀ value, Obeys thread middle (next value) after) :
    Obeys thread before (action >>= next) after := by
  intro rest follows
  exact first _ fun value => second value rest follows

theorem ite [Decidable condition] {yes no : LockM α}
    (positive : condition → Obeys thread before yes after)
    (negative : ¬ condition → Obeys thread before no after) :
    Obeys thread before (if condition then yes else no) after := by
  split
  · exact positive ‹_›
  · exact negative ‹_›

theorem when {action : LockM Unit} (body : Obeys thread stage action stage) :
    Obeys thread stage (LockM.when condition action) stage :=
  .ite (fun _ => body) fun _ => .pure ()

theorem locked {body : LockM α} (acquire : Acquire thread stage mutex next)
    (inner : Obeys thread next body next) :
    Obeys thread stage (locked mutex body) stage := by
  intro rest follows
  refine ⟨next, acquire, ?_⟩
  apply inner
  intro value
  exact ⟨stage, acquire, follows value⟩

theorem attached (session : SessionId) : Obeys thread stage (attached session) stage :=
  fun _ follows => follows

theorem attach (session : SessionId) (project : Option ProjectId) :
    Obeys thread stage (attach session project) stage :=
  fun _ follows => follows ()

theorem register (session : SessionId) : Obeys thread stage (register session) stage :=
  fun _ follows => follows ()

theorem upgrade : Obeys thread stage upgrade stage :=
  fun _ follows => follows

theorem release (session : SessionId) : Obeys thread stage (release session) stage :=
  fun _ follows => follows

theorem enter : Obeys thread (.owning project) (enter project) (.inside project) :=
  fun _ follows => ⟨rfl, follows ()⟩

theorem leave : Obeys thread (.inside project) leave (.owning project) :=
  fun _ follows => ⟨project, rfl, follows ()⟩

theorem choose : Obeys thread stage choose stage :=
  fun _ follows => follows

theorem sometimes : Obeys thread stage sometimes stage :=
  choose.bind fun _ => pure _

/-- A complete program, run by a thread that holds nothing. -/
theorem program {action : LockM Unit} (obeys : Obeys thread .out action .out) :
    Follows thread action.program .out :=
  obeys _ fun _ => rfl

end Obeys

theorem connection_obeys : Obeys thread .out (connection session) .out :=
  .locked .list (.register session)

theorem sessionProject_obeys : Obeys thread .out (sessionProject thread.session) .out :=
  .locked .peek (.attached _)

/-- The stages at which a session may be dropped: outside every lock, and
inside `invalidate_project_states`. -/
def Stage.mayDrop : Stage → Bool
  | .out | .inside _ => true
  | _ => false

theorem SessionCell.drop_obeys (may : stage.mayDrop = true) :
    Obeys thread stage (SessionCell.drop session) stage := by
  apply Obeys.bind (.attached session)
  intro project
  cases project with
  | none => exact .pure ()
  | some attached =>
    cases stage with
    | out => exact .locked .bar (.pure ())
    | inside => exact .locked .drop (.pure ())
    | _ => cases may

theorem dropArc_obeys (may : stage.mayDrop = true) :
    Obeys thread stage (dropArc session) stage :=
  (Obeys.release session).bind fun _ => .when (SessionCell.drop_obeys may)

theorem invalidateSession_obeys :
    Obeys thread (.inside project) (invalidateSession thread.session session)
      (.inside project) := by
  unfold invalidateSession
  split
  · exact dropArc_obeys rfl
  · rename_i other
    exact (Obeys.locked (.visit other) (.attached session)).bind fun _ => dropArc_obeys rfl

theorem invalidateSessions_obeys (sessions : List SessionId) :
    Obeys thread (.inside project) (invalidateSessions thread.session sessions)
      (.inside project) := by
  induction sessions with
  | nil => exact .pure ()
  | cons session rest ih => exact invalidateSession_obeys.bind fun _ => ih

theorem invalidateProjectStates_obeys :
    Obeys thread (.owning project) (invalidateProjectStates project thread.session)
      (.owning project) :=
  Obeys.enter.bind fun _ => (Obeys.locked .snapshot .upgrade).bind fun sessions =>
    (invalidateSessions_obeys sessions).bind fun _ => .leave

theorem dispatchAttached_obeys (calls : Nat) :
    Obeys thread (.owning project) (dispatchAttached project thread.session calls)
      (.owning project) := by
  induction calls with
  | zero => exact .pure ()
  | succ calls ih => exact invalidateProjectStates_obeys.bind fun _ => ih

theorem dispatch_obeys : Obeys (.request session) .out (dispatch session) .out := by
  refine Obeys.sometimes.bind fun early => .ite (fun _ => .pure ()) fun _ => ?_
  refine sessionProject_obeys.bind fun attached => ?_
  cases attached with
  | none => exact .pure ()
  | some project =>
    refine .locked .bar (Obeys.sometimes.bind fun failed => ?_)
    refine .ite (fun _ => .pure ()) fun _ => ?_
    refine .locked (.own rfl) ((Obeys.attached _).bind fun current => ?_)
    refine .ite (fun _ => .pure ()) fun _ => ?_
    refine Obeys.sometimes.bind fun layoutChanged => ?_
    refine (Obeys.when invalidateProjectStates_obeys).bind fun _ => ?_
    refine Obeys.sometimes.bind fun cancelled => ?_
    refine .ite (fun _ => .pure ()) fun _ => ?_
    refine Obeys.choose.bind fun calls => (dispatchAttached_obeys calls).bind fun _ => ?_
    exact Obeys.sometimes.bind fun _ => .when invalidateProjectStates_obeys

theorem installStartView_obeys :
    Obeys thread (.owning project) (installStartView thread.session project)
      (.owning project) := by
  refine Obeys.sometimes.bind fun failed => .ite (fun _ => .pure ()) fun _ => ?_
  refine (Obeys.attach _ _).bind fun _ => ?_
  exact Obeys.sometimes.bind fun _ => .when invalidateProjectStates_obeys

theorem retire_obeys :
    Obeys thread (.owning project) (retire project thread.session) (.owning project) := by
  refine Obeys.sometimes.bind fun failed => .ite (fun _ => .pure false) fun _ => ?_
  refine Obeys.sometimes.bind fun lost => ?_
  exact (Obeys.when invalidateProjectStates_obeys).bind fun _ => .pure true

theorem startAdmit_obeys :
    Obeys (.request session) .out (startAdmit session next) .out :=
  .locked .bar <| Obeys.sometimes.bind fun _ => .ite (fun _ => .pure ()) fun _ =>
    .locked (.own rfl) installStartView_obeys

theorem start_obeys : Obeys (.request session) .out (start session next) .out := by
  refine Obeys.sometimes.bind fun rejected => .ite (fun _ => .pure ()) fun _ => ?_
  refine sessionProject_obeys.bind fun attached => ?_
  cases attached with
  | none => exact startAdmit_obeys
  | some previous =>
    refine .ite (fun same => ?same) fun _ => ?different
    case same =>
      subst same
      refine .locked .bar (Obeys.sometimes.bind fun cancelled => ?_)
      refine .ite (fun _ => .pure ()) fun _ => ?_
      exact .locked (.own rfl) (retire_obeys.bind fun _ => .when installStartView_obeys)
    case different =>
      refine Obeys.bind ?_ fun _ => .when startAdmit_obeys
      refine .locked .bar (Obeys.sometimes.bind fun cancelled => ?_)
      refine .ite (fun _ => .pure false) fun _ => ?_
      refine .locked (.own rfl) (retire_obeys.bind fun retired => ?_)
      exact .ite (fun _ => (Obeys.attach _ _).bind fun _ => .pure true) fun _ => .pure false

theorem request_obeys (operation : Operation) :
    Obeys (.request session) .out (request session operation) .out := by
  refine Obeys.bind ?_ fun _ => dropArc_obeys rfl
  cases operation with
  | dispatch => exact dispatch_obeys
  | start next => exact start_obeys

end RocqMcp.Locks
