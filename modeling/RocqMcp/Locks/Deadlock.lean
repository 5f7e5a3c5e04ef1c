import RocqMcp.Locks.Server
import RocqMcp.Locks.Stage

/-! Deadlocks of the server's locks. Every thread keeps to the lock discipline;
a wait cycle consists of threads inside `invalidate_project_states` only, and
in an orderly run each of them asked for its mutex before the next one did. -/

namespace RocqMcp.Locks

open Library

variable {config config' config'' : Config}

/-- The threads of a configuration keep to the lock discipline at the given
stages, which account for every owned mutex. -/
structure Staged (config : Config) (stage : Thread → Stage) : Prop where
  follows : ∀ thread, Follows thread (config.control thread).program (stage thread)
  owns : ∀ mutex thread,
    config.owner mutex = some thread ↔ mutex ∈ (stage thread).holds thread
  nodup : ∀ thread, ((stage thread).holds thread).Nodup
  invalidating : ∀ thread,
    (config.control thread).invalidating = (stage thread).invalidating
  fits : ∀ thread, (stage thread).Fits thread

theorem Staged.initial : Staged .initial fun _ => .out where
  follows _ := rfl
  owns mutex thread := by simp [Config.initial, Stage.holds]
  nodup _ := List.nodup_nil
  invalidating _ := rfl
  fits _ := trivial

theorem Staged.idle (staged : Staged config stage) (idle : config.idle thread = true) :
    stage thread = .out := by
  have follows := staged.follows thread
  unfold Config.idle at idle
  split at idle
  · rename_i done
    simpa [done, Follows] using follows
  · cases idle

/-- One thread changes its stage, and ownership changes with it. -/
private theorem Staged.update (staged : Staged config stage)
    (control : config'.control = Function.update config.control thread control')
    (follows : Follows thread control'.program next)
    (invalidating : control'.invalidating = next.invalidating)
    (fits : next.Fits thread) (nodup : (next.holds thread).Nodup)
    (mine : ∀ mutex, config'.owner mutex = some thread ↔ mutex ∈ next.holds thread)
    (others : ∀ mutex other, other ≠ thread →
      (config'.owner mutex = some other ↔ config.owner mutex = some other)) :
    Staged config' (Function.update stage thread next) where
  follows other := by
    by_cases same : other = thread
    · subst same; simpa [control] using follows
    · simpa [control, same] using staged.follows other
  owns mutex other := by
    by_cases same : other = thread
    · subst same; simpa using mine mutex
    · simpa [same, others mutex other same] using staged.owns mutex other
  nodup other := by
    by_cases same : other = thread
    · subst same; simpa using nodup
    · simpa [same] using staged.nodup other
  invalidating other := by
    by_cases same : other = thread
    · subst same; simpa [control] using invalidating
    · simpa [control, same] using staged.invalidating other
  fits other := by
    by_cases same : other = thread
    · subst same; simpa using fits
    · simpa [same] using staged.fits other

/-- A thread changes its stage without taking or returning a mutex. -/
private theorem Staged.quiet (staged : Staged config stage)
    (owner : config'.owner = config.owner)
    (control : config'.control = Function.update config.control thread control')
    (follows : Follows thread control'.program next)
    (invalidating : control'.invalidating = next.invalidating)
    (fits : next.Fits thread) (holds : next.holds thread = (stage thread).holds thread) :
    Staged config' (Function.update stage thread next) := by
  apply staged.update control follows invalidating fits
  · rw [holds]; exact staged.nodup thread
  · intro mutex; rw [owner, holds]; exact staged.owns mutex thread
  · intro mutex other _; rw [owner]

private theorem Staged.spawn (staged : Staged config stage)
    (program : Follows thread next .out)
    (moved : config'.spawn thread next = some config'')
    (control : config'.control = config.control) (owner : config'.owner = config.owner) :
    ∃ stage', Staged config'' stage' := by
  unfold Config.spawn at moved
  split at moved
  · rename_i idle
    cases moved
    have out : stage thread = .out :=
      staged.idle (by simpa [Config.idle, control] using idle)
    have replaced : (config'.setControl thread { program := next }).control =
        Function.update config.control thread { program := next } := by
      simp [Config.setControl, control]
    exact ⟨Function.update stage thread .out,
      staged.quiet owner replaced program rfl trivial (by rw [out])⟩
  · cases moved

private theorem Staged.grant (staged : Staged config stage)
    (acquire : Acquire thread (stage thread) mutex next)
    (free : config.owner mutex = none)
    (owner : config'.owner = Function.update config.owner mutex (some thread))
    (control : config'.control = Function.update config.control thread control')
    (follows : Follows thread control'.program next)
    (invalidating : control'.invalidating = (config.control thread).invalidating) :
    Staged config' (Function.update stage thread next) := by
  have fresh : mutex ∉ (stage thread).holds thread := by
    rw [← staged.owns, free]
    simp
  apply staged.update control follows
  · rw [invalidating, staged.invalidating, acquire.invalidating]
  · exact acquire.fits.mp (staged.fits thread)
  · rw [acquire.holds]
    exact List.nodup_cons.mpr ⟨fresh, staged.nodup thread⟩
  · intro other
    rw [owner, acquire.holds, List.mem_cons, ← staged.owns]
    by_cases same : other = mutex
    · simp [same]
    · simp [same]
  · intro other holder different
    rw [owner]
    by_cases same : other = mutex
    · subst same
      simp [free, Ne.symm different]
    · simp [same]

private theorem Staged.return (staged : Staged config stage)
    (acquire : Acquire thread next mutex (stage thread))
    (owner : config'.owner = Function.update config.owner mutex none)
    (control : config'.control = Function.update config.control thread control')
    (follows : Follows thread control'.program next)
    (invalidating : control'.invalidating = (config.control thread).invalidating) :
    Staged config' (Function.update stage thread next) := by
  have nodup := staged.nodup thread
  rw [acquire.holds, List.nodup_cons] at nodup
  have owned : config.owner mutex = some thread := by
    rw [staged.owns, acquire.holds]
    exact List.mem_cons_self
  apply staged.update control follows
  · rw [invalidating, staged.invalidating, acquire.invalidating]
  · exact acquire.fits.mpr (staged.fits thread)
  · exact nodup.2
  · intro other
    rw [owner]
    by_cases same : other = mutex
    · subst same
      simpa using nodup.1
    · simp [same, staged.owns, acquire.holds]
  · intro other holder different
    rw [owner]
    by_cases same : other = mutex
    · subst same
      simp [owned, Ne.symm different]
    · simp [same]

theorem Staged.advance (staged : Staged config stage)
    (moved : config.advance thread choice = some config') :
    ∃ stage', Staged config' stage' := by
  have follows := staged.follows thread
  have invalidating := staged.invalidating thread
  have fits := staged.fits thread
  unfold Config.advance at moved
  cases program : (config.control thread).program with
  | done => simp [program] at moved
  | lock mutex rest =>
    rw [program] at follows
    obtain ⟨next, acquire, continues⟩ := follows
    simp only [program] at moved
    split at moved
    · split at moved
      · rename_i free
        cases moved
        exact ⟨_, staged.grant acquire free rfl rfl continues rfl⟩
      · cases moved
    · cases moved
      refine ⟨Function.update stage thread (stage thread),
        staged.quiet rfl rfl ?_ invalidating fits rfl⟩
      simpa [program] using ⟨next, acquire, continues⟩
  | unlock mutex rest =>
    rw [program] at follows
    obtain ⟨next, acquire, continues⟩ := follows
    simp only [program] at moved
    cases moved
    exact ⟨_, staged.return acquire rfl rfl continues rfl⟩
  | enter project rest =>
    rw [program] at follows
    obtain ⟨owning, continues⟩ := follows
    simp only [program] at moved
    cases moved
    rw [owning] at fits
    refine ⟨_, staged.quiet rfl rfl continues rfl fits ?_⟩
    rw [owning]; rfl
  | leave rest =>
    rw [program] at follows
    obtain ⟨project, inside, continues⟩ := follows
    simp only [program] at moved
    cases moved
    rw [inside] at fits
    refine ⟨_, staged.quiet rfl rfl continues rfl fits ?_⟩
    rw [inside]; rfl
  | attached session rest =>
    simp only [program] at moved follows
    cases moved
    exact ⟨_, staged.quiet rfl rfl (follows _) invalidating fits rfl⟩
  | upgrade rest =>
    simp only [program] at moved follows
    cases moved
    exact ⟨_, staged.quiet rfl rfl (follows _) invalidating fits rfl⟩
  | release session rest =>
    simp only [program] at moved follows
    cases moved
    exact ⟨_, staged.quiet rfl rfl (follows _) invalidating fits rfl⟩
  | choose rest =>
    simp only [program] at moved follows
    cases moved
    exact ⟨_, staged.quiet rfl rfl (follows _) invalidating fits rfl⟩
  | attach session project rest =>
    simp only [program] at moved follows
    cases moved
    exact ⟨_, staged.quiet rfl rfl follows invalidating fits rfl⟩
  | register session rest =>
    simp only [program] at moved follows
    cases moved
    exact ⟨_, staged.quiet rfl rfl follows invalidating fits rfl⟩

/-- The programs that connections and requests run keep to the discipline, so
every step of the server does. -/
theorem Staged.step (staged : Staged config stage)
    (moved : config.step action = some config') :
    ∃ stage', Staged config' stage' := by
  cases action with
  | connect => exact staged.spawn connection_obeys.program moved rfl rfl
  | clone session =>
    simp only [Config.step] at moved
    split at moved
    · cases moved
      exact ⟨stage, staged.follows, staged.owns, staged.nodup, staged.invalidating, staged.fits⟩
    · cases moved
  | close session =>
    simp only [Config.step] at moved
    split at moved
    · exact staged.spawn (dropArc_obeys rfl).program moved rfl rfl
    · cases moved
  | call session operation =>
    simp only [Config.step] at moved
    split at moved
    · exact staged.spawn (request_obeys operation).program moved rfl rfl
    · cases moved
  | advance thread choice => exact staged.advance moved

/-- A step other than a request for a mutex: the stepping thread does not wait
afterwards, and no other thread gains a mutex. -/
private def Settles (config config' : Config) : Prop :=
  ∃ thread control', control'.requested = false ∧
    config'.control = Function.update config.control thread control' ∧
    ∀ mutex holder, config'.owner mutex = some holder →
      config.owner mutex = some holder ∨ holder = thread

/-- The thread asks for the mutex at the head of its program. -/
private def Asks (config config' : Config) (thread : Thread) (mutex : Mutex) : Prop :=
  (∃ rest, (config.control thread).program = .lock mutex rest) ∧
    (config.control thread).requested = false ∧
    config' = config.setControl thread { config.control thread with requested := true }

private theorem advance_cases (moved : config.advance thread choice = some config') :
    (∃ mutex, Asks config config' thread mutex) ∨ Settles config config' := by
  have settles (control' : Control) (next : Config) (released : control'.requested = false)
      (control : next.control = config.control)
      (owner : ∀ mutex holder, next.owner mutex = some holder →
        config.owner mutex = some holder ∨ holder = thread) :
      Settles config (next.setControl thread control') :=
    ⟨thread, control', released, by simp [Config.setControl, control], owner⟩
  have kept (mutex : Mutex) (holder : Thread) (owned : config.owner mutex = some holder) :
      config.owner mutex = some holder ∨ holder = thread := .inl owned
  unfold Config.advance at moved
  cases program : (config.control thread).program with
  | done => simp [program] at moved
  | lock mutex rest =>
    simp only [program] at moved
    split at moved
    · split at moved
      · cases moved
        refine .inr (settles _ _ rfl rfl ?_)
        intro other holder owned
        by_cases same : other = mutex
        · subst same
          simp [Config.setOwner] at owned
          exact .inr owned.symm
        · simpa [Config.setOwner, same] using Or.inl owned
      · cases moved
    · rename_i requested
      cases moved
      exact .inl ⟨mutex, ⟨rest, program⟩, by simpa using requested,
        by rw [← program]⟩
  | unlock mutex rest =>
    simp only [program] at moved
    cases moved
    refine .inr (settles _ _ rfl rfl ?_)
    intro other holder owned
    by_cases same : other = mutex
    · subst same
      simp [Config.setOwner] at owned
    · simpa [Config.setOwner, same] using Or.inl owned
  | _ =>
    simp only [program] at moved
    cases moved
    exact .inr (settles _ _ rfl rfl kept)

private theorem spawn_settles (moved : config'.spawn thread next = some config'')
    (control : config'.control = config.control) (owner : config'.owner = config.owner) :
    Settles config config'' := by
  unfold Config.spawn at moved
  split at moved
  · cases moved
    refine ⟨thread, { program := next }, rfl, by simp [Config.setControl, control], ?_⟩
    intro mutex holder owned
    exact .inl (owner ▸ owned)
  · cases moved

/-- What a step can do to the waiting threads and to the owners. -/
private theorem step_cases (moved : config.step action = some config') :
    (config'.control = config.control ∧ config'.owner = config.owner) ∨
    (∃ thread choice mutex, action = .advance thread choice ∧
      Asks config config' thread mutex) ∨
    Settles config config' := by
  cases action with
  | connect => exact .inr (.inr (spawn_settles moved rfl rfl))
  | clone session =>
    simp only [Config.step] at moved
    split at moved
    · cases moved
      exact .inl ⟨rfl, rfl⟩
    · cases moved
  | close session =>
    simp only [Config.step] at moved
    split at moved
    · exact .inr (.inr (spawn_settles moved rfl rfl))
    · cases moved
  | call session operation =>
    simp only [Config.step] at moved
    split at moved
    · exact .inr (.inr (spawn_settles moved rfl rfl))
    · cases moved
  | advance thread choice =>
    rcases advance_cases moved with ⟨mutex, asks⟩ | settles
    · exact .inr (.inl ⟨thread, choice, mutex, rfl, asks⟩)
    · exact .inr (.inr settles)

/-- A thread inside `invalidate_project_states` that waits for the selection of
another session or for a project barrier. -/
def Config.Critical (config : Config) (thread : Thread) : Prop :=
  (config.control thread).invalidating.isSome ∧
    ∃ mutex, mutex ≠ .registry ∧ config.Waits thread mutex

/-- The discipline at the head of a program that locks a mutex next. -/
private theorem Staged.acquires (staged : Staged config stage)
    (program : (config.control thread).program = .lock mutex rest) :
    ∃ next, Acquire thread (stage thread) mutex next := by
  have follows := staged.follows thread
  rw [program] at follows
  obtain ⟨next, acquire, _⟩ := follows
  exact ⟨next, acquire⟩

/-- A thread that waits for one that waits itself, and is waited for, is
critical: at the other stages it asks for a mutex whose holders never wait, or
holds nothing that another thread could wait for. -/
private theorem Staged.critical (staged : Staged config stage)
    (incoming : config.WaitsFor before thread) (edge : config.WaitsFor thread after)
    (outgoing : config.WaitsFor after last) : config.Critical thread := by
  obtain ⟨held, _, holding⟩ := incoming
  obtain ⟨mutex, waits, owned⟩ := edge
  obtain ⟨_, waitsAfter, _⟩ := outgoing
  have holding := (staged.owns _ _).mp holding
  have owned := (staged.owns _ _).mp owned
  have invalidating := staged.invalidating thread
  obtain ⟨next, acquire⟩ := staged.acquires waits.2.choose_spec
  obtain ⟨nextAfter, acquireAfter⟩ := staged.acquires waitsAfter.2.choose_spec
  generalize current : stage thread = at_ at *
  cases acquire with
  | peek => simp [Stage.holds] at holding
  | list => simp [Stage.holds] at holding
  | bar => simp [Stage.holds] at holding
  | own request =>
    obtain ⟨same, project, inside⟩ := acquireAfter.held_selection owned
    have fits := staged.fits after
    rw [inside] at fits
    obtain ⟨session, caller⟩ := fits
    subst caller request
    subst same
    cases current.symm.trans inside
  | snapshot => exact absurd owned acquireAfter.held_registry
  | visit other => exact ⟨by rw [invalidating]; rfl, _, by simp, waits⟩
  | drop => exact ⟨by rw [invalidating]; rfl, _, by simp, waits⟩

/-- Request times under which each critical thread asked before the critical
thread it waits for did. -/
structure Ordered (config : Config) (time : Thread → Nat) (now : Nat) : Prop where
  past : ∀ thread, time thread < now
  rises : ∀ waiter holder, config.Critical waiter → config.Critical holder →
    config.WaitsFor waiter holder → time waiter < time holder

/-- A mutex owned by a thread that is inside `invalidate_project_states` and
locks a mutex next is contested. -/
private theorem Staged.contested (staged : Staged config stage)
    (invalidating : (config.control holder).invalidating.isSome)
    (program : (config.control holder).program = .lock next rest)
    (owned : config.owner mutex = some holder) : config.contested mutex = true := by
  obtain ⟨after, acquire⟩ := staged.acquires program
  have held := (staged.owns _ _).mp owned
  have same := staged.invalidating holder
  rw [same] at invalidating
  obtain ⟨project, inside⟩ := acquire.inside invalidating
  rw [inside] at held same
  simp only [Stage.holds, List.mem_cons, List.not_mem_nil, or_false] at held
  rcases held with own | barrier
  · subst own
    simp [Config.contested, owned, same, Stage.invalidating]
  · subst barrier
    simp [Config.contested, owned, same, Stage.invalidating]

private theorem critical_of_control (control : config'.control thread = config.control thread)
    (critical : config'.Critical thread) : config.Critical thread := by
  unfold Config.Critical Config.Waits at *
  rwa [control] at critical

private theorem waitsFor_of_control (control : config'.control waiter = config.control waiter)
    (owner : ∀ mutex, config'.owner mutex = some holder → config.owner mutex = some holder)
    (edge : config'.WaitsFor waiter holder) : config.WaitsFor waiter holder := by
  obtain ⟨mutex, waits, owned⟩ := edge
  unfold Config.Waits at waits
  rw [control] at waits
  exact ⟨mutex, waits, owner mutex owned⟩

private theorem Ordered.settles (ordered : Ordered config time now)
    (settles : Settles config config') : Ordered config' time now := by
  obtain ⟨thread, control', released, control, owner⟩ := settles
  have idle : ¬ config'.Critical thread := by
    rintro ⟨_, _, _, requested, _⟩
    simp [control, released] at requested
  refine ⟨ordered.past, ?_⟩
  intro waiter holder criticalWaiter criticalHolder edge
  have waiterOther : waiter ≠ thread := fun same => idle (same ▸ criticalWaiter)
  have holderOther : holder ≠ thread := fun same => idle (same ▸ criticalHolder)
  have waiterControl : config'.control waiter = config.control waiter := by
    simp [control, waiterOther]
  have holderControl : config'.control holder = config.control holder := by
    simp [control, holderOther]
  apply ordered.rises waiter holder
  · exact critical_of_control waiterControl criticalWaiter
  · exact critical_of_control holderControl criticalHolder
  · apply waitsFor_of_control waiterControl ?_ edge
    intro mutex owned
    exact (owner mutex holder owned).resolve_right holderOther

/-- The newest request is the last one: an orderly thread does not ask for a
mutex that a critical thread, itself included, holds. -/
private theorem Ordered.asks (staged : Staged config stage) (ordered : Ordered config time now)
    (orderly : config.orderly (.advance thread choice) = true)
    (asks : Asks config config' thread mutex) :
    Ordered config' (Function.update time thread now) (now + 1) := by
  obtain ⟨⟨rest, program⟩, requested, same⟩ := asks
  have control : config'.control = Function.update config.control thread
      { config.control thread with requested := true } := by rw [same]; rfl
  have owner : config'.owner = config.owner := by rw [same]; rfl
  have others (other : Thread) (different : other ≠ thread) :
      config'.control other = config.control other := by simp [control, different]
  have kept (other : Thread) :
      (config'.control other).program = (config.control other).program ∧
        (config'.control other).invalidating = (config.control other).invalidating := by
    by_cases own : other = thread
    · subst own; simp [control]
    · simp [others other own]
  refine ⟨?_, ?_⟩
  · intro other
    by_cases own : other = thread
    · simp [own]
    · simpa [own] using Nat.lt_succ_of_lt (ordered.past other)
  · intro waiter holder criticalWaiter criticalHolder edge
    by_cases own : waiter = thread
    · subst own
      exfalso
      obtain ⟨asked, ⟨_, _, head⟩, owned⟩ := edge
      obtain ⟨invalidating, _⟩ := criticalWaiter
      obtain ⟨holderInvalidating, _, _, _, _, holderProgram⟩ := criticalHolder
      rw [(kept _).1] at head holderProgram
      rw [(kept _).2] at invalidating holderInvalidating
      rw [owner] at owned
      cases program.symm.trans head
      have contested := staged.contested holderInvalidating holderProgram owned
      obtain ⟨project, entered⟩ := Option.isSome_iff_exists.mp invalidating
      have current : config.control waiter =
          { program := .lock mutex rest, requested := false, invalidating := some project } := by
        rw [← program, ← requested, ← entered]
      simp [Config.orderly, current, contested] at orderly
    · by_cases last : holder = thread
      · subst last
        simpa [own] using ordered.past waiter
      · simp only [ne_eq, own, not_false_eq_true, Function.update_of_ne, last]
        apply ordered.rises waiter holder
        · exact critical_of_control (others waiter own) criticalWaiter
        · exact critical_of_control (others holder last) criticalHolder
        · exact waitsFor_of_control (others waiter own) (fun _ owned => owner ▸ owned) edge

theorem Ordered.step (staged : Staged config stage) (ordered : Ordered config time now)
    (orderly : config.orderly action = true) (moved : config.step action = some config') :
    ∃ time' now', Ordered config' time' now' := by
  rcases step_cases moved with ⟨control, owner⟩ | ⟨thread, choice, mutex, rfl, asks⟩ | settles
  · refine ⟨time, now, ordered.past, ?_⟩
    intro waiter holder criticalWaiter criticalHolder edge
    apply ordered.rises waiter holder
    · exact critical_of_control (by rw [control]) criticalWaiter
    · exact critical_of_control (by rw [control]) criticalHolder
    · exact waitsFor_of_control (by rw [control]) (fun _ owned => owner ▸ owned) edge
  · exact ⟨_, _, ordered.asks staged orderly asks⟩
  · exact ⟨time, now, ordered.settles settles⟩

/-- In a run of orderly steps no configuration has a deadlock. -/
theorem Config.OrderlyReached.deadlockFree (reached : config.OrderlyReached) :
    config.DeadlockFree := by
  have invariant : (∃ stage, Staged config stage) ∧ ∃ time now, Ordered config time now := by
    refine reached.invariant
      (fun config => (∃ stage, Staged config stage) ∧ ∃ time now, Ordered config time now)
      ⟨⟨_, Staged.initial⟩, fun _ => 0, 1, by simp, ?_⟩ ?_
    · rintro waiter holder ⟨absurd, _⟩
      cases absurd
    · rintro config action config' ⟨⟨stage, staged⟩, time, now, ordered⟩ orderly moved
      exact ⟨staged.step moved, ordered.step staged orderly moved⟩
  obtain ⟨⟨stage, staged⟩, time, now, ordered⟩ := invariant
  apply acyclic_of_rank time
  intro waiter holder edge waiterCycle holderCycle
  obtain ⟨before, incoming⟩ := waiterCycle.incoming
  obtain ⟨after, outgoing, afterCycle⟩ := holderCycle.outgoing
  obtain ⟨last, final, _⟩ := afterCycle.outgoing
  exact ordered.rises waiter holder (staged.critical incoming edge outgoing)
    (staged.critical edge outgoing final) edge

/-- The next operations of a thread, with the value each choice takes. -/
def operations (thread : Thread) (choices : List Nat) : List Action :=
  choices.map (.advance thread)

/-- Two connections that have started the given projects. -/
def attachBoth (first second : ProjectId) : List Action :=
  [.connect] ++ operations (.transport 0) (List.replicate 4 0) ++
  [.connect] ++ operations (.transport 1) (List.replicate 4 0) ++
  [.call 0 (.start first)] ++ operations (.request 0) (List.replicate 16 0) ++
  [.call 1 (.start second)] ++ operations (.request 1) (List.replicate 16 0)

/-- A request of the session that finds a changed layout and has upgraded the
registered sessions in `invalidate_project_states`. -/
def invalidateLayout (session : SessionId) : List Action :=
  [.call session .dispatch] ++
    operations (.request session) (List.replicate 11 0 ++ [1] ++ List.replicate 5 0)

/-- One request waits for the selection of a queued request of another project. -/
def visitQueued : List Action :=
  attachBoth 0 1 ++ [.call 1 .dispatch] ++ operations (.request 1) (List.replicate 10 0) ++
    invalidateLayout 0 ++ operations (.request 0) (List.replicate 2 0)

private theorem visitQueued_runs :
    (execute Config.step (fun config action => config.orderly action = true)
      Config.initial visitQueued).isSome := by
  decide +kernel

theorem visitQueued_deadlockFree :
    ∃ config : Config, config.OrderlyReached ∧
      config.WaitsFor (.request 0) (.request 1) ∧ config.DeadlockFree := by
  have reached : Config.OrderlyReached _ := Reachable.executed visitQueued visitQueued_runs
  refine ⟨_, reached, ⟨.selection 1, ?_, ?_⟩, reached.deadlockFree⟩
  · decide +kernel
  · decide +kernel

/-- Two requests inside `invalidate_project_states` of different projects, each
visiting the session of the other one. -/
def visitEachOther : List Action :=
  attachBoth 0 1 ++ invalidateLayout 0 ++ invalidateLayout 1 ++
    operations (.request 0) (List.replicate 2 0) ++ operations (.request 1) (List.replicate 1 0)

/-- The connection of a visited session closes before the visitor drops the
reference it upgraded: the drop asks for the barrier that the visitor holds. -/
def dropVisited : List Action :=
  attachBoth 0 0 ++ invalidateLayout 0 ++ operations (.request 0) (List.replicate 5 0) ++
    [.close 1] ++ operations (.transport 1) [0] ++ operations (.request 0) (List.replicate 3 0)

private theorem visitEachOther_runs :
    (execute Config.step (fun _ _ => True) Config.initial visitEachOther).isSome := by
  decide +kernel

private theorem dropVisited_runs :
    (execute Config.step (fun _ _ => True) Config.initial dropVisited).isSome := by
  decide +kernel

/-- Both ways in which the locks can deadlock: two requests that wait for each
other's selection, and one that waits for its own barrier. -/
theorem locks_can_deadlock :
    (∃ config : Config, config.Reached ∧
      config.WaitsFor (.request 0) (.request 1) ∧ config.WaitsFor (.request 1) (.request 0)) ∧
    (∃ config : Config, config.Reached ∧ config.WaitsFor (.request 0) (.request 0)) ∧
    ¬ ∀ config : Config, config.Reached → config.DeadlockFree := by
  have exchange : Config.Reached _ := Reachable.executed visitEachOther visitEachOther_runs
  have drop : Config.Reached _ := Reachable.executed dropVisited dropVisited_runs
  have itself : Config.WaitsFor
      ((execute Config.step (fun _ _ => True) Config.initial dropVisited).get dropVisited_runs)
      (.request 0) (.request 0) := ⟨.barrier 0, by decide +kernel, by decide +kernel⟩
  refine ⟨⟨_, exchange, ⟨.selection 1, ?_, ?_⟩, ⟨.selection 0, ?_, ?_⟩⟩, ⟨_, drop, itself⟩, ?_⟩
  · decide +kernel
  · decide +kernel
  · decide +kernel
  · decide +kernel
  · intro free
    exact free _ drop _ (.single itself)

end RocqMcp.Locks
