import RocqMcp.Adapter.Dispatch
import RocqMcp.Server

/-! `start` and the end of a connection: a session without states moves between
projects, and each section concerns the project whose barrier it holds. -/

namespace RocqMcp

open Library

/-- Every project accounts for what its sessions hold. -/
structure Orderly (world : World) : Prop where
  consistent : Consistent world
  begun : world.ghost.began ≤ world.now
  owned : ∀ project, Owned project (world.held project) world

/-- What an event of a session leaves alone, where it concerns the touched
projects: the other projects, the sessions elsewhere, and all but the states of
the other sessions. -/
structure Apart (touched : ProjectId → Prop) (session : SessionId) (before after : World) :
    Prop where
  connections : after.connections = before.connections
  projects : ∀ other, ¬ touched other → after.projects other = before.projects other
  attached : ∀ other, other ≠ session →
    (after.selections other).project = (before.selections other).project
  elsewhere : ∀ other, other ≠ session →
    (∀ project, touched project → before.attachedTo project other = false) →
      (after.selections other).checkpoints = (before.selections other).checkpoints
  siblings : ∀ other, other ≠ session →
    (before.selections other).checkpoints.Forgets (after.selections other).checkpoints

/-- The book of the session itself keeps its history. -/
structure Isolated (touched : ProjectId → Prop) (session : SessionId) (before after : World) :
    Prop extends Apart touched session before after where
  grown : (before.selections session).checkpoints.Grows (after.selections session).checkpoints

section

variable {project : ProjectId} {session : SessionId} {start world after : World}
  {temps : List PetStateId} {touched : ProjectId → Prop}

theorem Orderly.serving (orderly : Orderly world) (project : ProjectId) : Serving project [] world where
  consistent := orderly.consistent
  begun := orderly.begun
  others other _ := orderly.owned other
  bounded := (orderly.owned project).bounded
  owned := orderly.owned project

theorem Serving.orderly (serving : Serving project [] world) : Orderly world where
  consistent := serving.consistent
  begun := serving.begun
  owned other := by
    by_cases same : other = project
    · subst same
      exact serving.owned
    · exact serving.others other same

theorem Orderly.idle (orderly : Orderly world) (idle : Idle world after) : Orderly after :=
  ((orderly.serving []).idle idle).orderly

theorem Orderly.begin (orderly : Orderly world) (signal : Signal) : Orderly (world.begin signal) where
  consistent := orderly.consistent.sameSessions rfl rfl rfl rfl rfl rfl
  begun := Nat.le_refl _
  owned project := by
    rw [World.held_selections project rfl rfl]
    exact (orderly.owned project).framed rfl rfl (Nat.le_refl _) (fun _ suffered => suffered) rfl

theorem Isolated.refl (world : World) : Isolated touched session world world where
  connections := rfl
  projects _ _ := rfl
  attached _ _ := rfl
  elsewhere _ _ _ := rfl
  siblings _ _ := .inl rfl
  grown := .refl _

theorem Apart.trans (first : Apart touched session start world)
    (second : Apart touched session world after) : Apart touched session start after where
  connections := second.connections.trans first.connections
  projects other untouched :=
    (second.projects other untouched).trans (first.projects other untouched)
  attached other different := (second.attached other different).trans (first.attached other different)
  elsewhere other different away := by
    refine (second.elsewhere other different fun project member => ?_).trans
      (first.elsewhere other different away)
    exact (World.attachedTo_congr (first.attached other different) project).trans (away project member)
  siblings other different := (first.siblings other different).trans (second.siblings other different)

theorem Isolated.trans (first : Isolated touched session start world)
    (second : Isolated touched session world after) : Isolated touched session start after where
  toApart := first.toApart.trans second.toApart
  grown := first.grown.trans second.grown

theorem Within.isolated (within : Within project session start world) (member : touched project) :
    Isolated touched session start world where
  connections := within.connections
  projects other untouched := within.others other fun same => untouched (same ▸ member)
  attached other _ := within.attached other
  elsewhere other different away := within.elsewhere other different (away project member)
  siblings := within.siblings
  grown := within.grown

/-- Only runtimes of touched projects change. -/
theorem Isolated.sameSessions (selections : after.selections = world.selections)
    (connections : after.connections = world.connections)
    (projects : ∀ other, ¬ touched other → after.projects other = world.projects other) :
    Isolated touched session world after where
  connections := connections
  projects := projects
  attached _ _ := by rw [selections]
  elsewhere _ _ _ := by rw [selections]
  siblings _ _ := .inl (by rw [selections])
  grown := by rw [selections]; exact .refl _

theorem Idle.isolated (idle : Idle world after) : Isolated touched session world after :=
  .sameSessions idle.selections idle.connections fun _ _ => by rw [idle.projects]

namespace World

/-- Attach a session to a project, or to none. -/
def attach (world : World) (session : SessionId) (target : Option ProjectId) : World :=
  world.setSelection session { world.selections session with project := target }

theorem attach_checkpoints (world : World) (session other : SessionId) (target : Option ProjectId) :
    ((world.attach session target).selections other).checkpoints =
      (world.selections other).checkpoints := by
  by_cases same : other = session
  · subst same
    simp [attach, setSelection]
  · simp [attach, setSelection, same]

theorem attach_other {other : SessionId} (target : Option ProjectId) (different : other ≠ session) :
    ((world.attach session target).selections other).project =
      (world.selections other).project := by
  simp [attach, setSelection, different]

theorem flatMap_filter (list : List α) (keep : α → Bool) (body : α → List β) :
    (list.filter keep).flatMap body = list.flatMap fun value => if keep value then body value else [] := by
  induction list with
  | nil => rfl
  | cons head rest ih => cases kept : keep head <;> simp [kept, ih]

/-- A session without states does not matter for what is held. -/
theorem held_blank (connections : after.connections = world.connections)
    (others : ∀ other, other ≠ session → after.selections other = world.selections other)
    (blank : (world.selections session).checkpoints.states = [])
    (blank' : (after.selections session).checkpoints.states = []) (project : ProjectId) :
    after.held project = world.held project := by
  unfold held
  rw [flatMap_filter, flatMap_filter, connections]
  apply List.flatMap_congr
  intro other _
  by_cases same : other = session
  · subst same
    simp [blank, blank']
  · have alike : after.attachedTo project other = world.attachedTo project other :=
      World.attachedTo_congr (by rw [others other same]) project
    rw [alike, others other same]

theorem held_attach (blank : (world.selections session).checkpoints.states = [])
    (target : Option ProjectId) (project : ProjectId) :
    (world.attach session target).held project = world.held project := by
  have others : ∀ other, other ≠ session →
      (world.attach session target).selections other = world.selections other :=
    fun other different => by simp [attach, setSelection, different]
  have connections : (world.attach session target).connections = world.connections := rfl
  exact held_blank connections others blank ((congrArg _ (attach_checkpoints ..)).trans blank) project

end World

theorem Consistent.attach (consistent : Consistent world)
    (blank : (world.selections session).checkpoints.states = []) (target : Option ProjectId) :
    Consistent (world.attach session target) := by
  refine consistent.framed rfl (fun _ suffered => suffered) rfl rfl (.of_same rfl) ?_ ?_
  · intro other proof active
    rw [World.attach_checkpoints] at active
    exact consistent.proofs other proof active
  · intro other alone
    rw [World.attach_checkpoints]
    by_cases same : other = session
    · rw [same, blank]
    · rw [World.attach_other target same] at alone
      exact consistent.unattached other alone

theorem Adrift.attach (adrift : Adrift project world)
    (blank : (world.selections session).checkpoints.states = []) (target : Option ProjectId) :
    Adrift project (world.attach session target) where
  consistent := adrift.consistent.attach blank target
  begun := adrift.begun
  others := adrift.keepsOthers (fun _ _ => rfl) (fun other _ => World.held_attach blank target other)
    (Nat.le_refl _) (fun _ suffered => suffered) fun _ _ => rfl
  bounded := adrift.bounded

theorem Serving.attach (serving : Serving project [] world)
    (blank : (world.selections session).checkpoints.states = []) (target : Option ProjectId) :
    Serving project [] (world.attach session target) where
  toAdrift := serving.toAdrift.attach blank target
  owned := by
    rw [World.held_attach blank]
    exact serving.owned.framed rfl rfl (Nat.le_refl _) (fun _ suffered => suffered) rfl

theorem Isolated.attach (target : Option ProjectId) :
    Isolated touched session world (world.attach session target) where
  connections := rfl
  projects _ _ := rfl
  attached other different := World.attach_other target different
  elsewhere other _ _ := World.attach_checkpoints ..
  siblings other _ := .inl (World.attach_checkpoints ..)
  grown := by rw [World.attach_checkpoints]; exact .refl _

/-- A request that commits can no longer be cancelled. -/
theorem commitOrCancelled_committed {before : World → Prop} :
    Triple before commitOrCancelled (fun _ world => world.signal = .committed) fun _ _ => True := by
  have asked : Triple before (commitRequest : EngineM Bool)
      (fun committed world => committed = true → world.signal = .committed) fun _ _ => True := by
    refine .through (fun _ _ => True) .trivial fun _ => .through (fun _ _ => True) .trivial
      fun cancelled => .through (fun _ world => cancelled = false → world.signal = .committed) ?_
        fun _ => .pure fun _ holds committed => holds (by simpa using committed)
    intro world _
    cases cancelled with
    | true => exact nofun
    | false => exact fun _ => rfl
  exact .bind asked fun committed => .ensure (fun passed _ holds => holds passed) fun _ _ _ => trivial

/-- Committed, a request is not told of a cancellation any more. -/
theorem rejectCancelled_passes {known : World → Prop}
    (stable : ∀ world world', Idle world world' → known world → known world')
    {failed : Error → World → Prop} :
    Triple (fun world => known world ∧ world.signal = .committed) rejectCancelled
      (fun _ world => known world ∧ world.signal = .committed) failed := by
  let kept : World → Prop := fun world => known world ∧ world.signal = .committed
  have still : ∀ world world', Idle world world' → kept world → kept world' :=
    fun _ _ idle ⟨holds, committed⟩ => ⟨stable _ _ idle holds, idle.committed committed⟩
  refine .bind (.bind (tick_throws.safe (tick_idle.keeps still)) fun _ => .gets _) fun cancelled => ?_
  rintro world ⟨holds, rfl⟩
  have going : world.signal.isCancelled = false := by rw [holds.2]; rfl
  simp only [going, Act.ensure, Bool.not_false, if_true, Act.pure]
  exact holds

theorem commitOrCancelled_passes {known : World → Prop}
    (stable : ∀ world world', Idle world world' → known world → known world')
    {failed : Error → World → Prop} :
    Triple (fun world => known world ∧ world.signal = .committed) commitOrCancelled
      (fun _ world => known world ∧ world.signal = .committed) failed := by
  let kept : World → Prop := fun world => known world ∧ world.signal = .committed
  have still : ∀ world world', Idle world world' → kept world → kept world' :=
    fun _ _ idle ⟨holds, committed⟩ => ⟨stable _ _ idle holds, idle.committed committed⟩
  have asked : Triple kept commitRequest (fun committed world => kept world ∧ committed = true)
      failed := by
    refine .bind (tick_throws.safe (tick_idle.keeps still)) fun _ => .bind (.gets _) fun cancelled => ?_
    rintro world ⟨holds, rfl⟩
    have going : world.signal.isCancelled = false := by rw [holds.2]; rfl
    have same : { world with signal := .committed } = world := by rw [← holds.2]
    simp only [going, Bool.not_false, Act.when, if_true, bind, Act.bind, Act.modify, pure,
      Act.pure, same, and_true]
    exact holds
  refine .bind asked fun committed => .assume fun passed => ?_
  rw [passed]
  exact fun _ holds => holds

namespace Adapter

/-- After its commit, a failed retirement leaves the process alone. -/
theorem retireProof_committed :
    Triple (fun world => Clean project session start [] world ∧ world.signal = .committed)
      (retireProof project session)
      (fun _ world => (world.selections session).checkpoints.states = [] ∧
        world.signal = .committed)
      fun error _ => error.kind.invalidatesPetEpoch = false := by
  refine .each_state fun middle ⟨clean, committed⟩ => ?_
  refine .through (fun book world => world = middle ∧
    book = (middle.selections session).checkpoints) ?_ fun book => .assume fun read => ?_
  · rintro _ rfl
    exact ⟨rfl, rfl⟩
  subst read
  let held := (middle.selections session).checkpoints.states
  have released : Triple (· = middle) (PetActor.releaseStates project held)
      (fun _ world => world.signal = .committed)
      fun error world => world.signal = .committed ∧ error.Plain := by
    have refused : Triple (Holding project middle false
        (held ++ middle.heldByOthers project session)) (PetActor.releaseStates project held) _ _ :=
      PetActor.releaseStates_refused held
    refine (refused.both (PetActor.releaseStates_plains project held)).weaken ?_ ?_ ?_
    · rintro _ rfl
      exact ⟨(clean.toServing.holding _ rfl).perm (World.held_own clean.own), committed⟩
    · exact fun _ world holds => holds.1.calm.committed committed
    · rintro error world ⟨⟨later, _⟩ | ⟨gone, _⟩, plain⟩
      · exact ⟨later.calm.committed committed, plain⟩
      · exact ⟨gone.calm.committed committed, plain⟩
  have cleared {ε : Type} {failed : ε → World → Prop} :
      Triple (fun world => world.signal = .committed) (clearBook session)
        (fun _ world => (world.selections session).checkpoints.states = [] ∧
          world.signal = .committed) failed := by
    refine .bind (.gets _) fun book => ?_
    rintro world ⟨committed, rfl⟩
    exact ⟨by rw [World.selections_setCheckpoints, if_pos rfl]; rfl, committed⟩
  refine .bind (.attempt released) fun result => ?_
  cases result with
  | ok _ => exact .bind cleared fun _ => .pure fun _ holds => holds
  | error error =>
    refine .ite (fun _ => ?_) fun kept => .throw ?_
    · exact .bind (cleared.weaken (fun _ holds => holds.1) (fun _ _ holds => holds)
        fun _ _ holds => holds) fun _ => .pure fun _ holds => holds
    · rintro world ⟨_, plain⟩
      rw [petReleaseError_telling]
      exact Bool.eq_false_iff.mpr fun ends => kept (plain ends)

end Adapter

/-- An error that ends no states leaves them accounted for. -/
theorem Failing.clean {error : Error} (failing : Failing project session start temps error world)
    (kept : error.kind.invalidatesPetEpoch = false) : Clean project session start temps world := by
  rcases failing.stranded with ⟨serving, _⟩ | ⟨_, cancelled | ⟨ends, _⟩⟩
  · exact ⟨serving, failing.toUnseen⟩
  · rw [cancelled] at kept
    cases kept
  · rw [ends] at kept
    cases kept

/-- A session without states, on its way to a project. -/
structure Entering (touched : ProjectId → Prop) (session : SessionId) (start world : World) : Prop
    extends Orderly world, Isolated touched session start world where
  blank : (world.selections session).checkpoints.states = []
  used : session < world.connections

/-- What a section of `start` leaves, whatever its result. -/
structure Started (touched : ProjectId → Prop) (session : SessionId) (start world : World) : Prop
    extends Orderly world, Isolated touched session start world

/-- The error of `start`: a cancellation has changed nothing. -/
def Unstarted (touched : ProjectId → Prop) (session : SessionId) (start : World) (error : Error)
    (world : World) : Prop :=
  Started touched session start world ∧
    (error.kind = .requestCancelled → Untouched start world)

theorem Idle.untouched (idle : Idle world after) : Untouched world after :=
  (idle.calm []).unobserved.untouched

/-- Before it has changed anything. -/
structure Arriving (touched : ProjectId → Prop) (session : SessionId) (start world : World) : Prop
    extends Orderly world, Isolated touched session start world where
  untouched : Untouched start world
  used : session < world.connections
  leaves : ∀ project, (world.selections session).project = some project → touched project

theorem Arriving.idle (arriving : Arriving touched session start world) (idle : Idle world after) :
    Arriving touched session start after where
  toOrderly := arriving.toOrderly.idle idle
  toIsolated := arriving.toIsolated.trans idle.isolated
  untouched := arriving.untouched.trans idle.untouched
  used := by rw [idle.connections]; exact arriving.used
  leaves := by rw [idle.selections]; exact arriving.leaves

theorem Arriving.unstarted {error : Error} (arriving : Arriving touched session start world) :
    Unstarted touched session start error world :=
  ⟨⟨arriving.toOrderly, arriving.toIsolated⟩, fun _ => arriving.untouched⟩

theorem Entering.idle (entering : Entering touched session start world) (idle : Idle world after) :
    Entering touched session start after where
  toOrderly := entering.toOrderly.idle idle
  toIsolated := entering.toIsolated.trans idle.isolated
  blank := by rw [idle.selections]; exact entering.blank
  used := by rw [idle.connections]; exact entering.used

theorem Entering.started (entering : Entering touched session start world) :
    Started touched session start world :=
  ⟨entering.toOrderly, entering.toIsolated⟩

theorem Served.started (served : Served project session world after) (member : touched project)
    (isolated : Isolated touched session start world) : Started touched session start after :=
  ⟨served.toServing.orderly, isolated.trans (served.within.isolated member)⟩

theorem Orderly.clean (orderly : Orderly world) (own : Own project session world) :
    Clean project session world [] world :=
  ⟨orderly.serving project, ⟨⟨own, .refl world⟩, .refl world⟩⟩

namespace Adapter

/-- A retirement that succeeds has committed, and leaves no state of the session. -/
theorem retireForStart_served :
    Triple (Clean project session start []) (retireForStart project session)
      (fun _ world => Served project session start world ∧
        (world.selections session).checkpoints.states = [] ∧ world.signal = .committed)
      fun _ => Clean project session start [] := by
  refine .bind (Clean.idling rejectCancelled_idle) fun _ => .bind
    (((Clean.idling commitOrCancelled_idle).both commitOrCancelled_committed).weaken
      (fun _ clean => ⟨clean, clean⟩) (fun _ _ holds => holds) fun _ _ fails => fails.1)
        fun _ => ?_
  have retired : Triple (fun world => Clean project session start [] world ∧
      world.signal = .committed) (retireProof project session) _ _ :=
    (retireProof_retired.both retireProof_committed).weaken (fun _ holds => ⟨holds.1, holds⟩)
      (fun _ _ holds => holds) fun _ _ fails => Failing.clean fails.1 fails.2
  refine .bind retired fun lost => ?_
  cases lost with
  | false => exact .pure fun _ holds => holds
  | true =>
    rintro world ⟨⟨adrift, absent, bound⟩, blank, committed⟩
    refine ⟨⟨(adrift.invalidated bound.own.attached).serving absent (World.forgotten_invalidated ..),
      bound.invalidated⟩, ?_, committed⟩
    simp only [World.invalidateProjectStates, decide_true, Bool.true_or, if_true]
    exact CheckpointBook.invalidateStates_states _

/-- The view is refreshed, and the session is attached to the project. -/
theorem installStartView_started (member : touched project) :
    Triple (Entering touched session start) (installStartView project session)
      (fun _ => Started touched session start) fun _ => Started touched session start := by
  let seen : World → Prop := fun world => Isolated touched session start world ∧
    (world.selections session).checkpoints.states = [] ∧ session < world.connections
  have kept : ∀ world world', Unobserved project world world' → seen world → seen world' := by
    rintro world world' unobserved ⟨isolated, blank, used⟩
    refine ⟨isolated.trans (unobserved.within.isolated member), ?_, ?_⟩
    · rw [unobserved.selections]
      exact blank
    · rw [unobserved.connections]
      exact used
  refine .bind ((refreshProject_refreshed kept).weaken
    (fun _ entering => ⟨entering.toOrderly.serving project, entering.toIsolated, entering.blank,
      entering.used⟩) (fun _ _ holds => holds)
      fun _ _ failed => ⟨failed.1.1.orderly, failed.1.2.1⟩) fun changed => ?_
  refine .through (fun _ world => Refreshed project changed world ∧
    Own project session world ∧ Isolated touched session start world) ?_ fun _ => ?_
  · rintro world ⟨refreshed, isolated, blank, used⟩
    refine ⟨?_, ⟨by simp [World.attachedTo, World.setSelection], used⟩,
      isolated.trans (.attach (some project))⟩
    cases changed with
    | true => exact Adrift.attach refreshed blank (some project)
    | false => exact Serving.attach refreshed blank (some project)
  · refine .each_state ?_
    rintro middle ⟨refreshed, own, isolated⟩
    refine (admitLayout_clean changed).weaken ?_ (fun _ _ clean => clean.served.started member isolated)
      fun _ _ holds => holds
    intro world same
    rw [same]
    exact ⟨refreshed, ⟨⟨own, .refl middle⟩, .refl middle⟩⟩

/-- Committed, a refresh fails for other reasons than a cancellation. -/
theorem refreshProject_committed :
    Triple (fun world => world.signal = .committed) (Engine.refreshProject project)
      (fun _ _ => True) fun error _ => error.kind ≠ .requestCancelled := by
  have probed : Triple (fun world => world.signal = .committed) layoutProbe
      (fun _ world => world.signal = .committed) fun error _ => error.kind ≠ .requestCancelled := by
    refine .bind (tick_throws.safe (tick_idle.keeps fun _ _ idle => idle.committed)) fun tick => ?_
    cases tick.probe with
    | none => exact .throw fun _ _ => by decide
    | some probe => exact .pure fun _ holds => holds
  have loaded : Triple (fun world => world.signal = .committed) loadLayout (fun _ _ => True)
      fun error _ => error.kind ≠ .requestCancelled := by
    refine .bind (tick_throws.safe (tick_idle.keeps fun _ _ idle => idle.committed)) fun tick =>
      .bind (.gets _) fun cancelled => .ite (fun stopped => .throw ?_) fun _ => ?_
    · rintro world ⟨committed, rfl⟩
      rw [committed] at stopped
      cases stopped
    · cases tick.layout with
      | loaded root layout => exact .pure fun _ _ => trivial
      | _ => exact .throw fun _ _ => nofun
  refine .bind probed fun probe => .bind (.gets _) fun known => .ite
    (fun _ => .pure fun _ _ => trivial) fun _ => ?_
  refine .bind (loaded.weaken (fun _ holds => holds.1) (fun _ _ holds => holds) fun _ _ fails => fails)
    fun (root, layout) => ?_
  refine .through (fun _ _ => True) (.ensure (fun _ _ _ => trivial) fun _ _ _ => by decide) fun _ => ?_
  refine .through (fun _ _ => True) ?_ fun changed => .through (fun _ _ => True)
    (fun _ _ => trivial) fun _ => .pure fun _ _ => trivial
  refine .through (fun _ _ => True) (fun _ _ => trivial) fun current => .ite
    (fun _ => .pure fun _ _ => trivial) fun _ => .through (fun _ _ => True) (fun _ _ => trivial)
      fun _ => .pure fun _ _ => trivial

theorem installStartView_committed :
    Triple (fun world => world.signal = .committed) (installStartView project session)
      (fun _ _ => True) fun error _ => error.kind ≠ .requestCancelled := by
  refine .bind refreshProject_committed fun changed => .through (fun _ _ => True)
    (fun _ _ => trivial) fun _ => ?_
  cases changed with
  | false => exact .pure fun _ _ => trivial
  | true => exact fun _ _ => trivial

/-- The section of `start` over its project, once it has committed. -/
theorem installStartView_unstarted (member : touched project) :
    Triple (fun world => Entering touched session start world ∧ world.signal = .committed)
      (installStartView project session) (fun _ => Started touched session start)
      (Unstarted touched session start) :=
  ((installStartView_started member).both installStartView_committed).weaken (fun _ holds => holds)
    (fun _ _ holds => holds.1) fun _ _ fails => ⟨fails.1, fun cancelled => absurd cancelled fails.2⟩

/-- Before its first commit, a `start` has changed nothing; after it, it cannot be
cancelled. -/
theorem enterProject_unstarted (member : touched project) :
    Triple (fun world => Entering touched session start world ∧
        (Untouched start world ∨ world.signal = .committed)) (enterProject project session)
      (fun _ => Started touched session start) (Unstarted touched session start) := by
  let early : World → Prop := fun world =>
    Entering touched session start world ∧ Untouched start world
  have asking {action : EngineM Unit} (stays : Stays Idle action) :
      Triple early action (fun _ => early) (Unstarted touched session start) :=
    (stays.keeps fun _ _ idle ⟨entering, untouched⟩ =>
      (⟨entering.idle idle, untouched.trans idle.untouched⟩ : early _)).weaken (fun _ holds => holds)
        (fun _ _ holds => holds) fun _ _ holds => ⟨holds.1.started, fun _ => holds.2⟩
  have stable : ∀ world world', Idle world world' → Entering touched session start world →
      Entering touched session start world' := fun _ _ idle entering => entering.idle idle
  have fresh : Triple early (enterProject project session)
      (fun _ => Started touched session start) (Unstarted touched session start) := by
    refine .bind (asking rejectCancelled_idle) fun _ => .bind
      (((asking commitOrCancelled_idle).both commitOrCancelled_committed).weaken
        (fun _ holds => ⟨holds, holds⟩) (fun _ _ holds => ⟨holds.1.1, holds.2⟩)
          fun _ _ fails => fails.1) fun _ => installStartView_unstarted member
  have late : Triple (fun world => Entering touched session start world ∧
      world.signal = .committed) (enterProject project session)
      (fun _ => Started touched session start) (Unstarted touched session start) :=
    .bind (rejectCancelled_passes stable) fun _ => .bind (commitOrCancelled_passes stable) fun _ =>
      installStartView_unstarted member
  rintro world ⟨entering, untouched | committed⟩
  · exact fresh world ⟨entering, untouched⟩
  · exact late world ⟨entering, committed⟩

/-- A runtime that no session is attached to has no states, and may be replaced. -/
theorem openRuntime_arriving {attached : DuneProject} (member : touched attached.root)
    {failed : Error → World → Prop} :
    Triple (Arriving touched session start) (openRuntime attached)
      (fun _ => Arriving touched session start) failed := by
  refine .bind (tick_throws.safe (tick_idle.keeps fun _ _ idle arriving => Arriving.idle arriving idle))
    fun tick => .bind (.gets _) fun unused => ?_
  rintro world ⟨arriving, rfl⟩
  cases replaced : ((List.range world.connections).all fun session =>
      !world.attachedTo attached.root session) && !tick.pinned with
  | false =>
    simp only [Act.when, Bool.false_eq_true, if_false]
    exact arriving
  | true =>
    have idle : (List.range world.connections).filter (world.attachedTo attached.root) = [] := by
      rw [List.filter_eq_nil_iff]
      intro other member
      simpa using List.all_eq_true.mp (Bool.and_eq_true_iff.mp replaced).1 other member
    have forgotten : (world.setRuntime attached.root (.fresh attached)).held attached.root = [] := by
      have same : (world.setRuntime attached.root (.fresh attached)).held attached.root =
          world.held attached.root := World.held_selections attached.root rfl rfl
      rw [same, World.held, idle]
      rfl
    have absent : (world.setRuntime attached.root (.fresh attached)).process attached.root = none := by
      simp [World.process, World.actor, World.setRuntime, ProjectRuntime.fresh]
    have adrift := (arriving.toOrderly.serving attached.root).toAdrift.setRuntime (.fresh attached)
    simp only [Act.when, if_true, Act.modify]
    exact
      { toOrderly := (adrift.serving absent (.inl forgotten)).orderly
        toIsolated := arriving.toIsolated.trans (.sameSessions rfl rfl fun other untouched =>
          Function.update_of_ne (fun same : other = attached.root => untouched (same ▸ member)) _ _)
        untouched := arriving.untouched.trans
          (world.setRuntime_unobserved _ : Unobserved attached.root _ _).untouched
        used := arriving.used
        leaves := arriving.leaves }

theorem retireForStart_entering (arriving : Arriving touched session start world)
    (selected : (world.selections session).project = some project) :
    Triple (· = world) (retireForStart project session)
      (fun _ after => Entering touched session start after ∧ after.signal = .committed)
      (Unstarted touched session start) := by
  have own : Own project session world := ⟨by simp [World.attachedTo, selected], arriving.used⟩
  have member := arriving.leaves project selected
  have retired : Triple (Clean project session world []) (retireForStart project session) _ _ :=
    retireForStart_served
  refine retired.weaken ?_ ?_ ?_
  · rintro _ rfl
    exact arriving.toOrderly.clean own
  · rintro _ after ⟨served, blank, committed⟩
    exact ⟨⟨served.toServing.orderly, arriving.toIsolated.trans (served.within.isolated member),
      blank, served.own.used⟩, committed⟩
  · intro error after clean
    exact ⟨clean.served.started member arriving.toIsolated, fun _ =>
      arriving.untouched.trans clean.untouched⟩

theorem detach_entering (arriving : Arriving touched session start world)
    (selected : (world.selections session).project = some project) :
    Triple (· = world) (detach project session)
      (fun _ after => Entering touched session start after ∧ after.signal = .committed)
      (Unstarted touched session start) := by
  refine .bind (retireForStart_entering arriving selected) fun _ => ?_
  rintro middle ⟨entering, committed⟩
  exact ⟨
    { toOrderly := ((entering.toOrderly.serving []).attach entering.blank none).orderly
      toIsolated := entering.toIsolated.trans (.attach none)
      blank := (congrArg _ (World.attach_checkpoints ..)).trans entering.blank
      used := entering.used }, committed⟩

theorem attach_arriving {attaches : World → Prop}
    (known : ∀ world, attaches world → ∀ attached, (Engine.attach world).1 = .ok attached →
      touched attached.root) :
    Triple (fun world => Arriving touched session start world ∧ attaches world) Engine.attach
      (fun attached world => Arriving touched session start world ∧ touched attached.root)
      (Unstarted touched session start) := by
  rintro world ⟨arriving, holds⟩
  have idle := Engine.attach_idle world
  have told := known world holds
  rcases ran : Engine.attach world with ⟨result, after⟩
  rw [ran] at idle told
  cases result with
  | ok attached => exact ⟨arriving.idle idle, told attached rfl⟩
  | error error => exact (arriving.idle idle).unstarted

/-- A connection with a state-less session opens a project, or moves to it. -/
theorem start_unstarted (args : Value) {attaches : World → Prop}
    (known : ∀ world, attaches world → ∀ attached, (Engine.attach world).1 = .ok attached →
      touched attached.root) :
    Triple (fun world => Arriving touched session start world ∧ attaches world)
      (Adapter.start session args) (fun _ => Started touched session start)
      (Unstarted touched session start) := by
  let asking : World → Prop := fun world => Arriving touched session start world ∧ attaches world
  have checked {α : Type} (result : Except Error α) :
      Triple asking (Act.ofExcept result) (fun _ => asking) (Unstarted touched session start) :=
    (Triple.ofExcept result).weaken (fun _ holds => holds) (fun _ _ holds => holds.1)
      fun _ _ holds => holds.1.1.unstarted
  refine .bind (checked _) fun _ => .bind (checked _) fun _ => .bind (attach_arriving known)
    fun attached => .assume fun member => ?_
  refine .bind (openRuntime_arriving member) fun _ => .bind (.gets _) fun selected => ?_
  refine .each_state fun world ⟨arriving, read⟩ => ?_
  cases selected with
  | none =>
    refine .bind ((enterProject_unstarted member).weaken ?_ (fun _ _ holds => holds)
      fun _ _ fails => fails) fun _ => .pure fun _ started => started
    rintro _ rfl
    exact ⟨⟨arriving.toOrderly, arriving.toIsolated,
      arriving.consistent.unattached session read.symm, arriving.used⟩, .inl arriving.untouched⟩
  | some previous =>
    refine .ite (fun same => ?_) fun _ => ?_
    · refine .bind (retireForStart_entering arriving read.symm) fun _ => .bind ?_ fun _ =>
        .pure fun _ started => started
      exact installStartView_unstarted member
    · refine .bind (detach_entering arriving read.symm) fun _ => .bind
        ((enterProject_unstarted member).weaken (fun _ holds => ⟨holds.1, .inr holds.2⟩)
          (fun _ _ holds => holds) fun _ _ fails => fails) fun _ => .pure fun _ started => started

end Adapter

end

end RocqMcp
