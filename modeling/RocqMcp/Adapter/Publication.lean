import RocqMcp.Adapter.Replay

/-! A publication runs while no session holds a state of the project: whatever
becomes of it, no state is left behind, and the process that it leaves is one of
the running request. -/

namespace RocqMcp

open Library

/-- Nobody holds a state of the project: the request accounts for those that are
left, and the frame is kept. -/
structure Vacant (project : ProjectId) (frame : World → Prop) (left : List PetStateId)
    (world : World) : Prop extends Serving project left world where
  forgotten : world.Forgotten project
  framed : frame world

/-- The installed process has been started or refreshed in the running request. -/
def Recent (project : ProjectId) (world : World) : Prop :=
  ∀ process ∈ world.process project, world.ghost.began ≤ process.epoch

/-- What an operation on the PET of a project cannot end. -/
def Calmed (project : ProjectId) (frame : World → Prop) : Prop :=
  ∀ world after, Calm project world after → frame world → frame after

section

variable {project : ProjectId} {session : SessionId} {start world after : World}
  {left temps : List PetStateId} {frame : World → Prop}

theorem Recent.calm (recent : Recent project world) (begun : world.ghost.began ≤ world.now)
    (calm : Calm project world after) : Recent project after := by
  intro process installed
  rw [calm.began]
  rcases calm.epoch process installed with late | ⟨earlier, running, older⟩
  · exact Nat.le_trans begun late
  · exact Nat.le_trans (recent earlier running) older

theorem Vacant.calm (vacant : Vacant project frame left world) (calmed : Calmed project frame)
    (later : Holding project world false temps after) : Vacant project frame temps after where
  toAdrift := vacant.toAdrift.calm later.calm
  owned := (vacant.forgotten.later (later.calm.held project) later.calm.mishaps).owned.mpr later.owned
  forgotten := vacant.forgotten.later (later.calm.held project) later.calm.mishaps
  framed := calmed _ _ later.calm vacant.framed

theorem Vacant.idle (vacant : Vacant project frame left world) (calmed : Calmed project frame)
    (idle : Idle world after) : Vacant project frame left after where
  toServing := vacant.toServing.idle idle
  forgotten := vacant.forgotten.later ((idle.calm project).held project) idle.mishaps
  framed := calmed _ _ (idle.calm project) vacant.framed

theorem Vacant.holding (vacant : Vacant project frame left world) (live : Bool) :
    Holding project world live left world where
  calm := refl_of (Calm project) world
  alive _ process installed := ⟨process, installed, rfl⟩
  owned := vacant.forgotten.owned.mp vacant.owned

/-- A leak that has a name leaves nothing to account for. -/
theorem Vacant.leak (vacant : Vacant project frame left world) (leaked : world.Leaked project) :
    Vacant project frame [] world :=
  { vacant with owned := vacant.owned.leak leaked }

/-- Source files and records do not concern the account. -/
theorem Serving.recorded (serving : Serving project temps world) (consistent : Consistent after)
    (connections : after.connections = world.connections)
    (selections : after.selections = world.selections) (projects : after.projects = world.projects)
    (now : after.now = world.now) (mishaps : after.ghost.mishaps = world.ghost.mishaps)
    (began : after.ghost.began = world.ghost.began)
    (changed : after.ghost.changed = world.ghost.changed) : Serving project temps after := by
  have held (other : ProjectId) : after.held other = world.held other :=
    World.held_selections other connections selections
  have suffered : ∀ mishap, world.Suffered mishap → after.Suffered mishap := fun mishap noted => by
    rw [World.Suffered, mishaps]
    exact noted
  refine { consistent, begun := ?_, others := ?_, bounded := ?_, owned := ?_ }
  · rw [began, now]
    exact serving.begun
  · exact serving.toAdrift.keepsOthers (fun _ _ => by rw [projects]) (fun other _ => held other)
      (Nat.le_of_eq now.symm) suffered fun _ _ => by rw [changed]
  · intro spared change recorded
    rw [changed] at recorded
    rw [now]
    exact serving.bounded (fun bypassed => spared (bypassed.mono suffered)) change recorded
  · rw [held]
    exact serving.owned.framed (by rw [World.actor, projects, World.actor])
      (by rw [World.layout, projects, World.layout]) (Nat.le_of_eq now.symm) suffered
      (by rw [changed])

theorem Serving.overwrite (serving : Serving project temps world) (path : Path) (bytes : Bytes) :
    Serving project temps (Writeback.overwrite world path bytes) :=
  serving.recorded (serving.consistent.sameSessions rfl rfl rfl rfl rfl rfl)
    rfl rfl rfl rfl rfl rfl rfl

theorem Consistent.recorded (consistent : Consistent world)
    (environment : after.environment = world.environment)
    (selections : after.selections = world.selections)
    (mishaps : after.ghost.mishaps = world.ghost.mishaps)
    (turns : after.ghost.turns = world.ghost.turns)
    (spliced : ∀ splice ∈ after.ghost.splices, splice.Faithful world)
    (submitted : ∀ submission ∈ after.ghost.submissions, submission.Linear) : Consistent after := by
  have suffered : ∀ mishap, world.Suffered mishap → after.Suffered mishap := fun mishap noted => by
    rw [World.Suffered, mishaps]
    exact noted
  refine { proofs := ?_, spliced := ?_, submitted, unattached := ?_ }
  · intro session proof active
    rw [selections] at active
    have sound := consistent.proofs session proof active
    exact ⟨sound.coherent.framed environment suffered, sound.views,
      sound.derived.later (.of_same turns)⟩
  · exact fun splice member => (spliced splice member).framed environment suffered
  · rw [selections]
    exact consistent.unattached

theorem Serving.recordSubmission {submission : Submission} (serving : Serving project temps world)
    (linear : submission.Linear) : Serving project temps (world.recordSubmission submission) := by
  refine serving.recorded (serving.consistent.recorded rfl rfl rfl rfl serving.consistent.spliced
    fun other member => ?_) rfl rfl rfl rfl rfl rfl rfl
  rcases List.mem_cons.mp member with rfl | old
  · exact linear
  · exact serving.consistent.submitted other old

theorem Serving.recordSplice {splice : Splice} (serving : Serving project temps world)
    (faithful : splice.Faithful world) : Serving project temps (world.recordSplice splice) := by
  refine serving.recorded (serving.consistent.recorded rfl rfl rfl rfl (fun other member => ?_)
    serving.consistent.submitted) rfl rfl rfl rfl rfl rfl rfl
  rcases List.mem_cons.mp member with rfl | old
  · exact faithful
  · exact serving.consistent.spliced other old

theorem Within.overwrite (path : Path) (bytes : Bytes) :
    Within project session world (Writeback.overwrite world path bytes) :=
  .sameSessions rfl rfl fun _ _ => rfl

theorem Serving.recordChange (serving : Serving project [] world)
    (forgotten : world.Forgotten project) (recent : Recent project world) :
    Serving project [] (world.recordChange project) where
  toAdrift := serving.toAdrift.recordChange
  owned := by
    have held : (world.recordChange project).held project = world.held project :=
      World.held_selections project rfl rfl
    refine (forgotten.later held fun _ suffered => suffered).owned.mpr
      { toAccounted := ?_, stamped := ?_ }
    · exact (forgotten.owned.mp serving.owned).toAccounted.framed rfl rfl fun _ suffered => suffered
    · intro _ change recorded
      simp only [World.recordChange, Function.update_self, Option.mem_def, Option.some.injEq]
        at recorded
      subst recorded
      exact ⟨serving.begun, Nat.le_refl _, recent, by simp⟩

namespace Vacant

/-- An operation that touches no runtime. -/
theorem of_idle {action : Act World ε α} (calmed : Calmed project frame) (stays : Stays Idle action) :
    Triple (Vacant project frame left) action (fun _ => Vacant project frame left)
      fun _ => Vacant project frame left :=
  stays.keeps fun _ _ idle vacant => vacant.idle calmed idle

/-- The same, where the process is one of the running request. -/
theorem of_idle_recent {action : Act World ε α} (calmed : Calmed project frame)
    (stays : Stays Idle action) :
    Triple (fun world => Vacant project frame left world ∧ Recent project world) action
      (fun _ world => Vacant project frame left world ∧ Recent project world)
      fun _ => Vacant project frame left :=
  (stays.keeps fun _ _ idle ⟨vacant, recent⟩ =>
    ⟨vacant.idle calmed idle, recent.calm vacant.begun (idle.calm project)⟩).weaken
      (fun _ holds => holds) (fun _ _ holds => holds) fun _ _ holds => holds.1

/-- An operation of the engine that leaves no state, whatever its result. -/
theorem engine {action : Act World ε α} (calmed : Calmed project frame) {live : Bool}
    (triple : ∀ middle, Triple (Holding project middle live left) action
      (fun _ => Holding project middle live temps) fun _ => Holding project middle false temps) :
    Triple (fun world => Vacant project frame left world ∧ Recent project world) action
      (fun _ world => Vacant project frame temps world ∧ Recent project world)
      fun _ => Vacant project frame temps := by
  refine .each_state fun middle ⟨vacant, recent⟩ => (triple middle).weaken ?_ ?_ ?_
  · rintro _ rfl
    exact vacant.holding live
  · exact fun _ world later => ⟨vacant.calm calmed later.calmed,
      recent.calm vacant.begun later.calm⟩
  · exact fun _ world later => vacant.calm calmed later

/-- A refresh ends every state, and begins an epoch if it succeeds. -/
theorem refresh {workspace : PetWorkspace} (left : List PetStateId) (translate : PetError → Error)
    (calmed : Calmed project frame) :
    Triple (fun world => Vacant project frame left world ∧
        workspace = (world.layout project).petWorkspace)
      (Act.mapError translate (PetActor.refreshWorkspace project workspace))
      (fun _ world => Vacant project frame [] world ∧ Recent project world)
      fun _ => Vacant project frame [] := by
  refine .mapError (.each_state fun middle ⟨vacant, current⟩ => ?_)
  have refreshed : Triple (Holding project middle false left)
      (PetActor.refreshWorkspace project workspace) _ _ :=
    Fails.settles (PetActor.refreshWorkspace_holding current)
  refine refreshed.weaken ?_ ?_ ?_
  · rintro _ rfl
    exact vacant.holding false
  · rintro _ world ⟨later, process, running, late, _⟩
    refine ⟨vacant.calm calmed later, fun installed same => ?_⟩
    obtain rfl := Option.some.inj (running.symm.trans same)
    rw [later.calm.began]
    exact Nat.le_trans vacant.begun late
  · exact fun _ world later => vacant.calm calmed later

end Vacant

namespace Writeback

variable {path : Path} {bytes : Bytes} {mark : Nat} {publication : PreparedPublication}

/-- The publication has the workspace of the current layout, and the frame does
not concern the source files. -/
structure Prepared (project : ProjectId) (publication : PreparedPublication)
    (frame : World → Prop) (world : World) : Prop where
  current : publication.workspace = (world.layout project).petWorkspace
  framed : frame world

theorem Prepared.calmed (calmed : Calmed project frame) :
    Calmed project (Prepared project publication frame) := by
  rintro world after calm ⟨current, framed⟩
  exact ⟨by rw [calm.layout]; exact current, calmed _ _ calm framed⟩

/-- A frame that a write of the server keeps as well. -/
structure Frame (project : ProjectId) (frame : World → Prop) : Prop where
  calmed : Calmed project frame
  written : ∀ world path bytes, frame world → frame (overwrite world path bytes)

theorem Frame.prepared (kept : Frame project frame) :
    Frame project (Prepared project publication frame) where
  calmed := Prepared.calmed kept.calmed
  written world path bytes prepared := ⟨prepared.current, kept.written world path bytes prepared.framed⟩

theorem overwrite_vacant (kept : Frame project frame) (vacant : Vacant project frame left world)
    (path : Path) (bytes : Bytes) : Vacant project frame left (overwrite world path bytes) where
  toServing := vacant.toServing.overwrite path bytes
  forgotten := vacant.forgotten.later (World.held_selections project rfl rfl) fun _ suffered => suffered
  framed := kept.written world path bytes vacant.framed

theorem owns_throws (path : Path) (expected : Digest) :
    Throws (fun _ => False) (owns path expected) :=
  .bind (readSource_throws path) fun _ => .gets _

theorem atomicWrite_vacant (kept : Frame project frame) (path : Path) (bytes : Bytes) :
    Triple (Vacant project frame left) (atomicWrite path bytes)
      (fun _ => Vacant project frame left) fun _ => Vacant project frame left := by
  refine .bind (Vacant.of_idle kept.calmed tick_idle) fun tick => .bind (.gets _) fun present => ?_
  refine .ite (fun _ => .throw fun _ holds => holds.1) fun _ => ?_
  refine .through (fun _ => Vacant project frame left)
    (noteWhen_keeps fun _ _ idle holds => Vacant.idle holds.1 kept.calmed idle) fun _ => ?_
  refine .through (fun _ => Vacant project frame left) ?_ fun _ =>
    .ensure (fun _ _ vacant => vacant) fun _ _ vacant => vacant
  exact fun world vacant => overwrite_vacant kept vacant path bytes

/-- A failed restoration is a named leak. -/
theorem restore_vacant (kept : Frame project frame) :
    Triple (Vacant project frame left) (restore project mark publication)
      (fun _ => Vacant project frame left) fun _ => Vacant project frame [] := by
  refine .bind (.gets _) fun renamed => .through (fun _ => Vacant project frame left)
    (noteWhen_keeps fun _ _ idle holds => Vacant.idle holds.1 kept.calmed idle) fun _ => ?_
  refine .bind (.attempt (atomicWrite_vacant kept _ _)) fun result => ?_
  cases result with
  | ok value => exact .pure fun _ vacant => vacant
  | error error =>
    refine .through (fun _ => Vacant project frame []) ?_ fun _ => .throw fun _ vacant => vacant
    rintro world vacant
    have noted := vacant.idle kept.calmed
      (@noteWhen_idle Error true (.restoreFailed project) world)
    exact noted.leak (.inr (.inr (.inr List.mem_cons_self)))

/-- The refresh of a rollback ends all states, whether it succeeds or not. -/
theorem rollbackEpoch_vacant (calmed : Calmed project frame) (restored : Bool) :
    Triple (Vacant project (Prepared project publication frame) left)
      (rollbackEpoch project publication restored)
      (fun _ => Vacant project (Prepared project publication frame) [])
      fun _ => Vacant project (Prepared project publication frame) [] := by
  have prepared : Calmed project (Prepared project publication frame) := .calmed calmed
  refine .bind (.attempt (Vacant.of_idle prepared (.mapError (nativeBuild_idle project _))))
    fun build => .through (fun _ => Vacant project (Prepared project publication frame) []) ?_
      fun refresh => Vacant.of_idle prepared (.ofExcept _)
  refine (Triple.attempt (Vacant.refresh left rollbackRefreshError prepared)).weaken ?_ ?_
    fun _ _ holds => holds
  · intro world ended
    have vacant : Vacant project (Prepared project publication frame) left world := by
      cases build <;> exact ended
    exact ⟨vacant, vacant.framed.current⟩
  · intro refresh world ended
    cases refresh with
    | ok _ => exact ended.1
    | error _ => exact ended

theorem restoreEpoch_vacant (kept : Frame project frame) :
    Triple (Vacant project (Prepared project publication frame) left)
      (restoreEpoch project mark publication)
      (fun _ => Vacant project (Prepared project publication frame) [])
      fun _ => Vacant project (Prepared project publication frame) [] := by
  refine .bind ((owns_throws _ _).safe (Vacant.of_idle kept.prepared.calmed (owns_idle _ _)))
    fun owned => .ite (fun _ => ?_) fun _ => ?_
  · exact .bind (restore_vacant kept.prepared) fun _ => rollbackEpoch_vacant kept.calmed true
  · exact rollbackEpoch_vacant kept.calmed false

/-- What the validation of a publication does where nothing is held. -/
def Validates (project : ProjectId) (validate : EngineM α) : Prop :=
  ∀ middle live, Triple (Holding project middle live []) validate
    (fun _ => Holding project middle live []) fun _ => Holding project middle false []

theorem buildAndValidate_vacant (kept : Frame project frame) {validate : EngineM α}
    (validates : Validates project validate) :
    Triple (Vacant project (Prepared project publication frame) left)
      (buildAndValidate project publication validate)
      (fun _ world => Vacant project (Prepared project publication frame) [] world ∧
        Recent project world)
      fun _ world => ∃ left, Vacant project (Prepared project publication frame) left world := by
  have prepared : Frame project (Prepared project publication frame) := kept.prepared
  have calmed := prepared.calmed
  have early {β : Type} {action : EngineM β} (stays : Stays Idle action) :
      Triple (Vacant project (Prepared project publication frame) left) action
        (fun _ => Vacant project (Prepared project publication frame) left)
        fun _ world => ∃ left, Vacant project (Prepared project publication frame) left world :=
    (Vacant.of_idle calmed stays).weaken (fun _ holds => holds) (fun _ _ holds => holds)
      fun _ _ vacant => ⟨left, vacant⟩
  have late {β : Type} {action : EngineM β} {before : World → Prop} {after : β → World → Prop}
      (triple : Triple before action after
        fun _ => Vacant project (Prepared project publication frame) []) :
      Triple before action after
        fun _ world => ∃ left, Vacant project (Prepared project publication frame) left world :=
    triple.weaken (fun _ holds => holds) (fun _ _ holds => holds) fun _ _ vacant => ⟨[], vacant⟩
  refine .bind (early (nativeBuild_idle project _)) fun _ =>
    .bind (early (requireDigest_idle _ _)) fun _ => ?_
  refine .bind ((late (Vacant.refresh left refreshError calmed)).weaken
    (fun _ vacant => ⟨vacant, vacant.framed.current⟩) (fun _ _ holds => holds)
      fun _ _ fails => fails) fun _ => ?_
  refine .bind (late (Vacant.of_idle_recent calmed (requireDigest_idle _ _))) fun _ =>
    .bind (late (Vacant.engine calmed fun middle => validates middle true)) fun value =>
      .bind (late (Vacant.of_idle_recent calmed (requireDigest_idle _ _))) fun _ => .pure ?_
  exact fun _ holds => holds

theorem rollback_vacant (kept : Frame project frame) (error : Error) :
    Triple (Vacant project (Prepared project publication frame) left)
      (rollback project mark publication error : EngineM α) (fun _ _ => False)
      fun _ => Vacant project (Prepared project publication frame) [] :=
  .bind (restoreEpoch_vacant kept) fun _ => .ite (fun _ => .throw fun _ vacant => vacant)
    fun _ => .throw fun _ vacant => vacant

/-- A publication leaves no state, and a process of the running request if it
succeeds. -/
theorem publish_vacant (kept : Frame project frame) {validate : EngineM α}
    (validates : Validates project validate) :
    Triple (Vacant project (Prepared project publication frame) left)
      (publish project publication validate)
      (fun _ world => Vacant project (Prepared project publication frame) [] world ∧
        Recent project world)
      fun _ => Vacant project (Prepared project publication frame) [] := by
  have prepared : Frame project (Prepared project publication frame) := kept.prepared
  have calmed := prepared.calmed
  refine .bind (.gets _) fun mark => .bind (.gets _) fun digest => ?_
  refine .bind ((owns_throws _ _).safe ((Vacant.of_idle calmed (owns_idle _ _)).weaken
    (fun _ holds => holds.1.1) (fun _ _ holds => holds) fun _ _ holds => holds)) fun owned => ?_
  refine .ite (fun _ => ?_) fun _ => ?_
  · exact .bind (restoreEpoch_vacant kept) fun _ => .throw fun _ vacant => vacant
  · refine .bind (.attempt (atomicWrite_vacant kept.prepared _ _)) fun result => ?_
    cases result with
    | error error =>
      exact .bind (restoreEpoch_vacant kept) fun _ => .throw fun _ vacant => vacant
    | ok _ =>
      refine .bind (.attempt (buildAndValidate_vacant kept validates)) fun result => ?_
      cases result with
      | ok value => exact .pure fun _ holds => holds
      | error error =>
        rintro world ⟨left, vacant⟩
        exact (rollback_vacant kept error).weaken (fun _ holds => holds)
          (fun _ _ impossible => impossible.elim) (fun _ _ holds => holds) world vacant

/-- A failure after the states are forgotten, and before the refresh, is a named
leak. -/
theorem noteForgotten_vacant {action : EngineM α} {after : α → World → Prop}
    (calmed : Calmed project frame)
    (triple : Triple (Vacant project frame left) action after fun _ => Vacant project frame left) :
    Triple (Vacant project frame left) (noteOnError (.forgottenUnrefreshed project) action) after
      fun _ => Vacant project frame [] := by
  refine .bind (.attempt triple) fun result => ?_
  cases result with
  | ok value => exact .pure fun _ holds => holds
  | error error =>
    refine .through (fun _ => Vacant project frame []) ?_ fun _ => .throw fun _ vacant => vacant
    rintro world vacant
    have noted := vacant.idle calmed
      (@noteWhen_idle Error true (.forgottenUnrefreshed project) world)
    exact noted.leak (.inr (.inr (.inl List.mem_cons_self)))

/-- The build epoch of a declaration that is in its file already. -/
theorem buildAndRefresh_vacant (calmed : Calmed project frame) (source : Path)
    {validate : EngineM α} (validates : Validates project validate) :
    Triple (Vacant project frame left) (buildAndRefresh project source validate)
      (fun _ world => Vacant project frame [] world ∧ Recent project world)
      fun _ => Vacant project frame [] := by
  refine .through (fun workspace world => Vacant project frame left world ∧
    workspace = (world.layout project).petWorkspace) ?_ fun workspace => ?_
  · refine noteForgotten_vacant calmed (.bind (.gets _) fun layout => ?_)
    rintro world ⟨vacant, rfl⟩
    by_cases selected : (world.layout project).containsFile source
    · simp only [Layout.petWorkspaceOf, selected, if_true]
      exact ⟨vacant, rfl⟩
    · simp only [Layout.petWorkspaceOf, selected]
      exact vacant
  · let ready : World → Prop := fun world => Vacant project frame left world ∧
      workspace = (world.layout project).petWorkspace
    have kept : ∀ before after, Idle before after → ready before → ready after := by
      rintro before after idle ⟨vacant, current⟩
      refine ⟨vacant.idle calmed idle, ?_⟩
      rw [(idle.calm project).layout]
      exact current
    refine .bind (.attempt ((nativeBuild_idle project source).keeps kept)) fun build => ?_
    refine .bind ((Vacant.refresh left refreshError calmed).weaken ?_ (fun _ _ holds => holds)
      fun _ _ vacant => vacant) fun _ => ?_
    · intro world ended
      cases build <;> exact ended
    refine .bind (Vacant.of_idle_recent calmed (.ofExcept _)) fun _ => ?_
    exact Vacant.engine calmed fun middle => validates middle true

end Writeback

end

end RocqMcp
