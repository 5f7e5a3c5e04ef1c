import RocqMcp.Pet.Calls

/-! The operations of `PetActor`, from the handshake to the refresh, keep the
account of exported states. -/

namespace RocqMcp

open Library

section

variable {project : ProjectId} {start before world : World} {live : Bool}
  {states : List PetStateId} {process : PetProcess}

/-- A fresh child takes the place of an absent one. -/
theorem Holding.spawned (holding : Holding project start live states before)
    (absent : before.process project = none) (idle : Idle before world)
    (late : before.now ≤ process.epoch) (blank : process.exported = []) :
    Holding project start live states
      (world.setActor project { process := some process, workspace := none }) where
  calm :=
    { holding.calm.toMeanwhile.trans (idle.toMeanwhile.trans { Meanwhile.refl world with }) with
      others := by
        intro other different
        rw [← holding.calm.others other different, ← idle.projects]
        simp [World.setActor, World.setRuntime, Function.update_of_ne different]
      view := by
        rw [← holding.calm.view, ← idle.projects]
        simp [World.setActor, World.setRuntime]
      artifacts := by
        rw [← holding.calm.artifacts, ← idle.projects]
        simp [World.setActor, World.setRuntime]
      epoch := by
        intro installed same
        rw [World.process_setActor] at same
        obtain rfl := Option.some.inj same
        exact .inl (Nat.le_trans holding.calm.now late) }
  alive isLive earlier installed := by
    obtain ⟨later, running, _⟩ := holding.alive isLive earlier installed
    exact absurd (absent.symm.trans running) (by simp)
  owned :=
    { settled := fun _ exporting => absurd (by simp [World.exports, blank]) exporting
      accounted := by
        intro spared
        obtain ⟨stray, exported, leaked⟩ :=
          holding.owned.accounted fun astray => spared (astray.mono idle.mishaps)
        rw [World.exports_of_absent absent] at exported
        exact ⟨stray, by simpa [World.exports, blank] using exported,
          fun nonempty => (leaked nonempty).mono idle.mishaps⟩
      stamped := by
        intro spared change recorded
        obtain ⟨began, changed, _, exported⟩ := holding.owned.stamped
          (fun bypassed => spared (bypassed.mono idle.mishaps)) change (idle.changed ▸ recorded)
        refine ⟨Nat.le_trans began idle.now, Nat.le_trans changed idle.now, ?_, exported⟩
        intro installed same
        rw [World.process_setActor] at same
        obtain rfl := Option.some.inj same
        exact Nat.le_trans began late }

/-- The installed process gets the workspace of the layout. -/
theorem Holding.readied (holding : Holding project start live states world)
    {workspace : PetWorkspace} (current : workspace = (start.layout project).petWorkspace) :
    Holding project start live states (world.setActor project
        { world.actor project with workspace := some workspace }) ∧
      (world.setActor project
        { world.actor project with workspace := some workspace }).Ready project := by
  have ready : (world.setActor project
      { world.actor project with workspace := some workspace }).Ready project := by
    simp [World.Ready, holding.calm.layout, current]
  have same : (world.setActor project { world.actor project with
      workspace := some workspace }).process project = world.process project := by
    rw [World.process_setActor]
    rfl
  refine ⟨⟨?_, ?_, ?_⟩, ready⟩
  · refine trans_of (Calm project) holding.calm (world.setActor_calm _ ?_)
    exact fun process installed => .inr ⟨process, installed, Nat.le_refl _⟩
  · rw [same]
    exact holding.alive
  · refine ⟨⟨fun _ _ => ready, ?_⟩, ?_⟩
    · intro spared
      obtain ⟨stray, exported, leaked⟩ := holding.owned.accounted spared
      exact ⟨stray, by simpa only [World.exports, same] using exported, leaked⟩
    · intro spared change recorded
      rw [same]
      exact holding.owned.stamped spared change recorded

/-- A refused release leaves its states behind. -/
theorem Holding.refused {left : List PetStateId}
    (holding : Holding project start live (left ++ states) world)
    (noted : world.Suffered (.releaseRefused project)) : Holding project start live states world :=
  { holding with owned := holding.owned.leak (.inl noted) }

/-- Without a process there is nothing to release. -/
theorem Holding.dropped {left : List PetStateId}
    (holding : Holding project start live (left ++ states) world)
    (absent : world.process project = none) : Holding project start live states world :=
  { holding with owned := holding.owned.fewer absent fun _ => List.mem_append_right _ }

/-- A held state is an exported one, so that the process is ready. -/
theorem Holding.ready (holding : Holding project start live states world) {state : PetStateId}
    (member : state ∈ states) (spared : ¬ world.Astray project) :
    world.Ready project := by
  obtain ⟨stray, exported, _⟩ := holding.owned.accounted spared
  have present := exported.mem_iff.mpr (List.mem_append_left stray member)
  exact holding.owned.settled spared (List.ne_nil_of_mem present)

/-- Holding since a state that was itself reached by holding. -/
theorem Holding.since (holding : Holding project start live earlier before)
    (later : Holding project before live states world) :
    Holding project start live states world where
  calm := trans_of (Calm project) holding.calm later.calm
  alive isLive process installed := by
    obtain ⟨middle, running, same⟩ := holding.alive isLive process installed
    obtain ⟨last, running', same'⟩ := later.alive isLive middle running
    exact ⟨last, running', same'.trans same⟩
  owned := later.owned

/-- What is held here is held from here on. -/
theorem Holding.rebase (holding : Holding project start live states before) :
    ∀ world, world = before → Holding project before live states world := by
  rintro world rfl
  exact
    { calm := refl_of (Calm project) world
      alive := fun _ process installed => ⟨process, installed, rfl⟩
      owned := holding.owned }

theorem Gone.since (holding : Holding project start live earlier before)
    (later : Gone project before world) : Gone project start world :=
  { later with calm := trans_of (Calm project) holding.calm later.calm }

/-- The stamps of states do not change during an operation. -/
theorem World.Stamped.of_start (stamped : world.Stamped project [])
    (calm : Calm project start world) (earlier : start.Stamped project states) :
    world.Stamped project states := by
  intro spared change recorded
  obtain ⟨began, changed, epoch, _⟩ := stamped spared change recorded
  rw [calm.changed] at recorded
  exact ⟨began, changed, epoch,
    (earlier (fun bypassed => spared (bypassed.mono calm.mishaps)) change recorded).2.2.2⟩

/-- A swallowed loss of the process, once it is noted. -/
theorem Gone.swallowed (gone : Gone project start world)
    (suffered : world.Suffered (.silentLoss project))
    (stamped : start.Stamped project states) : Holding project start false states world where
  calm := gone.calm
  alive isLive := by cases isLive
  owned :=
    { settled := fun spared => absurd (.inl suffered) spared
      accounted := fun spared => absurd (.inl suffered) spared
      stamped := gone.stamped.of_start gone.calm stamped }

/-- Nothing is lost where there was no process. -/
theorem Gone.unchanged (gone : Gone project start world) (owned : Owned project states start)
    (absent : start.process project = none) : Holding project start false states world where
  calm := gone.calm
  alive isLive := by cases isLive
  owned :=
    { settled := gone.owned.settled
      accounted := by
        intro spared
        obtain ⟨stray, exported, _⟩ :=
          owned.accounted fun astray => spared (astray.mono gone.calm.mishaps)
        rw [World.exports_of_absent absent] at exported
        have blank := List.nil_perm.mp exported
        simp only [List.append_eq_nil_iff] at blank
        exact ⟨[], by simp [blank, World.exports_of_absent gone.absent], by simp⟩
      stamped := gone.stamped.of_start gone.calm owned.stamped }

end

/-- PET forgets every state and begins an epoch. -/
theorem Holding.refreshed (holding : Holding project start live states world)
    (process : PetProcess) : Holding project start false [] (world.setActor project
      { world.actor project with process := some (process.refresh world.now) }) where
  calm := by
    refine trans_of (Calm project) holding.calm (world.setActor_calm _ ?_)
    intro installed same
    obtain rfl := Option.some.inj same
    exact .inl (Nat.le_refl _)
  alive isLive := by cases isLive
  owned :=
    { settled := fun _ exporting => absurd (by simp [World.exports, PetProcess.refresh]) exporting
      accounted := fun _ => ⟨[], by simp [World.exports, PetProcess.refresh], by simp⟩
      stamped := by
        intro spared change recorded
        obtain ⟨began, changed, _, _⟩ := holding.owned.stamped spared change recorded
        refine ⟨began, changed, ?_, by simp⟩
        intro installed same
        rw [World.process_setActor] at same
        obtain rfl := Option.some.inj same
        exact began }

/-- Recording an event touches nothing. -/
theorem World.record_idle (world : World) (event : ChainEvent)
    (unwritten : ∀ source at', .wrote source at' ≠ event) : Idle world (world.record event) :=
  { world.record_meanwhile event unwritten with projects := rfl }

/-- The installed process has been started or refreshed since. -/
def Late (project : ProjectId) (start world : World) : Prop :=
  ∃ process ∈ world.process project, start.now ≤ process.epoch

/-- The epoch of the installed process is recorded as a new one. -/
def Renewed (project : ProjectId) (start world : World) : Prop :=
  ∃ process ∈ world.process project, start.now ≤ process.epoch ∧ ∃ events,
    world.ghost.chain = .refreshed project process.epoch :: (events ++ start.ghost.chain)

/-- The state that the outcome of a traced run carries. -/
def PetTraceOutcome.state (outcome : PetTraceOutcome) : PetStateId :=
  match outcome with
  | .success execution => execution.state
  | .failure failed => failed.beforeState

namespace PetActor

variable {project : ProjectId} {start : World} {live : Bool} {states : List PetStateId}

theorem spawn_started (before : World) :
    Triple (· = before) spawn
      (fun process world => Idle before world ∧ before.now ≤ process.epoch ∧
        process.exported = [])
      fun _ world => Idle before world := by
  have ticked : Triple (· = before) (tick : PetM Tick) (fun _ => Idle before)
      fun _ => Idle before :=
    tick_idle.keeps fun _ _ idle same => same ▸ idle
  refine .bind ticked fun tick => ?_
  cases tick.spawn with
  | some error => exact .throw fun _ holds => holds
  | none =>
    refine .bind (.gets _) fun epoch => ?_
    let named : World → Prop := fun world => Idle before world ∧ before.now ≤ epoch
    have asked : Triple named (exchange .capabilities none) (fun _ => named) fun _ => named :=
      (exchange_idle _ _).keeps fun _ _ idle ⟨early, late⟩ => ⟨trans_of Idle early idle, late⟩
    refine .bind (asked.weaken (fun world ⟨idle, read⟩ => ⟨idle, read ▸ idle.now⟩)
      (fun _ _ holds => holds) fun _ _ holds => holds.1) fun reply => ?_
    cases reply with
    | capabilities names =>
      refine .through (fun _ => named) (.ensure (fun _ _ holds => holds)
        fun _ _ holds => holds.1) fun _ => ?_
      exact fun _ ⟨idle, late⟩ => ⟨idle, late, rfl⟩
    | _ => exact fun _ holds => holds.1

/-- The child is the installed one, or a fresh one. -/
theorem ensureChild_holding :
    Triple (Holding project start live states) (ensureChild project)
      (fun process world => Holding project start live states world ∧
        Running project process world)
      (PetFails project start states) := by
  refine .each_state fun before holding => .bind (.gets _) fun found => ?_
  cases found with
  | some process =>
    refine .pure fun _ ⟨same, running⟩ => ?_
    subst same
    exact ⟨holding, running.symm⟩
  | none =>
    refine .each_state fun _ ⟨same, absent⟩ => ?_
    subst same
    have spawned : Triple (· = _) spawn _ (PetFails project start states) :=
      (spawn_started _).weaken (fun _ same => same) (fun _ _ holds => holds) fun error _ idle =>
        (holding.idle idle).failed ((idle.process project).trans absent.symm)
    refine .bind spawned fun process => ?_
    intro world ⟨idle, late, blank⟩
    exact ⟨holding.spawned absent.symm idle late blank, World.process_setActor _ _⟩

theorem ensureProcess_holding {workspace : PetWorkspace}
    (current : workspace = (start.layout project).petWorkspace) :
    Triple (Holding project start live states) (ensureProcess project workspace)
      (fun _ world => Holding project start live states world ∧ world.Ready project ∧
        ∃ process, Running project process world)
      (PetFails project start states) := by
  refine .bind ensureChild_holding fun process => .bind (.gets _) fun known => .ite ?_ ?_
  · rintro rfl world ⟨⟨holding, running⟩, read⟩
    exact ⟨holding, by rw [World.Ready, holding.calm.layout, ← current]; exact read.symm,
      process, running⟩
  · intro _
    refine .bind (orDiscard_fails ((rpc_quiet rfl (by simp) (by simp)).weaken
      (fun _ holds => holds.1) (fun _ _ holds => holds) fun _ _ holds => holds)) fun reply => ?_
    cases reply with
    | null =>
      rintro world ⟨holding, running⟩
      obtain ⟨readied, ready⟩ := holding.readied current
      exact ⟨readied, ready, process, (World.process_setActor _ _).trans running⟩
    | _ =>
      exact .bind (discard_gone.weaken (fun _ holds => holds.1) (fun _ _ holds => holds)
        fun _ _ holds => holds) fun _ => fun _ gone => .inr ⟨gone, rfl⟩

theorem callInWorkspace_quiet {workspace : PetWorkspace}
    (current : workspace = (start.layout project).petWorkspace) {call : PetCall}
    (quiet : call.mayExport = false) (kept : ∀ states, call ≠ .releaseStates states)
    (stale : call ≠ .refreshWorkspace) :
    Triple (Holding project start live states) (callInWorkspace project workspace call)
      (fun _ => Holding project start live states) (PetFails project start states) :=
  .bind (ensureProcess_holding current) fun _ =>
    (callLive_quiet quiet kept stale).weaken (fun _ holds => holds.1) (fun _ _ holds => holds)
      fun _ _ holds => holds

theorem callInWorkspace_exporting {workspace : PetWorkspace}
    (current : workspace = (start.layout project).petWorkspace) {call : PetCall}
    (exporting : call.mayExport = true) :
    Triple (Holding project start live states) (callInWorkspace project workspace call)
      (fun reply => Holding project start live (reply.states ++ states))
      (PetFails project start states) :=
  .bind (ensureProcess_holding current) fun _ =>
    (callLive_exporting exporting).weaken (fun _ holds => ⟨holds.1, fun _ => holds.2.1⟩)
      (fun _ _ holds => holds) fun _ _ holds => holds

theorem documentDeclarations_holding {workspace : PetWorkspace}
    (current : workspace = (start.layout project).petWorkspace) (source : PetSource) :
    Triple (Holding project start live states) (documentDeclarations project workspace source)
      (fun _ => Holding project start live states) (PetFails project start states) := by
  refine .bind (callInWorkspace_quiet current rfl (by simp) (by simp)) fun reply => ?_
  cases reply with
  | declarations rows => exact .pure fun _ holds => holds
  | _ => exact violated_fails _

theorem insertionPoint_holding {workspace : PetWorkspace}
    (current : workspace = (start.layout project).petWorkspace) (source : PetSource)
    (modules : List String) :
    Triple (Holding project start live states) (insertionPoint project workspace source modules)
      (fun _ => Holding project start live states) (PetFails project start states) := by
  refine .bind (callInWorkspace_quiet current rfl (by simp) (by simp)) fun reply => ?_
  cases reply with
  | offset value => exact .pure fun _ holds => holds
  | _ => exact violated_fails _

/-- A release of some states; a failure may leave more of them behind. -/
theorem releaseStates_leaving (released left : List PetStateId) :
    Triple (Holding project start live (released ++ (left ++ states)))
      (releaseStates project released)
      (fun _ => Holding project start live (left ++ states)) (PetFails project start states) := by
  refine .ite ?_ fun _ => ?_
  · intro blank
    rw [List.isEmpty_iff.mp blank]
    exact .pure fun _ holds => holds
  · refine .bind (.attempt callLive_releasing) fun result => ?_
    cases result with
    | error error =>
      refine .bind (.gets _) fun alive => .through (fun _ => PetFails project start states error)
        ?_ fun _ => .throw fun _ holds => holds
      have dropped : ∀ world, PetFails project start (released ++ (left ++ states)) error world →
          (alive = true → world.Suffered (.releaseRefused project)) →
          (alive = false → world.process project = none) →
          PetFails project start states error world := by
        rintro world (⟨holding, mild⟩ | gone) noted absent
        · rw [← List.append_assoc] at holding
          cases alive with
          | true => exact .inl ⟨holding.refused (noted rfl), mild⟩
          | false => exact .inl ⟨holding.dropped (absent rfl), mild⟩
        · exact .inr gone
      cases alive with
      | true =>
        intro world ⟨fails, _⟩
        have idle := @noteWhen_idle PetError true (.releaseRefused project) world
        exact dropped _ (fails.idle idle) (fun _ => List.mem_cons_self) nofun
      | false =>
        intro world ⟨fails, read⟩
        exact dropped _ fails nofun fun _ => by simpa using read.symm
    | ok reply =>
      cases reply with
      | released count absent =>
        exact .ite (fun _ => .pure fun _ holds => holds) fun _ => violated_fails _
      | _ => exact violated_fails _

/-- A release that fails without losing the process has released nothing. -/
theorem releaseStates_refused (released : List PetStateId) :
    Triple (Holding project start live (released ++ states)) (releaseStates project released)
      (fun _ => Holding project start live states)
      (PetFails project start (released ++ states)) := by
  refine .ite ?_ fun _ => ?_
  · intro blank
    rw [List.isEmpty_iff.mp blank]
    exact .pure fun _ holds => holds
  · refine .bind (.attempt callLive_releasing) fun result => ?_
    cases result with
    | error error =>
      refine .bind (.gets _) fun alive => .through
        (fun _ => PetFails project start (released ++ states) error) ?_ fun _ =>
          .throw fun _ holds => holds
      exact noteWhen_keeps fun _ _ idle holds => holds.1.idle idle
    | ok reply =>
      have violating : ∀ message, Triple (Holding project start live states)
          (violated project message : PetM Unit) (fun _ => Holding project start live states)
          (PetFails project start (released ++ states)) :=
        fun message world holding => .inr ⟨holding.discarded, rfl⟩
      cases reply with
      | released count absent => exact .ite (fun _ => .pure fun _ holds => holds) fun _ => violating _
      | _ => exact violating _

theorem releaseStates_holding (released : List PetStateId) :
    Triple (Holding project start live (released ++ states)) (releaseStates project released)
      (fun _ => Holding project start live states) (PetFails project start states) :=
  releaseStates_leaving released []

/-- Without a process, only the empty release succeeds. -/
theorem releaseStates_absent {released : List PetStateId} :
    Triple (Gone project start) (releaseStates project released)
      (fun _ world => Gone project start world ∧ released = [])
      fun error world => Gone project start world ∧ PetError.invalidatesProcess error = true := by
  refine .ite (fun blank => .pure fun _ gone => ⟨gone, List.isEmpty_iff.mp blank⟩) fun _ => ?_
  refine .bind (.attempt (callLive_gone fun _ _ => False)) fun result => ?_
  cases result with
  | ok reply => exact fun _ holds => holds.elim
  | error error =>
    refine .bind (.gets _) fun alive => .through (fun _ world =>
      Gone project start world ∧ error.invalidatesProcess = true) ?_ fun _ =>
        .throw fun _ holds => holds
    exact noteWhen_keeps fun _ _ idle ⟨⟨gone, told⟩, _⟩ => ⟨gone.idle idle, told⟩

theorem releaseStates_gone {released : List PetStateId} :
    Triple (Gone project start) (releaseStates project released) (fun _ => Gone project start)
      fun error world => Gone project start world ∧ PetError.invalidatesProcess error = true :=
  releaseStates_absent.weaken (fun _ gone => gone) (fun _ _ holds => holds.1) fun _ _ fails => fails

/-- A release after an operation that may have lost the process. -/
theorem releaseStates_fails (released : List PetStateId) {mild ends : Prop} :
    Triple (Fails project start (released ++ states) mild ends) (releaseStates project released)
      (fun _ => Fails project start states mild ends) (PetFails project start states) :=
  .cases
    (.assume fun isMild => (releaseStates_holding released).weaken (fun _ holds => holds)
      (fun _ _ holds => .inl ⟨holds, isMild⟩) fun _ _ holds => holds)
    (.assume fun told => releaseStates_gone.weaken (fun _ holds => holds)
      (fun _ _ gone => .inr ⟨gone, told⟩) fun _ _ gone => .inr gone)

/-- The process was installed before a swallowed call and is not there after it. -/
theorem noteLoss_holding {before : World} {alive after : Bool}
    (stamped : before.Stamped project states)
    (owned : before.process project = none → Owned project states before)
    (was : alive = (before.process project).isSome) {failed : ε → World → Prop} :
    Triple (fun world => (Holding project before false states world ∨ Gone project before world) ∧
        after = (world.process project).isSome)
      (noteWhen (alive && !after) (.silentLoss project))
      (fun _ => Holding project before false states) failed := by
  have idle := @noteWhen_idle ε (alive && !after) (.silentLoss project)
  rintro world ⟨later | gone, is⟩
  · have kept := later.idle (idle world)
    cases alive <;> cases after <;> exact kept
  · have lost : after = false := by rw [is, gone.absent]; rfl
    subst lost
    have kept := gone.idle (idle world)
    cases alive with
    | true => exact kept.swallowed List.mem_cons_self stamped
    | false =>
      have absent : before.process project = none := by simpa using was.symm
      exact kept.unchanged (owned absent) absent

/-- A swallowed call: where it loses the process, the loss is noted. -/
theorem bestEffort_holding {action : Act World ε α} {mild ends : ε → Prop}
    {fewer : List PetStateId}
    (triple : ∀ start, Triple (Holding project start live states) action
      (fun _ => Holding project start false fewer)
      fun error => Fails project start fewer (mild error) (ends error))
    (subset : ∀ state ∈ fewer, state ∈ states) {failed : ε' → World → Prop} :
    Triple (Holding project start live states) (bestEffort project action)
      (fun _ => Holding project start false fewer) failed := by
  refine .each_state fun before holding => ?_
  have ran : Triple (· = before) action (fun _ => Holding project before false fewer)
      fun error => Fails project before fewer (mild error) (ends error) :=
    (triple before).weaken holding.rebase (fun _ _ holds => holds)
      fun _ _ holds => holds
  refine .bind (.gets _) fun alive => ?_
  intro world ⟨same, was⟩
  subst same
  refine Triple.bind (.attempt ran) (fun result => ?_) _ rfl
  refine .bind (.gets _) fun after => .bind ((noteLoss_holding (holding.owned.stamped.subset subset)
    (fun absent => holding.owned.fewer absent subset) was).weaken ?_
    (fun _ _ later => holding.calmed.since later) fun _ _ holds => holds) fun _ =>
      .pure fun _ holds => holds
  rintro world ⟨ended, is⟩
  cases result with
  | ok value => exact ⟨.inl ended, is⟩
  | error error => exact ⟨ended.imp And.left And.left, is⟩

theorem bestEffort_gone {action : Act World ε α}
    (triple : Triple (Gone project start) action (fun _ => Gone project start)
      fun _ => Gone project start) {failed : ε' → World → Prop} :
    Triple (Gone project start) (bestEffort project action) (fun _ => Gone project start) failed := by
  refine .bind (.gets _) fun alive => .through (fun _ => Gone project start) ?_ fun result =>
    .bind (.gets _) fun after => .through (fun _ => Gone project start)
      (noteWhen_keeps fun _ _ idle ⟨gone, _⟩ => gone.idle idle) fun _ => .pure fun _ holds => holds
  refine (Triple.attempt triple).weaken (fun _ holds => holds.1) ?_ fun _ _ holds => holds
  intro result world
  cases result <;> exact id

/-- A swallowed release leaves the other states. -/
theorem releaseQuietly_fails (released : List PetStateId) {mild ends : Prop}
    {failed : ε → World → Prop} :
    Triple (Fails project start (released ++ states) mild ends)
      (bestEffort project (releaseStates project released))
      (fun _ => Fails project start states mild ends) failed := by
  refine .cases (.assume fun isMild => ?_) (.assume fun told => ?_)
  · exact (bestEffort_holding (fun start => (releaseStates_holding released).weaken (fun _ holds => holds)
      (fun _ _ holds => holds) fun _ _ holds => holds) fun _ => List.mem_append_right _).weaken
        (fun _ holds => holds) (fun _ _ holds => .inl ⟨holds, isMild⟩) fun _ _ holds => holds
  · exact (bestEffort_gone (releaseStates_gone.weaken (fun _ holds => holds)
      (fun _ _ gone => gone) fun _ _ gone => gone.1)).weaken (fun _ holds => holds)
        (fun _ _ gone => .inr ⟨gone, told⟩) fun _ _ holds => holds

theorem goals_holding (state : PetStateId) :
    Triple (Holding project start live states) (goals project state)
      (fun _ => Holding project start live states) (PetFails project start states) := by
  refine .bind (callLive_quiet rfl (by simp) (by simp)) fun reply => ?_
  cases reply with
  | null => exact .pure fun _ holds => holds
  | goals goals => exact .pure fun _ holds => holds
  | _ => exact violated_fails _

theorem materialize_holding {state : PetStateId} (proofFinished : Bool) :
    Triple (Holding project start live (state :: states)) (materialize project state proofFinished)
      (fun execution world => Holding project start live (state :: states) world ∧
        execution.state = state ∧ execution.proofFinished = proofFinished)
      (PetFails project start states) := by
  refine .bind (.attempt (goals_holding state)) fun result => ?_
  cases result with
  | ok goals => exact .pure fun _ holds => ⟨holds, rfl, rfl⟩
  | error error =>
    exact .bind (releaseQuietly_fails [state]) fun _ => .throw fun _ holds => holds

/-- A reply to an exporting call. -/
theorem materializeRun_holding (reply : PetReply PetStateId) :
    Triple (Holding project start live (reply.states ++ states)) (materializeRun project reply)
      (fun execution => Holding project start live (execution.state :: states))
      (PetFails project start states) := by
  cases reply with
  | run state proofFinished feedback =>
    exact (materialize_holding proofFinished).weaken (fun _ holds => holds)
      (fun _ _ ⟨holding, same, _⟩ => same ▸ holding) fun _ _ holds => holds
  | _ => exact violated_fails _

theorem readDocument_idle (source : PetSource) : Stays Idle (readDocument source) := by
  refine .bind tick_idle fun tick => .bind (.gets _) fun content => ?_
  split
  · exact .pure _
  · exact .throw _

/-- An error of the client before it has asked PET. -/
abbrev Local (error : PetError) : Prop := error.invalidatesProcess = false

theorem readDocument_throws (source : PetSource) : Throws Local (readDocument source) := by
  refine .bind tick_throws fun tick => .bind (.gets _) fun content => ?_
  split
  · exact .pure _
  · exact .throw rfl

theorem sourcePosition_local {text : String} {offset : Nat} {error : PetError}
    (failed : sourcePosition text offset = .error error) : Local error := by
  unfold sourcePosition at failed
  split at failed
  · split at failed <;> cases failed
    rfl
  · cases failed
    rfl

theorem stateAt_holding {workspace : PetWorkspace}
    (current : workspace = (start.layout project).petWorkspace) (source : PetSource) (offset : Nat) :
    Triple (Holding project start live states) (stateAt project workspace source offset)
      (fun execution => Holding project start live (execution.state :: states))
      (PetFails project start states) := by
  refine .bind (Holding.of_idle (readDocument_idle source) (readDocument_throws source)) fun text => ?_
  refine .bind (Holding.of_idle (.ofExcept _) (.ofExcept fun _ => sourcePosition_local)) fun position => ?_
  exact .bind (callInWorkspace_exporting current rfl) fun reply => materializeRun_holding reply

/-- A call that exports a state from a held one. -/
theorem callLive_from {call : PetCall} {timeoutMs : Option Nat} {state : PetStateId}
    (member : state ∈ states) (exporting : call.mayExport = true) :
    Triple (Holding project start live states) (callLive project call timeoutMs)
      (fun reply => Holding project start live (reply.states ++ states))
      (PetFails project start states) :=
  (callLive_exporting exporting).weaken (fun _ holding => ⟨holding, holding.ready member⟩)
    (fun _ _ holds => holds) fun _ _ holds => holds

theorem run_holding {state : PetStateId} (member : state ∈ states) (fragment : String)
    (timeoutMs : Option Nat) :
    Triple (Holding project start live states) (run project state fragment timeoutMs)
      (fun execution => Holding project start live (execution.state :: states))
      (PetFails project start states) := by
  refine .bind (Holding.of_idle (.ensure _ _) (.ensure rfl)) fun _ =>
    .bind (.attempt (callLive_from member rfl)) fun result => ?_
  cases result with
  | ok reply => exact materializeRun_holding reply
  | error error =>
    exact .ite (fun _ => violated_mourned _) fun _ => .throw fun _ holds => holds

theorem traceFailure_holding {state : PetStateId} (failure : RawTraceFailure) (fragment : String) :
    Triple (Holding project start live (state :: states))
      (traceFailure project state failure fragment)
      (fun outcome => Holding project start live (outcome.state :: states))
      (PetFails project start states) := by
  refine .ite (fun _ => violated_fails _) fun _ => ?_
  split
  · exact violated_fails _
  · refine .bind (materialize_holding false) fun before => .pure ?_
    exact fun _ ⟨holding, _, _⟩ => holding


theorem runTraced_holding {state : PetStateId} (member : state ∈ states) (fragment : String)
    (includeTrace : Bool) (timeoutMs : Option Nat) :
    Triple (Holding project start live states)
      (runTraced project state fragment includeTrace timeoutMs)
      (fun outcome => Holding project start live (outcome.state :: states))
      (PetFails project start states) := by
  refine .bind (Holding.of_idle (.ensure _ _) (.ensure rfl)) fun _ =>
    .bind (callLive_from member rfl) fun reply => ?_
  cases reply with
  | traceSuccess state proofFinished =>
    refine .bind (materialize_holding proofFinished) fun execution => .pure ?_
    rintro _ ⟨holding, rfl, _⟩
    exact holding
  | traceFailure before failure => exact traceFailure_holding failure fragment
  | _ => exact violated_fails _

theorem assumptions_holding (state : PetStateId) (qualifiedPath : List String) :
    Triple (Holding project start live states) (assumptions project state qualifiedPath)
      (fun _ => Holding project start live states) (PetFails project start states) := by
  refine .bind (callLive_quiet rfl (by simp) (by simp)) fun reply => ?_
  cases reply with
  | assumptions report =>
    exact .ite (fun _ => violated_fails _) fun _ => .pure fun _ holds => holds
  | _ => exact violated_fails _

theorem queryNotations_holding (state : PetStateId) (query : PetQuery) :
    Triple (Holding project start live states) (queryNotations project state query)
      (fun _ => Holding project start live states) (PetFails project start states) := by
  refine .bind (callLive_quiet rfl (by simp) (by simp)) fun reply => ?_
  cases reply with
  | notations text => exact .pure fun _ holds => holds
  | _ => exact violated_fails _

theorem queryRun_holding {state : PetStateId} (member : state ∈ states) (query : PetQuery) :
    Triple (Holding project start live states) (queryRun project state query)
      (fun _ => Holding project start live states) (PetFails project start states) := by
  refine .bind (callLive_from member rfl) fun reply => ?_
  cases reply with
  | run temporary proofFinished feedback =>
    cases feedback with
    | some text =>
      exact .bind (releaseStates_holding [temporary]) fun _ => .pure fun _ holds => holds
    | none =>
      refine .through (fun _ => Gone project start) discard_gone fun _ =>
        .bind (.attempt releaseStates_gone) fun released => .throw ?_
      cases released with
      | ok => exact fun _ gone => .inr ⟨gone, rfl⟩
      | error error => exact fun _ gone => .inr ⟨gone.1, rfl⟩
  | _ => exact violated_fails _

theorem query_holding {state : PetStateId} (member : state ∈ states) (query : PetQuery) :
    Triple (Holding project start live states) (PetActor.query project state query)
      (fun _ => Holding project start live states) (PetFails project start states) := by
  cases query with
  | notations expression => exact queryNotations_holding state _
  | _ => exact queryRun_holding member _

/-- Before a refresh, no state counts unless the process is ready to keep it. -/
theorem ensureProcess_refreshing {workspace : PetWorkspace}
    (current : workspace = (start.layout project).petWorkspace) :
    Triple (Holding project start live states) (ensureProcess project workspace)
      (fun _ world => (∃ kept, Holding project start live kept world) ∧
        ∃ process, Running project process world) (PetFails project start []) := by
  refine .each_state fun world holding => ?_
  by_cases settled : world.Ready project ∧ world.process project ≠ none
  · obtain ⟨ready, running⟩ := settled
    obtain ⟨process, running⟩ := Option.ne_none_iff_exists'.mp running
    have known : (world.actor project).workspace = some workspace := by
      rw [ready, holding.calm.layout, current]
    have found : ensureChild project world = (.ok process, world) := by
      simp [ensureChild, bind, Act.bind, Act.gets, running, pure, Act.pure]
    have skipped : ensureProcess project workspace world = (.ok (), world) := by
      simp [ensureProcess, bind, Act.bind, Act.gets, found, known, pure, Act.pure]
    intro _ same
    rw [same, skipped]
    exact ⟨⟨states, holding⟩, process, running⟩
  · have blank := holding.emptied fun ready => not_not.mp fun running => settled ⟨ready, running⟩
    exact (ensureProcess_holding current).weaken (fun _ same => same ▸ blank)
      (fun _ _ holds => ⟨⟨[], holds.1⟩, holds.2.2⟩) fun _ _ holds => holds

theorem recordInEpoch_renewed {failed : ε → World → Prop} :
    Triple (fun world => Holding project start live states world ∧ Late project start world)
      (recordInEpoch project (.refreshed project))
      (fun _ world => Holding project start live states world ∧ Renewed project start world)
      failed := by
  rintro world ⟨holding, process, running, late⟩
  have recorded : (recordInEpoch project (.refreshed project) : Act World ε Unit) world =
      (.ok (), world.record (.refreshed project process.epoch)) := by
    simp [recordInEpoch, Act.modify, show world.process project = some process from running]
  rw [recorded]
  obtain ⟨events, grown, _⟩ := holding.calm.chain
  exact ⟨holding.idle (world.record_idle _ nofun), process, running, late, events,
    congrArg _ grown⟩

/-- A replacement of the process. -/
theorem replace_holding {workspace : PetWorkspace}
    (current : workspace = (start.layout project).petWorkspace) :
    Triple (Holding project start live states) (replace project workspace)
      (fun _ world => Holding project start false [] world ∧ Late project start world)
      (PetFails project start []) := by
  refine .bind discard_gone fun _ => .each_state fun middle gone => ?_
  have fresh : Triple (Holding project middle false []) (ensureProcess project workspace) _ _ :=
    ensureProcess_holding (current.trans (by rw [gone.calm.layout]))
  refine fresh.weaken gone.holding.rebase ?_ ?_
  · rintro _ world ⟨later, _, process, running⟩
    refine ⟨gone.holding.since later, process, running, ?_⟩
    rcases later.calm.epoch process running with late | ⟨earlier, installed, _⟩
    · exact Nat.le_trans gone.calm.now late
    · exact absurd (gone.absent.symm.trans installed) nofun
  · rintro error world (⟨later, mild⟩ | ⟨later, told⟩)
    · exact .inl ⟨gone.holding.since later, mild⟩
    · exact .inr ⟨later.since gone.holding, told⟩

/-- What a refresh request leaves: a `null` reply ends all states and begins an
epoch. -/
def Asked (project : ProjectId) (start : World) (reply : PetReply PetStateId) (world : World) :
    Prop :=
  ∃ kept, Holding project start false kept world ∧
    (reply = .null → kept = [] ∧ Late project start world)

theorem rpc_refreshing {process : PetProcess} :
    Triple (fun world => Holding project start live states world ∧ Running project process world)
      (rpc project process .refreshWorkspace none) (Asked project start)
      fun _ => Holding project start live states := by
  refine (rpc_holding (fun _ => True) (fun _ _ _ holds => holds) ?_).weaken
    (fun _ holds => ⟨holds.1, holds.2, trivial⟩) (fun _ _ holds => holds) fun _ _ holds => holds
  intro world reply holding running _
  by_cases null : reply = .null
  · subst null
    exact ⟨[], holding.refreshed process, fun _ => ⟨rfl, _, World.process_setActor _ _,
      holding.calm.now⟩⟩
  · have kept : process.serve .refreshWorkspace reply world.now = process := by
      cases reply with
      | null => exact absurd rfl null
      | _ => rfl
    rw [kept]
    have same := holding.served states running rfl
      (fun spared exporting => holding.owned.settled spared
        (by rwa [World.exports_of_process running])) (fun _ exported => exported)
      fun _ member => .inl member
    refine ⟨states, same.calmed, fun answered => ?_⟩
    cases reply with
    | null => exact absurd rfl null
    | _ => cases answered

/-- A refresh leaves a process without states, in a recorded epoch. -/
theorem refreshWorkspace_holding {workspace : PetWorkspace}
    (current : workspace = (start.layout project).petWorkspace) :
    Triple (Holding project start live states) (refreshWorkspace project workspace)
      (fun _ world => Holding project start false [] world ∧ Renewed project start world)
      (PetFails project start []) := by
  refine .bind (ensureProcess_refreshing current) fun _ => .bind (.gets _) fun found => ?_
  cases found with
  | none =>
    rintro world ⟨⟨⟨kept, holding⟩, _⟩, absent⟩
    exact .inr ⟨holding.gone absent.symm, rfl⟩
  | some process =>
    have asked : Triple (fun world => ((∃ kept, Holding project start live kept world) ∧
        ∃ process, Running project process world) ∧ some process = world.process project)
        (rpc project process .refreshWorkspace none) (Asked project start)
        fun _ world => ∃ kept, Holding project start live kept world := by
      rintro world ⟨⟨⟨kept, holding⟩, _⟩, running⟩
      exact rpc_refreshing.weaken (fun _ holds => holds) (fun _ _ holds => holds)
        (fun _ _ holds => ⟨kept, holds⟩) world ⟨holding, running.symm⟩
    have replaced : Triple (fun world => ∃ kept, Holding project start false kept world)
        (do replace project workspace; recordInEpoch project (.refreshed project))
        (fun _ world => Holding project start false [] world ∧ Renewed project start world)
        (PetFails project start []) := by
      rintro world ⟨kept, holding⟩
      exact Triple.bind (replace_holding current) (fun _ => recordInEpoch_renewed) world holding
    refine .bind (.attempt asked) fun result => ?_
    cases result with
    | error error =>
      exact replaced.weaken (fun _ ⟨kept, holding⟩ => ⟨kept, holding.calmed⟩)
        (fun _ _ holds => holds) fun _ _ holds => holds
    | ok reply =>
      cases reply with
      | null =>
        refine recordInEpoch_renewed.weaken ?_ (fun _ _ holds => holds) fun _ _ holds => holds
        rintro world ⟨kept, holding, blank⟩
        obtain ⟨rfl, late⟩ := blank rfl
        exact ⟨holding, late⟩
      | _ =>
        exact replaced.weaken (fun _ ⟨kept, holding, _⟩ => ⟨kept, holding⟩)
          (fun _ _ holds => holds) fun _ _ holds => holds

end PetActor

end RocqMcp
