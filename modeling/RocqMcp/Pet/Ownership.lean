import Mathlib.Data.List.Perm.Basic
import RocqMcp.Frame

/-! Ownership of exported PET states. Every state that the installed process
exports is accounted for by the caller's list, unless a release was refused or a
named leak happened; and every call keeps the account, or fails in a way that
tells the caller that the process is gone. -/

namespace RocqMcp

open Library

/-- A named leak of states of the project. -/
def World.Leaked (world : World) (project : ProjectId) : Prop :=
  world.Suffered (.releaseRefused project) ∨ world.Suffered (.clearedUnreleased project) ∨
    world.Suffered (.forgottenUnrefreshed project) ∨ world.Suffered (.restoreFailed project)

/-- Sessions may hold states that PET does not export. -/
def World.Astray (world : World) (project : ProjectId) : Prop :=
  world.Suffered (.silentLoss project) ∨ world.Suffered (.boundaryMissed project)

/-- Sessions may hold states from before the last change. -/
def World.Bypassed (world : World) (project : ProjectId) : Prop :=
  world.Suffered (.boundarySkipped project) ∨ world.Suffered (.boundaryMissed project)

/-- The workspace of the installed process is the one of the current layout. -/
def World.Ready (world : World) (project : ProjectId) : Prop :=
  (world.actor project).workspace = some (world.layout project).petWorkspace

/-- The last change of the project precedes the states, and the process has been
started or refreshed in the request of the change or after it. -/
def World.Stamped (world : World) (project : ProjectId) (states : List PetStateId) : Prop :=
  ¬ world.Bypassed project → ∀ change ∈ world.ghost.changed project,
    change.began ≤ world.now ∧ change.at' ≤ world.now ∧
      (∀ process ∈ world.process project, change.began ≤ process.epoch) ∧
      ∀ state ∈ states, change.at' ≤ state.exportedAt

/-- The exported states are the listed ones and those of a named leak, and a
process with states is ready for the current layout. -/
structure Accounted (project : ProjectId) (states : List PetStateId) (world : World) : Prop where
  settled : ¬ world.Astray project → world.exports project ≠ [] → world.Ready project
  accounted : ¬ world.Astray project →
    ∃ stray, (world.exports project).Perm (states ++ stray) ∧
      (stray ≠ [] → world.Leaked project)

structure Owned (project : ProjectId) (states : List PetStateId) (world : World) : Prop
    extends Accounted project states world where
  stamped : world.Stamped project states

/-- An operation on the project since `start` has kept the account. While it
succeeds, it is `live`: the process at the start is still installed. -/
structure Holding (project : ProjectId) (start : World) (live : Bool) (states : List PetStateId)
    (world : World) : Prop where
  calm : Calm project start world
  alive : live = true → ∀ process ∈ start.process project,
    ∃ later ∈ world.process project, later.epoch = process.epoch
  owned : Owned project states world

/-- The process is gone. -/
structure Gone (project : ProjectId) (start : World) (world : World) : Prop where
  calm : Calm project start world
  absent : world.process project = none
  stamped : world.Stamped project []

/-- A failure keeps the account, or the process is gone: the error is `mild` in
the first case, and `ends` the PET epoch in the second. -/
def Fails (project : ProjectId) (start : World) (states : List PetStateId) (mild ends : Prop)
    (world : World) : Prop :=
  (Holding project start false states world ∧ mild) ∨ (Gone project start world ∧ ends)

/-- An error of a call tells exactly whether the process is gone. -/
abbrev PetFails (project : ProjectId) (start : World) (states : List PetStateId)
    (error : PetError) : World → Prop :=
  Fails project start states (error.invalidatesProcess = false) (error.invalidatesProcess = true)

abbrev EngineFails (project : ProjectId) (start : World) (states : List PetStateId)
    (error : Error) : World → Prop :=
  Fails project start states error.Mild (error.kind.invalidatesPetEpoch = true)

section

variable {project : ProjectId} {start world after : World} {live : Bool} {states : List PetStateId}
  {process : PetProcess}

theorem World.exports_of_process (running : world.process project = some process) :
    world.exports project = process.exported := by
  simp only [World.exports, running]

theorem World.exports_of_absent (absent : world.process project = none) :
    world.exports project = [] := by
  simp only [World.exports, absent]

@[simp] theorem World.process_setActor (world : World) (actor : PetActor) :
    (world.setActor project actor).process project = actor.process := by
  simp [World.process, World.actor, World.setActor, World.setRuntime]

@[simp] theorem World.workspace_setActor (world : World) (actor : PetActor) :
    ((world.setActor project actor).actor project).workspace = actor.workspace := by
  simp [World.actor, World.setActor, World.setRuntime]

@[simp] theorem World.layout_setActor (world : World) (actor : PetActor) :
    (world.setActor project actor).layout project = world.layout project := by
  simp [World.layout, World.setActor, World.setRuntime]

theorem World.setActor_calm (world : World) (actor : PetActor)
    (epoch : ∀ process ∈ actor.process, world.now ≤ process.epoch ∨
      ∃ earlier ∈ world.process project, earlier.epoch ≤ process.epoch) :
    Calm project world (world.setActor project actor) where
  toMeanwhile := { Meanwhile.refl world with }
  others other different := by
    simp [World.setActor, World.setRuntime, Function.update_of_ne different]
  view := by simp [World.setActor, World.setRuntime]
  artifacts := by simp [World.setActor, World.setRuntime]
  epoch process installed := by
    rw [World.process_setActor] at installed
    exact epoch process installed

theorem World.Leaked.mono (leaked : world.Leaked project)
    (mishaps : ∀ mishap, world.Suffered mishap → after.Suffered mishap) : after.Leaked project := by
  rcases leaked with refused | cleared | forgotten | failed
  · exact .inl (mishaps _ refused)
  · exact .inr (.inl (mishaps _ cleared))
  · exact .inr (.inr (.inl (mishaps _ forgotten)))
  · exact .inr (.inr (.inr (mishaps _ failed)))

theorem World.Astray.mono (astray : world.Astray project)
    (mishaps : ∀ mishap, world.Suffered mishap → after.Suffered mishap) : after.Astray project :=
  astray.imp (mishaps _) (mishaps _)

theorem World.Bypassed.mono (bypassed : world.Bypassed project)
    (mishaps : ∀ mishap, world.Suffered mishap → after.Suffered mishap) : after.Bypassed project :=
  bypassed.imp (mishaps _) (mishaps _)

theorem World.Stamped.idle (stamped : world.Stamped project states) (idle : Idle world after) :
    after.Stamped project states := by
  intro spared change recorded
  rw [idle.changed] at recorded
  obtain ⟨began, changed, epoch, exported⟩ :=
    stamped (fun bypassed => spared (bypassed.mono idle.mishaps)) change recorded
  refine ⟨Nat.le_trans began idle.now, Nat.le_trans changed idle.now, ?_, exported⟩
  rw [idle.process]
  exact epoch

theorem World.Stamped.subset (stamped : world.Stamped project states)
    (fewer : ∀ state ∈ states', state ∈ states) : world.Stamped project states' := by
  intro spared change recorded
  obtain ⟨began, changed, epoch, exported⟩ := stamped spared change recorded
  exact ⟨began, changed, epoch, fun state member => exported state (fewer state member)⟩

/-- The account depends on the actor and the layout, and on records that grow. -/
theorem Accounted.framed (accounted : Accounted project states world)
    (actor : after.actor project = world.actor project)
    (layout : after.layout project = world.layout project)
    (mishaps : ∀ mishap, world.Suffered mishap → after.Suffered mishap) :
    Accounted project states after where
  settled spared exporting := by
    have ready := accounted.settled (fun astray => spared (astray.mono mishaps))
      (by simpa only [World.exports, World.process, actor] using exporting)
    simpa only [World.Ready, actor, layout] using ready
  accounted spared := by
    obtain ⟨stray, exported, leaked⟩ :=
      accounted.accounted fun astray => spared (astray.mono mishaps)
    refine ⟨stray, by simpa only [World.exports, World.process, actor] using exported, ?_⟩
    exact fun nonempty => (leaked nonempty).mono mishaps

theorem Owned.framed (owned : Owned project states world)
    (actor : after.actor project = world.actor project)
    (layout : after.layout project = world.layout project) (now : world.now ≤ after.now)
    (mishaps : ∀ mishap, world.Suffered mishap → after.Suffered mishap)
    (changed : after.ghost.changed project = world.ghost.changed project) :
    Owned project states after where
  toAccounted := owned.toAccounted.framed actor layout mishaps
  stamped := by
    intro spared change recorded
    rw [changed] at recorded
    obtain ⟨began, at', epoch, exported⟩ :=
      owned.stamped (fun bypassed => spared (bypassed.mono mishaps)) change recorded
    refine ⟨Nat.le_trans began now, Nat.le_trans at' now, ?_, exported⟩
    simpa only [World.process, actor] using epoch

theorem Owned.idle (owned : Owned project states world) (idle : Idle world after) :
    Owned project states after :=
  owned.framed (by rw [World.actor, idle.projects, World.actor])
    (by rw [World.layout, idle.projects, World.layout]) idle.now idle.mishaps (by rw [idle.changed])

/-- The account does not depend on the order of the list. -/
theorem Owned.perm (owned : Owned project states world) (same : states.Perm states') :
    Owned project states' world where
  settled := owned.settled
  accounted spared := by
    obtain ⟨stray, exported, leaked⟩ := owned.accounted spared
    exact ⟨stray, exported.trans (same.append_right stray), leaked⟩
  stamped := owned.stamped.subset fun _ member => same.mem_iff.mpr member

/-- A named leak accounts for the states that it leaves behind. -/
theorem Owned.leak {left : List PetStateId} (owned : Owned project (left ++ states) world)
    (leaked : world.Leaked project) : Owned project states world where
  settled := owned.settled
  accounted := by
    intro spared
    obtain ⟨stray, exported, _⟩ := owned.accounted spared
    refine ⟨left ++ stray, exported.trans ?_, fun _ => leaked⟩
    rw [← List.append_assoc]
    exact List.perm_append_comm.append_right stray
  stamped := owned.stamped.subset fun _ => List.mem_append_right _

/-- After a boundary that did not reach a closed connection, nothing is claimed. -/
theorem Owned.missed (missed : world.Suffered (.boundaryMissed project)) :
    Owned project states world where
  settled spared := absurd (.inr missed) spared
  accounted spared := absurd (.inr missed) spared
  stamped spared := absurd (.inr missed) spared

/-- Without a process, at most a lost state is held. -/
theorem Owned.fewer (owned : Owned project states world) (absent : world.process project = none)
    (subset : ∀ state ∈ states', state ∈ states) : Owned project states' world where
  settled := owned.settled
  accounted := by
    intro spared
    obtain ⟨stray, exported, _⟩ := owned.accounted spared
    rw [World.exports_of_absent absent] at exported ⊢
    have blank := List.nil_perm.mp exported
    simp only [List.append_eq_nil_iff] at blank
    refine ⟨[], ?_, by simp⟩
    simpa [blank.1, ← List.eq_nil_iff_forall_not_mem] using subset
  stamped := owned.stamped.subset subset

theorem Gone.owned (gone : Gone project start world) : Owned project [] world where
  settled _ exporting := absurd (World.exports_of_absent gone.absent) exporting
  accounted _ := ⟨[], by simp [World.exports_of_absent gone.absent], by simp⟩
  stamped := gone.stamped

theorem Gone.holding (gone : Gone project start world) : Holding project start false [] world where
  calm := gone.calm
  alive isLive := by cases isLive
  owned := gone.owned

theorem Gone.idle (gone : Gone project start world) (idle : Idle world after) :
    Gone project start after where
  calm := trans_of (Calm project) gone.calm (idle.calm project)
  absent := by rw [idle.process]; exact gone.absent
  stamped := gone.stamped.idle idle

theorem Holding.idle (holding : Holding project start live states world)
    (idle : Idle world after) : Holding project start live states after where
  calm := trans_of (Calm project) holding.calm (idle.calm project)
  alive isLive process installed := by
    rw [idle.process]
    exact holding.alive isLive process installed
  owned := holding.owned.idle idle

theorem Holding.perm (holding : Holding project start live states world)
    (same : states.Perm states') : Holding project start live states' world :=
  { holding with owned := holding.owned.perm same }

theorem Holding.calmed (holding : Holding project start live states world) :
    Holding project start false states world :=
  { holding with alive := fun isLive => by cases isLive }

theorem Holding.fails {mild ends : Prop} (holding : Holding project start live states world)
    (isMild : mild) : Fails project start states mild ends world :=
  .inl ⟨holding.calmed, isMild⟩

/-- Nothing is held of an absent process. -/
theorem Holding.gone (holding : Holding project start live states world)
    (absent : world.process project = none) : Gone project start world where
  calm := holding.calm
  absent := absent
  stamped := holding.owned.stamped.subset (by simp)

/-- An error without a process. -/
theorem Holding.failed {error : PetError} (holding : Holding project start live states world)
    (absent : world.process project = none) : PetFails project start states error world := by
  cases invalidates : error.invalidatesProcess with
  | true => exact .inr ⟨holding.gone absent, invalidates⟩
  | false => exact holding.fails invalidates

theorem Fails.idle {mild ends : Prop} (fails : Fails project start states mild ends world)
    (idle : Idle world after) : Fails project start states mild ends after := by
  rcases fails with ⟨holding, isMild⟩ | ⟨gone, told⟩
  · exact .inl ⟨holding.idle idle, isMild⟩
  · exact .inr ⟨gone.idle idle, told⟩

/-- An operation that touches no runtime keeps what is held. -/
theorem Holding.of_idle {mild ends : ε → Prop} {action : Act World ε α} (stays : Stays Idle action)
    (throws : Throws mild action) :
    Triple (Holding project start live states) action (fun _ => Holding project start live states)
      fun error => Fails project start states (mild error) (ends error) := by
  refine (throws.triple (stays.keeps fun _ _ idle holding => Holding.idle holding idle)).weaken
    (fun _ holds => holds) (fun _ _ holds => holds) ?_
  exact fun error world holds => holds.1.fails holds.2

/-- Without a process that is ready for the layout, nothing is exported. -/
theorem Holding.emptied (holding : Holding project start live states world)
    (unready : world.Ready project → world.process project = none) :
    Holding project start live [] world :=
  { holding with
    owned :=
      { settled := holding.owned.settled
        accounted := by
          intro spared
          refine ⟨[], ?_, by simp⟩
          by_cases exporting : world.exports project = []
          · simp [exporting]
          · have ready := holding.owned.settled spared exporting
            exact absurd (World.exports_of_absent (unready ready)) exporting
        stamped := holding.owned.stamped.subset (by simp) } }

/-- Dropping the process leaves nothing to account for. -/
theorem Holding.discarded (holding : Holding project start live states world) :
    Gone project start (world.setActor project {}) where
  calm := trans_of (Calm project) holding.calm (world.setActor_calm {} (by simp))
  absent := by simp
  stamped := by
    intro spared change recorded
    obtain ⟨began, changed, _, _⟩ := holding.owned.stamped spared change recorded
    exact ⟨began, changed, by simp, by simp⟩

/-- Replace the installed process by the one that served a request. -/
theorem Holding.served (holding : Holding project start live states world)
    (states' : List PetStateId) (running : world.process project = some process) {next : PetProcess}
    (sameEpoch : next.epoch = process.epoch)
    (settled : ¬ world.Astray project → next.exported ≠ [] → world.Ready project)
    (accounted : ∀ stray, process.exported.Perm (states ++ stray) →
      next.exported.Perm (states' ++ stray))
    (stamped : ∀ state ∈ states', state ∈ states ∨ state.exportedAt = world.now) :
    Holding project start live states'
      (world.setActor project { world.actor project with process := some next }) where
  calm := by
    refine trans_of (Calm project) holding.calm (world.setActor_calm _ ?_)
    intro installed same
    obtain rfl := Option.some.inj same
    exact .inr ⟨process, running, Nat.le_of_eq sameEpoch.symm⟩
  alive isLive earlier installed := by
    obtain ⟨later, running', same⟩ := holding.alive isLive earlier installed
    obtain rfl := Option.some.inj (running.symm.trans running')
    exact ⟨next, by simp, sameEpoch.trans same⟩
  owned :=
    { settled := by
        intro spared exporting
        have ready := settled spared
          (by simpa only [World.exports, World.process_setActor] using exporting)
        simpa [World.Ready] using ready
      accounted := by
        intro spared
        obtain ⟨stray, exported, leaked⟩ := holding.owned.accounted spared
        rw [World.exports_of_process running] at exported
        exact ⟨stray, by simpa [World.exports] using accounted stray exported, leaked⟩
      stamped := by
        intro spared change recorded
        obtain ⟨began, changed, epoch, exported⟩ := holding.owned.stamped spared change recorded
        refine ⟨began, changed, ?_, ?_⟩
        · intro installed same
          rw [World.process_setActor] at same
          obtain rfl := Option.some.inj same
          exact sameEpoch ▸ epoch process running
        · intro state member
          rcases stamped state member with old | now
          · exact exported state old
          · exact now ▸ changed }

end

end RocqMcp
