import RocqMcp.Library.Registry
import RocqMcp.Types

/-! The gate of a Dune workspace: the commands of all threads that use its real
build directory run one at a time. The mutex of a workspace lives in a registry
of weak references, which a mutex of its own protects. -/

namespace RocqMcp

open Library

abbrev ThreadId := Nat

/-- How far a thread is in `run_dune`. -/
inductive DunePhase where
  | idle
  /-- It has computed the key and waits for the registry. -/
  | naming (workspace : Path)
  /-- It has the registry, and has removed the dead references. -/
  | registering (workspace : Path)
  /-- It has the gate, and waits for its mutex. -/
  | waiting (workspace : Path)
  /-- The command runs in the real build directory. -/
  | running (workspace : Path)
  /-- The mutex is released, the gate not yet. -/
  | leaving (workspace : Path)
  /-- The command runs in a build directory of its own. -/
  | isolated
  deriving DecidableEq

/-- The workspace whose gate the thread has. -/
def DunePhase.gate? : DunePhase → Option Path
  | .waiting workspace | .running workspace | .leaving workspace => some workspace
  | _ => none

/-- The threads, the registry, and the owner of every mutex. -/
structure DuneGates where
  phase : ThreadId → DunePhase := fun _ => .idle
  gates : Registry ThreadId Path (Option ThreadId) := .empty
  registrar : Option ThreadId := none

inductive GateEvent where
  /-- `canonical` is `fs::canonicalize` of the directory, where it succeeds. -/
  | call (thread : ThreadId) (cwd : Path) (canonical : Option Path) (isolated : Bool)
  | openRegistry (thread : ThreadId)
  | takeGate (thread : ThreadId)
  | lock (thread : ThreadId)
  | finish (thread : ThreadId)
  | dropGate (thread : ThreadId)

namespace DuneGates

/-- The owner of the mutex that the thread has a reference to. -/
def owner? (state : DuneGates) (thread : ThreadId) : Option (Option ThreadId) :=
  (state.gates.reference thread).bind fun reference => state.gates.objects[reference.handle]?

def moveTo (state : DuneGates) (thread : ThreadId) (phase : DunePhase) : DuneGates :=
  { state with phase := Function.update state.phase thread phase }

/-- One event at the registry, and the new phase of the thread. -/
def share (state : DuneGates) (thread : ThreadId) (phase : DunePhase)
    (event : Sharing ThreadId Path (Option ThreadId)) : Option DuneGates :=
  (state.gates.step event).map fun gates => { state.moveTo thread phase with gates }

def step (state : DuneGates) : GateEvent → Option DuneGates
  | .call thread cwd canonical isolated =>
    match state.phase thread with
    | .idle =>
      some (state.moveTo thread (if isolated then .isolated else .naming (canonical.getD cwd)))
    | _ => none
  | .openRegistry thread =>
    match state.phase thread with
    | .naming workspace =>
      if state.registrar.isSome then none
      else (state.share thread (.registering workspace) .sweep).map fun opened =>
        { opened with registrar := some thread }
    | _ => none
  | .takeGate thread =>
    match state.phase thread with
    | .registering workspace =>
      (state.share thread (.waiting workspace) (.acquire thread workspace none)).map fun taken =>
        { taken with registrar := none }
    | _ => none
  | .lock thread =>
    match state.phase thread with
    | .waiting workspace =>
      if state.owner? thread = some none then
        state.share thread (.running workspace) (.update thread fun _ => some thread)
      else none
    | _ => none
  | .finish thread =>
    match state.phase thread with
    | .running workspace => state.share thread (.leaving workspace) (.update thread fun _ => none)
    | .isolated => some (state.moveTo thread .idle)
    | _ => none
  | .dropGate thread =>
    match state.phase thread with
    | .leaving _ => state.share thread .idle (.release thread)
    | _ => none

end DuneGates

/-- The states of the gates after any interleaving of the threads. -/
def DuneGates.Reached (state : DuneGates) : Prop :=
  Reachable DuneGates.step (fun _ _ => True) {} state

namespace DuneGates

/-- A thread holds the gate of its phase, and the owner of a mutex is the thread
that runs in the workspace. -/
structure Orderly (state : DuneGates) : Prop where
  sound : state.gates.Sound
  holds : ∀ thread, state.gates.table.keyOf thread = (state.phase thread).gate?
  owned : ∀ workspace thread, state.gates.table.entries workspace = some (some thread) ↔
    state.phase thread = .running workspace
  registers : ∀ thread ∈ state.registrar, ∃ workspace, state.phase thread = .registering workspace

section

variable {state after : DuneGates} {thread : ThreadId} {phase : DunePhase} {workspace : Path}

@[simp]
theorem moveTo_phase (other : ThreadId) :
    (state.moveTo thread phase).phase other = if other = thread then phase else state.phase other :=
  Function.update_apply ..

theorem share_some {event : Sharing ThreadId Path (Option ThreadId)} (sound : state.gates.Sound)
    (moved : state.share thread phase event = some after) :
    after.gates.Sound ∧ state.gates.table.step event = some after.gates.table ∧
      after.phase = (state.moveTo thread phase).phase := by
  obtain ⟨gates, stepped, rfl⟩ := Option.map_eq_some_iff.mp moved
  refine ⟨sound.step stepped, ?_, rfl⟩
  rw [← sound.step_table, stepped]
  rfl

/-- The owner that a thread reads is the one of its workspace. -/
theorem Orderly.owner_eq (orderly : state.Orderly) (gate : (state.phase thread).gate? = some workspace) :
    state.owner? thread = state.gates.table.entries workspace := by
  have holds := orderly.holds thread
  rw [gate, Registry.keyOf_table] at holds
  obtain ⟨reference, found, rfl⟩ := Option.map_eq_some_iff.mp holds
  simp only [owner?, found, Option.bind_some]
  exact (orderly.sound.entry (Registry.reference_mem found).1).symm

/-- What an event has to keep: the moving thread has the gate of its new phase,
and the others keep theirs. -/
theorem Orderly.next (sound : after.gates.Sound) (orderly : state.Orderly)
    (phases : after.phase = (state.moveTo thread phase).phase)
    (holds : ∀ other, after.gates.table.keyOf other =
      if other = thread then phase.gate? else state.gates.table.keyOf other)
    (moving : ∀ workspace, after.gates.table.entries workspace = some (some thread) ↔
      phase = .running workspace)
    (others : ∀ workspace other, other ≠ thread →
      (after.gates.table.entries workspace = some (some other) ↔
        state.gates.table.entries workspace = some (some other)))
    (registers : ∀ other ∈ after.registrar, ∃ workspace, after.phase other = .registering workspace) :
    after.Orderly where
  sound := sound
  holds other := by
    rw [holds, phases, moveTo_phase]
    by_cases same : other = thread
    · rw [if_pos same, if_pos same]
    · rw [if_neg same, if_neg same]
      exact orderly.holds other
  owned workspace other := by
    rw [phases, moveTo_phase]
    by_cases same : other = thread
    · subst same
      rw [if_pos rfl]
      exact moving workspace
    · rw [if_neg same]
      exact (others workspace other same).trans (orderly.owned workspace other)
  registers := registers

/-- A thread whose phase is not the one that has the registry. -/
theorem Orderly.registered (orderly : state.Orderly)
    (elsewhere : ∀ workspace, state.phase thread ≠ .registering workspace) :
    ∀ other ∈ state.registrar, ∃ workspace,
      (state.moveTo thread phase).phase other = .registering workspace := by
  intro other registering
  obtain ⟨workspace, found⟩ := orderly.registers other registering
  have different : other ≠ thread := by
    intro same
    exact elsewhere workspace (same ▸ found)
  exact ⟨workspace, by rw [moveTo_phase, if_neg different, found]⟩

theorem Orderly.unheld (orderly : state.Orderly) (blank : (state.phase thread).gate? = none)
    (workspace : Path) : state.gates.table.entries workspace ≠ some (some thread) := by
  intro entry
  rw [(orderly.owned workspace thread).mp entry] at blank
  cases blank

/-- A thread without a gate moves on to a phase without one. -/
theorem Orderly.wander (orderly : state.Orderly) (sound : after.gates.Sound)
    (same : after.gates.table = state.gates.table)
    (phases : after.phase = (state.moveTo thread phase).phase)
    (before : (state.phase thread).gate? = none) (blank : phase.gate? = none)
    (registers : ∀ other ∈ after.registrar, ∃ workspace, after.phase other = .registering workspace) :
    after.Orderly := by
  apply Orderly.next sound orderly phases
  · intro other
    rw [same]
    by_cases moving : other = thread
    · rw [if_pos moving, moving, blank, orderly.holds, before]
    · rw [if_neg moving]
  · intro workspace
    rw [same]
    constructor
    · intro entry
      exact absurd entry (orderly.unheld before workspace)
    · intro running
      rw [running] at blank
      cases blank
  · intro workspace other _
    rw [same]
  · exact registers

theorem Orderly.takeGate (orderly : state.Orderly)
    (before : state.phase thread = .registering workspace) (sound : after.gates.Sound)
    (taken : after.gates.table = state.gates.table.acquire thread workspace none)
    (phases : after.phase = (state.moveTo thread (.waiting workspace)).phase)
    (closed : after.registrar = none) : after.Orderly := by
  have entries : ∀ key other, after.gates.table.entries key = some (some other) ↔
      state.gates.table.entries key = some (some other) := by
    intro key other
    rw [taken, SharedTable.acquire_entries]
    by_cases same : key = workspace
    · subst same
      cases state.gates.table.entries key <;> simp
    · rw [if_neg same]
  apply Orderly.next sound orderly phases
  · intro other
    rw [taken]
    exact SharedTable.acquire_keyOf other
  · intro key
    rw [entries]
    constructor
    · intro entry
      exact absurd entry (orderly.unheld (by rw [before]; rfl) key)
    · nofun
  · intro key other _
    exact entries key other
  · rw [closed]
    nofun

/-- The thread takes or releases the mutex of the gate that it has. -/
theorem Orderly.write (orderly : state.Orderly) {owner : Option ThreadId}
    (gate : (state.phase thread).gate? = some workspace) (kept : phase.gate? = some workspace)
    (free : ∀ other, other ≠ thread → state.phase other ≠ .running workspace)
    (runs : owner = some thread ↔ phase = .running workspace)
    (mine : ∀ other, other ≠ thread → owner ≠ some other) (sound : after.gates.Sound)
    (written : after.gates.table = state.gates.table.write workspace fun _ => owner)
    (phases : after.phase = (state.moveTo thread phase).phase)
    (registrar : after.registrar = state.registrar) : after.Orderly := by
  have present : (state.gates.table.entries workspace).isSome = true := by
    have holds := orderly.holds thread
    rw [gate, Registry.keyOf_table] at holds
    obtain ⟨reference, found, rfl⟩ := Option.map_eq_some_iff.mp holds
    have member := (Registry.reference_mem found).1
    rw [orderly.sound.entry member]
    have bounded := orderly.sound.bounded _ _ (orderly.sound.kept reference member)
    rw [List.getElem?_eq_getElem bounded]
    rfl
  obtain ⟨before, located⟩ := Option.isSome_iff_exists.mp present
  have entries : ∀ key, after.gates.table.entries key =
      if key = workspace then some owner else state.gates.table.entries key := by
    intro key
    rw [written, SharedTable.write_entries, located]
    rfl
  apply Orderly.next sound orderly phases
  · intro other
    have same : after.gates.table.keyOf other = state.gates.table.keyOf other := by
      rw [written]
      rfl
    rw [same]
    by_cases moving : other = thread
    · rw [if_pos moving, moving, kept, orderly.holds, gate]
    · rw [if_neg moving]
  · intro key
    rw [entries]
    by_cases same : key = workspace
    · rw [if_pos same, same, Option.some.injEq]
      exact runs
    · rw [if_neg same]
      constructor
      · intro entry
        rw [(orderly.owned key thread).mp entry] at gate
        exact absurd (Option.some.inj gate) same
      · intro running
        rw [running] at kept
        exact absurd (Option.some.inj kept) same
  · intro key other different
    rw [entries]
    by_cases same : key = workspace
    · rw [if_pos same, same, Option.some.injEq, orderly.owned]
      constructor
      · intro equal
        exact absurd equal (mine other different)
      · intro running
        exact absurd running (free other different)
    · rw [if_neg same]
  · rw [phases, registrar]
    apply orderly.registered
    intro other registering
    rw [registering] at gate
    cases gate

theorem Orderly.dropGate (orderly : state.Orderly) (before : state.phase thread = .leaving workspace)
    (sound : after.gates.Sound) (dropped : after.gates.table = state.gates.table.drop thread)
    (phases : after.phase = (state.moveTo thread .idle).phase)
    (registrar : after.registrar = state.registrar) : after.Orderly := by
  apply Orderly.next sound orderly phases
  · intro other
    rw [dropped]
    exact SharedTable.drop_keyOf other
  · intro key
    rw [dropped]
    constructor
    · intro entry
      have running := (orderly.owned key thread).mp (SharedTable.drop_entries_some entry)
      rw [before] at running
      cases running
    · nofun
  · intro key other different
    rw [dropped]
    constructor
    · exact SharedTable.drop_entries_some
    · intro entry
      have holds := orderly.holds other
      rw [(orderly.owned key other).mp entry] at holds
      rw [SharedTable.drop_entries different holds]
      exact entry
  · rw [phases, registrar]
    apply orderly.registered
    intro other registering
    rw [before] at registering
    cases registering

end

theorem Orderly.initial : ({} : DuneGates).Orderly where
  sound := .empty
  holds _ := rfl
  owned _ _ := by
    constructor
    · nofun
    · nofun
  registers _ := nofun

theorem Orderly.step {state after : DuneGates} (orderly : state.Orderly) {event : GateEvent}
    (stepped : state.step event = some after) : after.Orderly := by
  cases event with
  | call thread cwd canonical isolated =>
    simp only [DuneGates.step] at stepped
    split at stepped
    · rename_i idle
      obtain rfl := Option.some.inj stepped
      refine orderly.wander orderly.sound rfl rfl (by rw [idle]; rfl) (by cases isolated <;> rfl) ?_
      apply orderly.registered
      intro workspace registering
      rw [idle] at registering
      cases registering
    · cases stepped
  | openRegistry thread =>
    simp only [DuneGates.step] at stepped
    split at stepped
    · rename_i workspace naming
      split at stepped
      · cases stepped
      · obtain ⟨opened, shared, rfl⟩ := Option.map_eq_some_iff.mp stepped
        obtain ⟨sound, swept, phases⟩ := share_some orderly.sound shared
        refine orderly.wander sound (Option.some.inj swept).symm phases (by rw [naming]; rfl) rfl ?_
        intro other registering
        obtain rfl := Option.some.inj registering
        exact ⟨workspace, by rw [phases, moveTo_phase, if_pos rfl]⟩
    · cases stepped
  | takeGate thread =>
    simp only [DuneGates.step] at stepped
    split at stepped
    · rename_i workspace registering
      obtain ⟨taken, shared, rfl⟩ := Option.map_eq_some_iff.mp stepped
      obtain ⟨sound, acquired, phases⟩ := share_some orderly.sound shared
      simp only [SharedTable.step] at acquired
      split at acquired
      · cases acquired
      · exact orderly.takeGate registering sound (Option.some.inj acquired).symm phases rfl
    · cases stepped
  | lock thread =>
    simp only [DuneGates.step] at stepped
    split at stepped
    · rename_i workspace waiting
      split at stepped
      · rename_i free
        have gate : (state.phase thread).gate? = some workspace := by rw [waiting]; rfl
        have holds := orderly.holds thread
        rw [orderly.owner_eq gate] at free
        obtain ⟨sound, written, phases⟩ := share_some orderly.sound stepped
        simp only [SharedTable.step, holds, gate, Option.map_some] at written
        refine orderly.write gate rfl ?_ (by simp) ?_ sound (Option.some.inj written).symm phases ?_
        · intro other _ running
          rw [(orderly.owned workspace other).mpr running] at free
          cases free
        · intro other different same
          exact different (Option.some.inj same).symm
        · obtain ⟨gates, -, rfl⟩ := Option.map_eq_some_iff.mp stepped
          rfl
      · cases stepped
    · cases stepped
  | finish thread =>
    simp only [DuneGates.step] at stepped
    split at stepped
    · rename_i workspace running
      have gate : (state.phase thread).gate? = some workspace := by rw [running]; rfl
      have holds := orderly.holds thread
      have mine := (orderly.owned workspace thread).mpr running
      obtain ⟨sound, written, phases⟩ := share_some orderly.sound stepped
      simp only [SharedTable.step, holds, gate, Option.map_some] at written
      refine orderly.write gate rfl ?_ (by simp) (by simp) sound (Option.some.inj written).symm
        phases ?_
      · intro other different running'
        have entry := (orderly.owned workspace other).mpr running'
        rw [mine] at entry
        exact different (Option.some.inj (Option.some.inj entry)).symm
      · obtain ⟨gates, -, rfl⟩ := Option.map_eq_some_iff.mp stepped
        rfl
    · rename_i isolated
      obtain rfl := Option.some.inj stepped
      refine orderly.wander orderly.sound rfl rfl (by rw [isolated]; rfl) rfl ?_
      apply orderly.registered
      intro workspace registering
      rw [isolated] at registering
      cases registering
    · cases stepped
  | dropGate thread =>
    simp only [DuneGates.step] at stepped
    split at stepped
    · rename_i workspace leaving
      obtain ⟨sound, dropped, phases⟩ := share_some orderly.sound stepped
      refine orderly.dropGate leaving sound (Option.some.inj dropped).symm phases ?_
      obtain ⟨gates, -, rfl⟩ := Option.map_eq_some_iff.mp stepped
      rfl
    · cases stepped

theorem Reached.orderly {state : DuneGates} (reached : state.Reached) : state.Orderly :=
  reached.invariant Orderly .initial fun _ _ _ orderly _ moved => orderly.step moved

/-- What a thread does next in its call. -/
def nextEvent (thread : ThreadId) : DunePhase → Option GateEvent
  | .idle => none
  | .naming _ => some (.openRegistry thread)
  | .registering _ => some (.takeGate thread)
  | .waiting _ => some (.lock thread)
  | .running _ | .isolated => some (.finish thread)
  | .leaving _ => some (.dropGate thread)

/-- The thread can go on with its call. -/
def CanMove (state : DuneGates) (thread : ThreadId) : Prop :=
  ∃ event ∈ nextEvent thread (state.phase thread), (state.step event).isSome = true

/-- The thread waits for a command of its workspace, or for the registry. -/
def Awaits (state : DuneGates) (thread other : ThreadId) : Prop :=
  (∃ workspace, state.phase thread = .waiting workspace ∧ state.phase other = .running workspace) ∨
    ∃ workspace, state.phase thread = .naming workspace ∧ state.registrar = some other

section

variable {state : DuneGates} {thread : ThreadId} {workspace : Path}

/-- Two commands never use the real build directory of a workspace together. -/
theorem Orderly.exclusive (orderly : state.Orderly) {other : ThreadId}
    (running : state.phase thread = .running workspace)
    (running' : state.phase other = .running workspace) : thread = other := by
  have entry := (orderly.owned workspace thread).mpr running
  rw [(orderly.owned workspace other).mpr running'] at entry
  exact (Option.some.inj (Option.some.inj entry)).symm

theorem Orderly.update_isSome (orderly : state.Orderly)
    (gate : (state.phase thread).gate? = some workspace) (phase : DunePhase)
    (change : Option ThreadId → Option ThreadId) :
    (state.share thread phase (.update thread change)).isSome = true := by
  have holds := orderly.holds thread
  rw [gate, Registry.keyOf_table] at holds
  obtain ⟨reference, found, -⟩ := Option.map_eq_some_iff.mp holds
  simp [share, Registry.step, found]

theorem Orderly.canTake (orderly : state.Orderly)
    (registering : state.phase thread = .registering workspace) : state.CanMove thread := by
  have holds := orderly.holds thread
  rw [registering, Registry.keyOf_table] at holds
  have unheld : state.gates.reference thread = none := by
    simpa [DunePhase.gate?] using holds
  exact ⟨.takeGate thread, by rw [registering]; rfl, by
    simp [DuneGates.step, registering, share, Registry.step, unheld]⟩

theorem Orderly.canFinish (orderly : state.Orderly) (running : state.phase thread = .running workspace) :
    state.CanMove thread := by
  have gate : (state.phase thread).gate? = some workspace := by rw [running]; rfl
  refine ⟨.finish thread, by rw [running]; rfl, ?_⟩
  simp only [DuneGates.step, running]
  exact orderly.update_isSome gate _ _

/-- A waiting thread is admitted, unless a command of its workspace runs. -/
theorem Orderly.canLock (orderly : state.Orderly) (waiting : state.phase thread = .waiting workspace)
    (free : ∀ other, state.phase other ≠ .running workspace) : state.CanMove thread := by
  have gate : (state.phase thread).gate? = some workspace := by rw [waiting]; rfl
  have holds := orderly.holds thread
  rw [gate, Registry.keyOf_table] at holds
  obtain ⟨reference, found, rfl⟩ := Option.map_eq_some_iff.mp holds
  have member := (Registry.reference_mem found).1
  have bounded := orderly.sound.bounded _ _ (orderly.sound.kept reference member)
  have read := orderly.owner_eq gate
  have present := orderly.sound.entry member
  rw [List.getElem?_eq_getElem bounded] at present
  have unowned : state.gates.table.entries reference.key = some none := by
    cases owner : state.gates.objects[reference.handle] with
    | none => rw [present, owner]
    | some other =>
      rw [owner] at present
      exact absurd ((orderly.owned _ other).mp present) (free other)
  refine ⟨.lock thread, by rw [waiting]; rfl, ?_⟩
  simp only [DuneGates.step, waiting, read, unowned, if_true]
  exact orderly.update_isSome gate _ _

/-- Commands in the same workspace run one at a time, and no thread waits for
ever: it can go on, or it waits for one that can. -/
theorem Reached.serialized (reached : state.Reached) :
    (∀ first second workspace, state.phase first = .running workspace →
      state.phase second = .running workspace → first = second) ∧
    ∀ thread, state.phase thread ≠ .idle →
      state.CanMove thread ∨ ∃ other, state.Awaits thread other ∧ state.CanMove other := by
  have orderly := reached.orderly
  constructor
  · intro first second workspace running running'
    exact orderly.exclusive running running'
  · intro thread busy
    cases phase : state.phase thread with
    | idle => exact absurd phase busy
    | naming workspace =>
      cases registrar : state.registrar with
      | none =>
        left
        exact ⟨.openRegistry thread, by rw [phase]; rfl, by
          simp [DuneGates.step, phase, registrar, share, Registry.step]⟩
      | some other =>
        right
        obtain ⟨key, registering⟩ := orderly.registers other registrar
        exact ⟨other, .inr ⟨workspace, phase, registrar⟩, orderly.canTake registering⟩
    | registering workspace => exact .inl (orderly.canTake phase)
    | waiting workspace =>
      by_cases occupied : ∃ other, state.phase other = .running workspace
      · right
        obtain ⟨other, running⟩ := occupied
        exact ⟨other, .inl ⟨workspace, phase, running⟩, orderly.canFinish running⟩
      · left
        apply orderly.canLock phase
        intro other running
        exact occupied ⟨other, running⟩
    | running workspace => exact .inl (orderly.canFinish phase)
    | leaving workspace =>
      left
      exact ⟨.dropGate thread, by rw [phase]; rfl, by
        simp [DuneGates.step, phase, share, Registry.step]⟩
    | isolated =>
      left
      exact ⟨.finish thread, by rw [phase]; rfl, by simp [DuneGates.step, phase]⟩

end

/-- The directory of the second command is a symbolic link to that of the first. -/
def contention : List GateEvent :=
  [.call 0 ["p"] none false, .openRegistry 0, .call 1 ["link"] (some ["p"]) false, .takeGate 0,
    .lock 0, .openRegistry 1, .takeGate 1]

def contended : { state : DuneGates // state.Reached ∧
    decide (state.phase 0 = .running ["p"] ∧ state.phase 1 = .waiting ["p"]) = true } :=
  Reachable.run contention _ (by decide)

theorem Reached.serialized_contended :
    contended.val.phase 0 = .running ["p"] ∧
    (∀ other, contended.val.phase other = .running ["p"] → other = 0) ∧
      (contended.val.CanMove 1 ∨ ∃ other, contended.val.Awaits 1 other ∧
        contended.val.CanMove other) := by
  obtain ⟨reached, phases⟩ := contended.property
  obtain ⟨running, waiting⟩ := of_decide_eq_true phases
  obtain ⟨exclusive, progress⟩ := Reached.serialized reached
  refine ⟨running, fun other running' => exclusive other 0 _ running' running, progress 1 ?_⟩
  rw [waiting]
  nofun

end DuneGates

end RocqMcp
