import RocqMcp.Frame
import RocqMcp.Library.Registry
import RocqMcp.Server

/-! The runtimes of the projects: the server finds them by weak references, and
sessions and requests keep them alive. The world of the tools has one runtime
for each project instead, which `start` replaces where nobody uses it. -/

namespace RocqMcp

open Library

/-- What can keep a runtime alive. -/
inductive RuntimeHolder where
  | selection (session : SessionId)
  /-- The clone of a request, of a `start` for its new project, or of a drop. -/
  | request (session : SessionId)
  /-- The clone that a `start` has of the project it leaves. -/
  | previous (session : SessionId)
  deriving DecidableEq

/-- `ServerRuntime`: the heap of runtimes, `projects`, and the strong references. -/
abbrev ServerRuntimes := Registry RuntimeHolder ProjectId ProjectRuntime

/-- One runtime for each project. -/
abbrev Runtimes := LazyTable RuntimeHolder ProjectId ProjectRuntime

inductive RuntimeEvent where
  /-- `ServerRuntime::project`, in a `start`. -/
  | project (session : SessionId) (attached : DuneProject)
  | clone (holder source : RuntimeHolder)
  /-- `selection.project = Some(Arc::clone(project))`. -/
  | select (session : SessionId)
  | work (holder : RuntimeHolder) (change : ProjectRuntime → ProjectRuntime)
  | drop (holder : RuntimeHolder)

/-- What an event does under the mutex of the registry. -/
def RuntimeEvent.sharing : RuntimeEvent → List (Sharing RuntimeHolder ProjectId ProjectRuntime)
  | .project session attached =>
    [.sweep, .acquire (.request session) attached.root (.fresh attached)]
  | .clone holder source => [.copy holder source]
  | .select session =>
    [.release (.selection session), .copy (.selection session) (.request session)]
  | .work holder change => [.update holder change]
  | .drop holder => [.release holder]

def ServerRuntimes.step (runtimes : ServerRuntimes) (event : RuntimeEvent) : Option ServerRuntimes :=
  event.sharing.foldlM (fun runtimes sharing => Registry.step runtimes sharing) runtimes

def Runtimes.step (runtimes : Runtimes) (event : RuntimeEvent) : Option Runtimes :=
  event.sharing.foldlM (fun runtimes sharing => LazyTable.step runtimes sharing) runtimes

def Runtimes.initial : Runtimes where
  contents root := .fresh (.unattached root)
  holds := []

theorem ServerRuntimes.initial_mirrors :
    (Registry.empty : ServerRuntimes).Mirrors Runtimes.initial where
  sound := .empty
  same := rfl

theorem ServerRuntimes.simulates :
    Simulates ServerRuntimes.step Runtimes.step Registry.Mirrors :=
  fun _ _ event _ mirrors moved => Registry.simulates.foldlM event.sharing mirrors moved

/-- Any interleaving of the sessions uses the weak references as if each project
had one runtime: two references are `Arc::ptr_eq` exactly if their projects are
the same, and a reference leads to the runtime of its project. -/
theorem ServerRuntimes.mirrored {events : List RuntimeEvent} {runtimes : ServerRuntimes}
    (ran : events.foldlM ServerRuntimes.step .empty = some runtimes) :
    ∃ table, events.foldlM Runtimes.step .initial = some table ∧
      (∀ left ∈ runtimes.held, ∀ right ∈ runtimes.held,
        left.handle = right.handle ↔ left.key = right.key) ∧
      (∀ reference ∈ runtimes.held,
        runtimes.objects[reference.handle]? = some (table.contents reference.key)) ∧
      table.holds = runtimes.held.map fun reference => (reference.holder, reference.key) := by
  obtain ⟨table, followed, mirrors⟩ :=
    simulates.foldlM events initial_mirrors ran
  refine ⟨table, followed, ?_, ?_, ?_⟩
  · intro left member right member'
    exact mirrors.sound.handle_iff member member'
  · intro reference member
    exact mirrors.content member
  · exact (congrArg SharedTable.holds mirrors.same).symm

/-- Two sessions share a project, the second request still runs, and the first
session leaves and returns. -/
def sharedProject : List RuntimeEvent :=
  let attached := DuneProject.unattached ["p"]
  [.project 0 attached, .select 0, .drop (.request 0), .project 1 attached, .select 1,
    .work (.request 1) fun runtime => { runtime with artifacts := fun _ => none },
    .drop (.selection 0), .project 0 attached, .clone (.previous 1) (.selection 1)]

theorem ServerRuntimes.mirrored_shared :
    ∃ runtimes table, sharedProject.foldlM ServerRuntimes.step .empty = some runtimes ∧
      sharedProject.foldlM Runtimes.step .initial = some table ∧ runtimes.held.length = 4 ∧
      ∀ left ∈ runtimes.held, ∀ right ∈ runtimes.held,
        left.handle = right.handle ↔ left.key = right.key := by
  have ran : (sharedProject.foldlM ServerRuntimes.step .empty).isSome = true := by decide
  obtain ⟨table, followed, handles, -⟩ := ServerRuntimes.mirrored (Option.some_get ran).symm
  exact ⟨_, table, (Option.some_get ran).symm, followed, rfl, handles⟩

/-- The world has the runtimes of the table, and its attachments are the
references of the selections. -/
structure World.Shows (world : World) (table : Runtimes) : Prop where
  projects : world.projects = table.contents
  attached : ∀ session root, (world.selections session).project = some root ↔
    (.selection session, root) ∈ table.holds
  used : ∀ session root, (.selection session, root) ∈ table.holds → session < world.connections

/-- Some request has a clone of the runtime. -/
def Runtimes.Busy (table : Runtimes) (root : ProjectId) : Prop :=
  ∃ session, (.request session, root) ∈ table.holds ∨ (.previous session, root) ∈ table.holds

theorem Runtimes.isHeld_iff {table : Runtimes} {root : ProjectId} :
    table.isHeld root = true ↔
      (∃ session, (.selection session, root) ∈ table.holds) ∨ table.Busy root := by
  simp only [LazyTable.isHeld, List.any_eq_true, decide_eq_true_eq]
  constructor
  · rintro ⟨⟨holder, key⟩, member, rfl⟩
    cases holder with
    | selection session => exact .inl ⟨session, member⟩
    | request session => exact .inr ⟨session, .inl member⟩
    | previous session => exact .inr ⟨session, .inr member⟩
  · rintro (⟨session, member⟩ | ⟨session, member | member⟩)
    · exact ⟨_, member, rfl⟩
    · exact ⟨_, member, rfl⟩
    · exact ⟨_, member, rfl⟩

/-- `start` replaces a runtime exactly where nobody holds it. -/
theorem World.Shows.unused {world : World} {table : Runtimes} {root : ProjectId} {pinned : Bool}
    (shows : world.Shows table) (busy : pinned = true ↔ table.Busy root) :
    (((List.range world.connections).all fun session => !world.attachedTo root session) &&
      !pinned) = !table.isHeld root := by
  rw [Bool.eq_iff_iff]
  simp only [Bool.and_eq_true, List.all_eq_true, Bool.not_eq_true', List.mem_range,
    World.attachedTo, decide_eq_false_iff_not, shows.attached]
  constructor
  · rintro ⟨unattached, unpinned⟩
    rw [Bool.eq_false_iff]
    intro held
    rcases Runtimes.isHeld_iff.mp held with ⟨session, member⟩ | requested
    · exact unattached session (shows.used session root member) member
    · rw [busy.mpr requested] at unpinned
      cases unpinned
  · intro free
    have unheld := fun held => Bool.eq_false_iff.mp free (Runtimes.isHeld_iff.mpr held)
    constructor
    · intro session _ member
      exact unheld (.inl ⟨session, member⟩)
    · rw [Bool.eq_false_iff]
      intro requested
      exact unheld (.inr (busy.mp requested))

/-- The `start` of the tools opens a runtime as the table does. -/
theorem World.Shows.openRuntime {world : World} {table : Runtimes} {session : SessionId}
    {attached : DuneProject} (shows : world.Shows table)
    (busy : (world.environment.tick world.now).pinned = true ↔ table.Busy attached.root) :
    ((Adapter.openRuntime attached world).2).Shows
      (table.acquire (.request session) attached.root (.fresh attached)) := by
  obtain ⟨ticked, idle, ran⟩ : ∃ ticked, Idle world ticked ∧ Adapter.openRuntime attached world =
      Act.when (((List.range ticked.connections).all fun session =>
          !ticked.attachedTo attached.root session) &&
            !(world.environment.tick world.now).pinned)
        (.modify fun world => world.setRuntime attached.root (.fresh attached)) ticked :=
    ⟨_, tick_idle (ε := Error) world, rfl⟩
  have shows' : ticked.Shows table := by
    constructor
    · rw [idle.projects, shows.projects]
    · rw [idle.selections]
      exact shows.attached
    · rw [idle.connections]
      exact shows.used
  rw [ran, shows'.unused busy]
  cases held : table.isHeld attached.root with
  | true =>
    change ticked.Shows _
    constructor
    · simpa [LazyTable.acquire, held] using shows'.projects
    · simpa [LazyTable.acquire] using shows'.attached
    · simpa [LazyTable.acquire] using shows'.used
  | false =>
    change (ticked.setRuntime attached.root (.fresh attached)).Shows _
    constructor
    · simp [LazyTable.acquire, held, World.setRuntime, shows'.projects]
    · simpa [LazyTable.acquire, World.setRuntime] using shows'.attached
    · simpa [LazyTable.acquire, World.setRuntime] using shows'.used

end RocqMcp
