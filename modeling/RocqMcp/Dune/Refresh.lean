import RocqMcp.Frame
import RocqMcp.Adapter.Tools
import RocqMcp.Library.Runs

/-! The cached Dune view against inputs that change at any moment: `attach` and
`refreshProject` read the layout and its probe one after the other. -/

namespace RocqMcp

open Library

/-- Dune's view and the probe are functions of the layout inputs, which are
read at the moment of an interaction; the probe tells the inputs apart. -/
structure Observed (environment : Environment) (project : ProjectId) (inputs : Nat → Inputs)
    (view : Inputs → Layout) (probe : Inputs → Digest) : Prop where
  injective : Function.Injective probe
  probed : ∀ moment, ∀ digest ∈ (environment.tick moment).probe, digest = probe (inputs moment)
  loaded : ∀ moment layout, (environment.tick moment).layout = .loaded project layout →
    layout = view (inputs moment)

inductive ViewEvent where
  | attach
  | refresh
  /-- Other operations run meanwhile. -/
  | wait (elapsed : Nat) (signal : Signal)

namespace World

/-- Attach a project, and open its runtime. -/
def openView (world : World) : Except Error DuneProject × World :=
  (do
    let attached ← Engine.attach
    Adapter.openRuntime attached
    return attached : EngineM DuneProject) world

def viewStep (project : ProjectId) (world : World) : ViewEvent → Option World
  | .attach => some world.openView.2
  | .refresh => some (Engine.refreshProject project world).2
  | .wait elapsed signal => some { world with now := world.now + elapsed, signal }

/-- A connection, or a request of one, keeps the runtime of the project. -/
def Keeps (world : World) (project : ProjectId) : Prop :=
  (∃ session < world.connections, world.attachedTo project session = true) ∨
    (world.environment.tick (world.now + 3)).pinned = true

/-- The project is attached, and its runtime is a new one. -/
structure Opens (before : World) (project : ProjectId) : Prop where
  attached : ∃ opened, before.openView.1 = .ok opened ∧ opened.root = project
  unkept : ¬ before.Keeps project

/-- A successful refresh leaves the view of inputs that it has met itself. -/
def RefreshesTo (world : World) (project : ProjectId) (inputs : Nat → Inputs)
    (view : Inputs → Layout) : Prop :=
  ∀ changed, (Engine.refreshProject project world).1 = .ok changed →
    ∃ moment, world.now ≤ moment ∧ moment < (Engine.refreshProject project world).2.now ∧
      (Engine.refreshProject project world).2.layout project = view (inputs moment)

/-- Dune's view is the same at both reads of a step that stores a view. -/
def Steady (project : ProjectId) (inputs : Nat → Inputs) (view : Inputs → Layout)
    (probe : Inputs → Digest) (world : World) : ViewEvent → Prop
  | .attach => world.Keeps project ∨ view (inputs (world.now + 1)) = view (inputs (world.now + 2))
  | .refresh => (world.projects project).project.probe = probe (inputs world.now) ∨
      view (inputs world.now) = view (inputs (world.now + 1))
  | .wait _ _ => True

/-- The cached view is the one of the inputs that the stored probe stands for. -/
def Current (world : World) (project : ProjectId) (view : Inputs → Layout)
    (probe : Inputs → Digest) : Prop :=
  ∃ inputs, (world.projects project).project.probe = probe inputs ∧
    (world.projects project).project.layout = view inputs

/-- A number of interactions later, with all runtimes as they were. -/
structure Elapsed (before : World) (ticks : Nat) (world : World) : Prop extends
    Idle before world where
  time : world.now = before.now + ticks

end World

namespace World

theorem edit_now (world : World) (edit : Edit) : (world.edit edit).now = world.now := by
  unfold World.edit
  dsimp only
  split <;> rfl

theorem edits_now (world : World) (edits : List Edit) : (world.edits edits).now = world.now := by
  induction edits generalizing world with
  | nil => rfl
  | cons edit rest ih => exact (ih (world.edit edit)).trans (edit_now world edit)

end World

section

variable {project : ProjectId} {before world : World} {ticks : Nat}

open World

theorem tick_elapsed {failed : ε → World → Prop} :
    Triple (Elapsed before ticks) tick
      (fun tick world => Elapsed before (ticks + 1) world ∧
        tick = before.environment.tick (before.now + ticks)) failed := by
  intro world elapsed
  have edited := World.edits_now
    { world with
      now := world.now + 1
      signal := world.signal.receive (world.environment.tick world.now).arrival }
    (world.environment.tick world.now).edits
  refine ⟨{ toIdle := trans_of Idle elapsed.toIdle (@tick_idle ε world), time := ?_ }, ?_⟩
  · exact edited.trans (by rw [elapsed.time, Nat.add_assoc])
  · rw [elapsed.environment, elapsed.time]

theorem layoutProbe_elapsed :
    Triple (Elapsed before ticks) layoutProbe
      (fun digest world => Elapsed before (ticks + 1) world ∧
        digest ∈ (before.environment.tick (before.now + ticks)).probe)
      (fun _ world => Idle before world) := by
  refine .bind tick_elapsed fun tick => .assume fun same => ?_
  subst same
  split
  · rename_i digest found
    exact .pure fun _ elapsed => ⟨elapsed, found⟩
  · exact .throw fun _ elapsed => elapsed.toIdle

theorem loadLayout_elapsed :
    Triple (Elapsed before ticks) loadLayout
      (fun loaded world => Elapsed before (ticks + 1) world ∧
        (before.environment.tick (before.now + ticks)).layout = .loaded loaded.1 loaded.2)
      (fun _ world => Idle before world) := by
  refine .bind tick_elapsed fun tick => .assume fun same => .bind (.gets _) fun cancelled => ?_
  subst same
  refine .ite (fun _ => .throw fun _ holds => holds.1.toIdle) fun _ => ?_
  split
  · exact .throw fun _ holds => holds.1.toIdle
  · exact .throw fun _ holds => holds.1.toIdle
  · exact .throw fun _ holds => holds.1.toIdle
  · rename_i root layout found
    exact .pure fun _ holds => ⟨holds.1, found⟩

/-- What a successful refresh has read: a probe that it knows already, or a
layout after a new probe. -/
def Reread (before : World) (project : ProjectId) (world : World) : Prop :=
  world.environment = before.environment ∧ ∃ digest ∈ (before.environment.tick before.now).probe,
    (digest = (before.projects project).project.probe ∧ world.projects = before.projects ∧
      before.now < world.now) ∨
    (digest ≠ (before.projects project).project.probe ∧
      (before.environment.tick (before.now + 1)).layout =
        .loaded project (world.projects project).project.layout ∧
      (world.projects project).project.probe = digest ∧ before.now + 1 < world.now)

theorem replaceLayout_reread (layout : Layout) {failed : Error → World → Prop} :
    Triple (Elapsed before 2) (DuneProject.replaceLayout project layout)
      (fun _ world => world.environment = before.environment ∧
        (world.projects project).project.layout = layout ∧ before.now + 1 < world.now) failed := by
  refine .bind (.gets _) fun current => .ite (fun same => .pure ?_) fun _ => ?_
  · rintro world ⟨elapsed, rfl⟩
    exact ⟨elapsed.environment, same, by rw [elapsed.time]; exact Nat.lt_succ_self _⟩
  · rintro world ⟨elapsed, _⟩
    refine ⟨elapsed.environment, by simp [World.setRuntime, World.recordChange], ?_⟩
    exact Nat.lt_of_lt_of_eq (Nat.lt_succ_self _) elapsed.time.symm

theorem refreshProject_reread :
    Triple (· = before) (Engine.refreshProject project)
      (fun _ => Reread before project) (fun _ world => Idle before world) := by
  have start : ∀ world, world = before → Elapsed before 0 world := by
    rintro _ rfl
    exact ⟨refl_of Idle _, rfl⟩
  refine .bind (layoutProbe_elapsed.weaken start (fun _ _ holds => holds) fun _ _ idle => idle)
    fun probe => .assume fun read => ?_
  refine .through (fun known world => Elapsed before 1 world ∧
    known = (before.projects project).project.probe) ?_ fun known => .assume fun stored => ?_
  · exact fun world elapsed => ⟨elapsed, congrArg (fun runtimes : ProjectId → ProjectRuntime =>
      (runtimes project).project.probe) elapsed.projects⟩
  refine .ite (fun same => .pure fun world elapsed => ?_) fun new => ?_
  · refine ⟨elapsed.environment, probe, read, .inl ⟨same.trans stored, elapsed.projects, ?_⟩⟩
    rw [elapsed.time]
    exact Nat.lt_succ_self _
  · refine .bind loadLayout_elapsed fun (root, layout) => .assume fun loaded => ?_
    refine .through (fun _ world => Elapsed before 2 world ∧ root = project) ?_ fun _ =>
      .assume fun same => ?_
    · refine .ensure (fun passed _ elapsed => ⟨elapsed, by simpa using passed⟩)
        fun _ _ elapsed => elapsed.toIdle
    subst same stored
    refine .bind (replaceLayout_reread layout) fun changed => ?_
    refine .through (fun _ => Reread before root) ?_ fun _ => .pure fun _ holds => holds
    rintro world ⟨environment, rfl, later⟩
    exact ⟨environment, probe, read,
      .inr ⟨new, by simpa [World.setRuntime] using loaded, by simp [World.setRuntime], later⟩⟩

/-- What an attachment has read, and whether it opens a new runtime. -/
structure Attaches (before : World) (opened : DuneProject) (world : World) : Prop where
  environment : world.environment = before.environment
  layout : (before.environment.tick (before.now + 1)).layout = .loaded opened.root opened.layout
  probe : opened.probe ∈ (before.environment.tick (before.now + 2)).probe
  projects : world.projects = before.projects ∨ (¬ before.Keeps opened.root ∧
    world.projects = Function.update before.projects opened.root (.fresh opened))
  opens : ¬ before.Keeps opened.root →
    world.projects = Function.update before.projects opened.root (.fresh opened)

theorem attach_elapsed :
    Triple (· = before) Engine.attach
      (fun opened world => Elapsed before 3 world ∧
        (before.environment.tick (before.now + 1)).layout = .loaded opened.root opened.layout ∧
        opened.probe ∈ (before.environment.tick (before.now + 2)).probe)
      (fun _ world => Idle before world) := by
  have start : ∀ world, world = before → Elapsed before 0 world := by
    rintro _ rfl
    exact ⟨refl_of Idle _, rfl⟩
  refine .bind (tick_elapsed.weaken start (fun _ _ holds => holds) fun _ _ idle => idle)
    fun tick => .through (fun _ => Elapsed before 1) ?_ fun _ => ?_
  · exact .ensure (fun _ _ holds => holds.1) fun _ _ holds => holds.1.toIdle
  · refine .bind loadLayout_elapsed fun (root, layout) => .assume fun loaded => ?_
    refine .bind layoutProbe_elapsed fun probe => .assume fun probed => .pure fun _ elapsed => ?_
    exact ⟨elapsed, loaded, probed⟩

theorem openRuntime_attaches {opened : DuneProject} :
    Triple (fun world => Elapsed before 3 world ∧
        (before.environment.tick (before.now + 1)).layout = .loaded opened.root opened.layout ∧
        opened.probe ∈ (before.environment.tick (before.now + 2)).probe)
      (Adapter.openRuntime opened) (fun _ => Attaches before opened)
      (fun _ world => Idle before world) := by
  refine .assume fun ⟨loaded, probed⟩ => .bind tick_elapsed fun tick => .assume fun same => ?_
  subst same
  refine .bind (.gets _) fun unused => ?_
  rintro world ⟨elapsed, rfl⟩
  have attached : world.attachedTo opened.root = before.attachedTo opened.root :=
    funext fun session => by rw [World.attachedTo, elapsed.selections, World.attachedTo]
  rw [attached, elapsed.connections]
  cases alone : ((List.range before.connections).all fun session =>
      !before.attachedTo opened.root session) &&
        !(before.environment.tick (before.now + 3)).pinned with
  | true =>
    have unkept : ¬ before.Keeps opened.root := by
      simp only [Bool.and_eq_true, List.all_eq_true, List.mem_range, Bool.not_eq_true'] at alone
      rintro (⟨session, used, here⟩ | pinned)
      · simp [alone.1 session used] at here
      · simp [alone.2] at pinned
    have opens : World.projects (world.setRuntime opened.root (.fresh opened)) =
        Function.update before.projects opened.root (.fresh opened) := by
      rw [World.setRuntime, elapsed.projects]
    exact ⟨elapsed.environment, loaded, probed, .inr ⟨unkept, opens⟩, fun _ => opens⟩
  | false =>
    refine ⟨elapsed.environment, loaded, probed, .inl elapsed.projects, fun unkept => ?_⟩
    have keeps : before.Keeps opened.root := by
      simpa [World.Keeps, imp_iff_not_or] using alone
    exact absurd keeps unkept

theorem openView_attaches :
    Triple (· = before) World.openView (fun opened => Attaches before opened)
      (fun _ world => Idle before world) :=
  .bind attach_elapsed fun _ => .bind openRuntime_attaches fun _ => .pure fun _ holds => holds

section

variable {Inputs : Type} {environment : Environment} {inputs : Nat → Inputs}
  {view : Inputs → Layout} {probe : Inputs → Digest}

theorem Attaches.current {opened : DuneProject}
    (observed : Observed world.environment project inputs view probe)
    (attaches : Attaches world opened after) (steady : world.Steady project inputs view probe .attach)
    (here : opened.root = project) (unkept : ¬ world.Keeps opened.root)
    (opens : after.projects = Function.update world.projects opened.root (.fresh opened)) :
    after.Current project view probe := by
  refine ⟨inputs (world.now + 2), ?_, ?_⟩
  · rw [opens, here, Function.update_self]
    exact observed.probed _ _ attaches.probe
  · rw [opens, here, Function.update_self]
    exact (observed.loaded _ _ (here ▸ attaches.layout)).trans
      (steady.resolve_left (here ▸ unkept))

/-- An attachment opens the runtime at a steady moment, or leaves it alone. -/
theorem attach_current (observed : Observed world.environment project inputs view probe)
    (current : world.Current project view probe) (steady : world.Steady project inputs view probe .attach) :
    world.openView.2.environment = world.environment ∧
      world.openView.2.Current project view probe := by
  have kept : ∀ after, after.projects project = world.projects project →
      World.Current after project view probe := by
    intro after same
    rw [World.Current, same]
    exact current
  cases ran : world.openView.1 with
  | error error =>
    have idle := openView_attaches.of_error rfl ran
    exact ⟨idle.environment, kept _ (by rw [idle.projects])⟩
  | ok opened =>
    have attaches := openView_attaches.of_ok rfl ran
    refine ⟨attaches.environment, ?_⟩
    rcases attaches.projects with same | ⟨unkept, opens⟩
    · exact kept _ (by rw [same])
    · by_cases here : opened.root = project
      · exact attaches.current observed steady here unkept opens
      · exact kept _ (by rw [opens, Function.update_of_ne (Ne.symm here)])

/-- A refresh stores the view of one read with the probe of the other. -/
theorem refresh_current (observed : Observed world.environment project inputs view probe)
    (current : world.Current project view probe) (steady : world.Steady project inputs view probe .refresh) :
    (Engine.refreshProject project world).2.environment = world.environment ∧
      (Engine.refreshProject project world).2.Current project view probe := by
  cases ran : (Engine.refreshProject project world).1 with
  | error error =>
    have idle := refreshProject_reread.of_error rfl ran
    refine ⟨idle.environment, ?_⟩
    rw [World.Current, idle.projects]
    exact current
  | ok changed =>
    obtain ⟨environment, digest, read, ⟨_, same, _⟩ | ⟨new, loaded, stored, _⟩⟩ :=
      refreshProject_reread.of_ok rfl ran
    · refine ⟨environment, ?_⟩
      rw [World.Current, same]
      exact current
    · refine ⟨environment, inputs world.now, stored.trans (observed.probed _ _ read), ?_⟩
      refine (observed.loaded _ _ loaded).trans (steady.resolve_left fun known => new ?_).symm
      exact (observed.probed _ _ read).trans known.symm

/-- A known probe stands for the inputs that the cached view is the view of. -/
theorem World.Current.refreshesTo (observed : Observed world.environment project inputs view probe)
    (current : world.Current project view probe) : world.RefreshesTo project inputs view := by
  intro changed ran
  obtain ⟨_, digest, read, ⟨known, same, later⟩ | ⟨_, loaded, _, later⟩⟩ :=
    refreshProject_reread.of_ok rfl ran
  · obtain ⟨met, stored, cached⟩ := current
    have alike : inputs world.now = met := observed.injective
      ((observed.probed _ _ read).symm.trans (known.trans stored))
    refine ⟨world.now, Nat.le_refl _, later, ?_⟩
    rw [World.layout, same, cached, alike]
  · exact ⟨world.now + 1, Nat.le_succ _, later, observed.loaded _ _ loaded⟩

theorem viewStep_current {event : ViewEvent}
    (observed : Observed environment project inputs view probe)
    (known : world.environment = environment ∧ world.Current project view probe)
    (steady : world.Steady project inputs view probe event)
    (moved : world.viewStep project event = some after) :
    after.environment = environment ∧ after.Current project view probe := by
  obtain ⟨rfl, current⟩ := known
  cases event with
  | attach =>
    obtain rfl := Option.some.inj moved
    exact attach_current observed current steady
  | refresh =>
    obtain rfl := Option.some.inj moved
    exact refresh_current observed current steady
  | wait elapsed signal =>
    obtain rfl := Option.some.inj moved
    exact ⟨rfl, current⟩

/-- Where Dune's view is the same at both reads of each step, no later refresh
leaves an outdated view in place. -/
theorem refreshed_never_outdated (observed : Observed environment project inputs view probe)
    {before : World} (known : before.environment = environment) (opens : before.Opens project)
    (steady : before.Steady project inputs view probe .attach)
    (reached : Reachable (World.viewStep project) (World.Steady project inputs view probe)
      before.openView.2 world) :
    world.RefreshesTo project inputs view := by
  subst known
  have begun : before.openView.2.environment = before.environment ∧
      before.openView.2.Current project view probe := by
    obtain ⟨opened, ran, here⟩ := opens.attached
    have attaches := openView_attaches.of_ok rfl ran
    have unkept : ¬ before.Keeps opened.root := here ▸ opens.unkept
    exact ⟨attaches.environment,
      attaches.current observed steady here unkept (attaches.opens unkept)⟩
  have ended := Reachable.invariant
    (fun world => world.environment = before.environment ∧ world.Current project view probe) begun
    (fun _ _ _ known steady moved => viewStep_current observed known steady moved) reached
  exact ended.2.refreshesTo (ended.1 ▸ observed)

end

end

/-- The claim that no refresh leaves an outdated view, whatever changes when. -/
def NeverOutdated : Prop :=
  ∀ (Inputs : Type) (environment : Environment) (inputs : Nat → Inputs) (view : Inputs → Layout)
    (probe : Inputs → Digest) (project : ProjectId) (before world : World),
    Observed environment project inputs view probe → before.environment = environment →
    before.Opens project →
    Reachable (World.viewStep project) (fun _ _ => True) before.openView.2 world →
    world.RefreshesTo project inputs view

section Race

def raceProject : ProjectId := ["project"]

/-- Two views that differ in the root of their workspace. -/
def raceView (changed : Bool) : Layout :=
  { Layout.empty with petWorkspace := { root := if changed then ["new"] else [], loadPaths := [] } }

def raceProbe (changed : Bool) : Digest := [if changed then 1 else 0]

def raceEnvironment (inputs : Nat → Bool) : Environment where
  tick moment :=
    { layout := .loaded raceProject (raceView (inputs moment))
      probe := some (raceProbe (inputs moment)) }
  sha256 bytes := bytes
  canonicalize root _ := root
  duneBuildDir := none

def raceStart (inputs : Nat → Bool) : World :=
  .initial (raceEnvironment inputs) (fun _ => none) fun _ => none

theorem raceEnvironment_observed (inputs : Nat → Bool) :
    Observed (raceEnvironment inputs) raceProject inputs raceView raceProbe where
  injective := by
    intro first second same
    cases first <;> cases second <;> first | rfl | exact absurd same (by decide)
  probed _ _ read := (Option.some.inj read).symm
  loaded _ _ read := (LayoutOutcome.loaded.inj read).2.symm

/-- The inputs change between the two reads of the attachment. -/
def changedAttaching (moment : Nat) : Bool := 2 ≤ moment

/-- The inputs change back between the two reads of a refresh, and once more
after it. -/
def changedRefreshing (moment : Nat) : Bool := moment = 4 || 6 ≤ moment

theorem raceStart_opens (inputs : Nat → Bool) :
    (raceStart inputs).Opens raceProject where
  attached := ⟨_, rfl, rfl⟩
  unkept := by
    rintro (⟨session, used, _⟩ | pinned)
    · exact absurd used (Nat.not_lt_zero _)
    · cases pinned

/-- A change during the attachment, and one during a refresh after a steady
attachment, are hidden by the probe that is stored with the older view. -/
theorem refresh_can_stay_outdated :
    ¬ NeverOutdated ∧
      (raceStart changedRefreshing).Steady raceProject changedRefreshing raceView raceProbe .attach ∧
      ∃ world, Reachable (World.viewStep raceProject) (fun _ _ => True)
        (raceStart changedRefreshing).openView.2 world ∧
        ¬ world.RefreshesTo raceProject changedRefreshing raceView := by
  refine ⟨fun never => ?_, .inr (by decide +kernel), ?_⟩
  · have attaching := never Bool _ changedAttaching raceView raceProbe raceProject _ _
      (raceEnvironment_observed _) rfl (raceStart_opens _) .initial
    obtain ⟨moment, late, early, same⟩ := attaching false (by decide +kernel)
    have stale : ∀ moment < (Engine.refreshProject raceProject
        (raceStart changedAttaching).openView.2).2.now,
        (raceStart changedAttaching).openView.2.now ≤ moment →
        (Engine.refreshProject raceProject (raceStart changedAttaching).openView.2).2.layout
          raceProject ≠ raceView (changedAttaching moment) := by decide +kernel
    exact stale moment early late same
  · have moved : (raceStart changedRefreshing).openView.2.viewStep raceProject .refresh =
        some (Engine.refreshProject raceProject (raceStart changedRefreshing).openView.2).2 := rfl
    refine ⟨_, .next .initial trivial moved, fun fresh => ?_⟩
    obtain ⟨moment, late, early, same⟩ := fresh false (by decide +kernel)
    have stale : ∀ moment < (Engine.refreshProject raceProject (Engine.refreshProject raceProject
        (raceStart changedRefreshing).openView.2).2).2.now,
        (Engine.refreshProject raceProject (raceStart changedRefreshing).openView.2).2.now ≤ moment →
        (Engine.refreshProject raceProject (Engine.refreshProject raceProject
          (raceStart changedRefreshing).openView.2).2).2.layout raceProject ≠
            raceView (changedRefreshing moment) := by decide +kernel
    exact stale moment early late same

/-- The inputs change after the attachment, and back after a refresh. -/
def changedBetween (moment : Nat) : Bool := 4 ≤ moment && moment < 8

/-- After a refresh has stored the view of the changed inputs, and they have
changed back, another refresh is up to date. -/
theorem changed_never_outdated : ∃ world,
    Reachable (World.viewStep raceProject)
        (World.Steady raceProject changedBetween raceView raceProbe)
        (raceStart changedBetween).openView.2 world ∧
      (raceStart changedBetween).openView.2.layout raceProject = raceView false ∧
      world.layout raceProject = raceView true ∧ changedBetween world.now = false ∧
      world.RefreshesTo raceProject changedBetween raceView := by
  let refreshed := (Engine.refreshProject raceProject (raceStart changedBetween).openView.2).2
  have moved : (raceStart changedBetween).openView.2.viewStep raceProject .refresh =
      some refreshed := rfl
  have waited : refreshed.viewStep raceProject (.wait 2 .active) =
      some { refreshed with now := refreshed.now + 2, signal := .active } := rfl
  have steady : (raceStart changedBetween).openView.2.Steady raceProject changedBetween raceView
      raceProbe .refresh := .inr (by decide +kernel)
  have first : Reachable (World.viewStep raceProject)
      (World.Steady raceProject changedBetween raceView raceProbe)
      (raceStart changedBetween).openView.2 refreshed := .next .initial steady moved
  have run := first.next (show World.Steady _ _ _ _ refreshed (.wait 2 .active) from trivial) waited
  exact ⟨_, run, by decide +kernel, by decide +kernel, by decide +kernel,
    refreshed_never_outdated (raceEnvironment_observed _) rfl (raceStart_opens _)
      (.inr (by decide +kernel)) run⟩

end Race

end RocqMcp
