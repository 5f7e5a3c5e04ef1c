import RocqMcp.Adapter.Attachment

/-! The events of a server, and its runs: in every state that a run reaches, each
project accounts for what the sessions attached to it hold. -/

namespace RocqMcp

open Library

/-- The project that `start` resolves its argument to. -/
def World.attaching (world : World) : Option ProjectId :=
  let resolve : EngineM DuneProject := do
    rejectCancelled
    Engine.attach
  match resolve world with
  | (.ok attached, _) => some attached.root
  | (.error _, _) => none

/-- The project that a `start` opens. -/
def World.opening (world : World) : Option ProjectId :=
  match Engine.attach world with
  | (.ok attached, _) => some attached.root
  | (.error _, _) => none

/-- The projects that a request of the session can touch: its own, and the one
that a `start` attaches it to. -/
def World.Concerns (world : World) (session : SessionId) (name : String) (project : ProjectId) : Prop :=
  (world.selections session).project = some project ∨
    (name = "start" ∧ (world.begin .active).attaching = some project)

/-- The invariant of the runs: the cells of future connections are unattached. -/
structure Lawful (world : World) : Prop extends Orderly world where
  unused : ∀ session, world.connections ≤ session → (world.selections session).project = none

section

variable {project : ProjectId} {session : SessionId} {origin world after : World}
  {touched : ProjectId → Prop}

theorem Apart.unused (apart : Apart touched session world after) (used : session < world.connections)
    (unused : ∀ other, world.connections ≤ other → (world.selections other).project = none) :
    ∀ other, after.connections ≤ other → (after.selections other).project = none := by
  intro other beyond
  rw [apart.connections] at beyond
  have different : other ≠ session := fun same => Nat.not_le_of_lt used (same ▸ beyond)
  rw [apart.attached other different]
  exact unused other beyond

theorem Isolated.begin (signal : Signal) : Isolated touched session world (world.begin signal) :=
  .sameSessions rfl rfl fun _ _ => rfl

theorem Lawful.arriving (lawful : Lawful world) (used : session < world.connections)
    (leaves : ∀ project, (world.selections session).project = some project → touched project)
    (signal : Signal) : Arriving touched session (world.begin signal) (world.begin signal) where
  toOrderly := lawful.toOrderly.begin signal
  toIsolated := .refl _
  untouched := .refl _
  used := used
  leaves := leaves

/-- A request that fails has changed nothing that a client can observe, except
for a `start` that fails after its commit. -/
def Undispatched (touched : ProjectId → Prop) (session : SessionId) (origin : World) (name : String)
    (error : Error) (world : World) : Prop :=
  Started touched session origin world ∧
    (name ≠ "start" ∨ error.kind = .requestCancelled → Untouched origin world)

theorem Arriving.undispatched {name : String} {error : Error}
    (arriving : Arriving touched session origin world) :
    Undispatched touched session origin name error world :=
  ⟨⟨arriving.toOrderly, arriving.toIsolated⟩, fun _ => arriving.untouched⟩

namespace Adapter

theorem dispatchProject_undispatched {name : String} (args : Value)
    (selected : (world.selections session).project = some project)
    (arriving : Arriving touched session origin world) :
    Triple (· = world) (dispatchProject project session name args)
      (fun _ => Started touched session origin) (Undispatched touched session origin name) := by
  have own : Own project session world := ⟨by simp [World.attachedTo, selected], arriving.used⟩
  have member := arriving.leaves project selected
  have served : Triple (Clean project session world []) (dispatchProject project session name args)
      _ _ := dispatchProject_served name args
  refine served.weaken ?_ ?_ ?_
  · rintro _ rfl
    exact arriving.toOrderly.clean own
  · exact fun _ _ served => served.started member arriving.toIsolated
  · exact fun _ _ clean => ⟨clean.served.started member arriving.toIsolated,
      fun _ => arriving.untouched.trans clean.untouched⟩

/-- What each request leaves, whatever its tool and its result. -/
theorem dispatch_undispatched (name : String) (args : Value)
    (resolves : ∀ project, name = "start" → origin.attaching = some project → touched project) :
    Triple (fun world => world = origin ∧ Arriving touched session origin world)
      (dispatch session name args) (fun _ => Started touched session origin)
      (Undispatched touched session origin name) := by
  let attaches : World → Prop := fun world => name = "start" →
    ∀ attached, (Engine.attach world).1 = .ok attached → touched attached.root
  refine .through (fun _ world => Arriving touched session origin world ∧ attaches world) ?_
    fun _ => ?_
  · rintro world ⟨same, arriving⟩
    have idle := rejectCancelled_idle world
    rcases ran : rejectCancelled world with ⟨result, after⟩
    rw [ran] at idle
    cases result with
    | error error => exact (arriving.idle idle).undispatched
    | ok _ =>
      refine ⟨arriving.idle idle, fun named attached opened => resolves _ named ?_⟩
      rcases opening : Engine.attach after with ⟨result, final⟩
      rw [opening] at opened
      obtain rfl : result = .ok attached := opened
      simp only [World.attaching, bind, Act.bind, ← same, ran, opening]
  refine .ite (fun _ => ?_) fun _ => .ite (fun named => ?_) fun _ => ?_
  · have checked {α : Type} (result : Except Error α) :
        Triple (Arriving touched session origin) (Act.ofExcept result)
          (fun _ => Arriving touched session origin) (Undispatched touched session origin name) :=
      (Triple.ofExcept result).weaken (fun _ holds => holds) (fun _ _ holds => holds.1)
        fun _ _ holds => holds.1.undispatched
    refine .bind ((checked _).weaken (fun _ holds => holds.1) (fun _ _ holds => holds)
      fun _ _ fails => fails) fun _ => .bind (checked _) fun _ => .pure ?_
    exact fun _ arriving => ⟨arriving.toOrderly, arriving.toIsolated⟩
  · refine (start_unstarted args fun _ holds => holds named).weaken (fun _ holds => holds)
      (fun _ _ started => started) fun _ _ fails => ⟨fails.1, ?_⟩
    rintro (regular | cancelled)
    · exact absurd named regular
    · exact fails.2 cancelled
  · refine .bind (.gets _) fun selected => .each_state ?_
    rintro world ⟨⟨arriving, _⟩, read⟩
    cases selected with
    | none =>
      refine .throw ?_
      rintro _ rfl
      exact arriving.undispatched
    | some project => exact dispatchProject_undispatched args read.symm arriving

/-- The end of an attached connection: its states are forgotten, and released if
the process lives. -/
theorem dropSession_serving (serving : Serving project [] world) (own : Own project session world)
    {failed : Error → World → Prop} :
    Triple (· = world) (dropSession session)
      (fun _ after => Serving project [] after ∧ Within project session world after ∧
        (after.selections session).checkpoints.states = []) failed := by
  let retired := (world.selections session).checkpoints
  let cleared := world.setCheckpoints session retired.clear
  have selected : (world.selections session).project = some project := by
    simpa [World.attachedTo] using own.attached
  have moved : Serving project retired.states cleared := by
    refine serving.setBook own ?_ (by simpa [CheckpointBook.states, CheckpointBook.clear] using .refl _)
    rintro proof ⟨⟩
  have within : Within project session world cleared := .setBook (.clear _)
  have blank : (cleared.selections session).checkpoints.states = [] := by
    rw [World.selections_setCheckpoints, if_pos rfl]
    rfl
  have released : Triple (· = cleared)
      (PetActor.bestEffort project (PetActor.releaseStates project retired.states))
      (fun _ => Holding project cleared false (cleared.held project)) failed := by
    refine (PetActor.bestEffort_holding (fun _ => PetActor.releaseStates_holding retired.states)
      ?_).weaken (moved.holding) (fun _ _ holding => holding) fun _ _ fails => fails
    exact fun state member => List.mem_append_right _ member
  have finished : Triple (· = cleared)
      (PetActor.bestEffort project (PetActor.releaseStates project retired.states) >>= fun _ =>
        (pure () : Act World Error Unit))
      (fun _ after => Serving project [] after ∧ Within project session world after ∧
        (after.selections session).checkpoints.states = []) failed := by
    refine .bind released fun _ => .pure fun after holding => ?_
    refine ⟨moved.calm (holding : Holding project cleared false ([] ++ _) after),
      within.trans holding.calm.unobserved.within, ?_⟩
    rw [holding.calm.selections]
    exact blank
  rintro _ rfl
  have ran := finished cleared rfl
  simpa only [dropSession, bind, Act.bind, Act.gets, selected, book, clearBook, setBook, Act.modify]
    using ran

end Adapter

/-- Before the first request, and after every one. -/
theorem Orderly.emptied (orderly : Orderly world)
    (blank : (world.selections session).checkpoints.states = []) :
    Orderly (world.setSelection session .empty) := by
  have others : ∀ other, other ≠ session →
      (world.setSelection session .empty).selections other = world.selections other :=
    fun other different => by simp [World.setSelection, different]
  have own : (world.setSelection session .empty).selections session = .empty := by
    simp [World.setSelection]
  have blank' : ((world.setSelection session .empty).selections session).checkpoints.states = [] := by
    rw [own]
    rfl
  refine ⟨?_, orderly.begun, fun project => ?_⟩
  · refine orderly.consistent.framed rfl (fun _ suffered => suffered) rfl rfl (.of_same rfl) ?_ ?_
    · intro other proof active
      by_cases same : other = session
      · rw [same, own] at active
        cases active
      · rw [others other same] at active
        exact orderly.consistent.proofs other proof active
    · intro other alone
      by_cases same : other = session
      · rw [same]
        exact blank'
      · rw [others other same] at alone ⊢
        exact orderly.consistent.unattached other alone
  · have connections : (world.setSelection session .empty).connections = world.connections := rfl
    rw [World.held_blank connections others blank blank']
    exact (orderly.owned project).framed rfl rfl (Nat.le_refl _) (fun _ suffered => suffered) rfl

theorem Apart.emptied (apart : Apart touched session origin world) :
    Apart touched session origin (world.setSelection session .empty) where
  connections := apart.connections
  projects := apart.projects
  attached other different := by
    rw [← apart.attached other different]
    simp [World.setSelection, different]
  elsewhere other different away := by
    rw [← apart.elsewhere other different away]
    simp [World.setSelection, different]
  siblings other different := by
    have same : (world.setSelection session .empty).selections other = world.selections other := by
      simp [World.setSelection, different]
    rw [same]
    exact apart.siblings other different

/-- A new connection takes an unattached cell. -/
theorem Lawful.connect (lawful : Lawful world) :
    Lawful { world with connections := world.connections + 1 } where
  consistent := lawful.consistent.framed rfl (fun _ suffered => suffered) rfl rfl (.of_same rfl)
    lawful.consistent.proofs lawful.consistent.unattached
  begun := lawful.begun
  owned project := by
    have unattached : world.attachedTo project world.connections = false := by
      simp [World.attachedTo, lawful.unused _ (Nat.le_refl _)]
    have same : World.held { world with connections := world.connections + 1 } project =
        world.held project := by
      have last : List.filter (world.attachedTo project) [world.connections] = [] := by
        simp [unattached]
      have attached : World.attachedTo { world with connections := world.connections + 1 } project =
          world.attachedTo project := rfl
      simp only [World.held, attached, List.range_succ, List.filter_append, last, List.append_nil]
    rw [same]
    exact (lawful.owned project).framed rfl rfl (Nat.le_refl _) (fun _ suffered => suffered) rfl
  unused other beyond := lawful.unused other (Nat.le_of_succ_le beyond)

theorem Lawful.apart (orderly : Orderly after) (lawful : Lawful world)
    (apart : Apart touched session world after) (used : session < world.connections) :
    Lawful after :=
  ⟨orderly, apart.unused used lawful.unused⟩

/-- The projects that an event can touch. -/
def World.Touches (world : World) : Event → ProjectId → Prop
  | .connect, _ => False
  | .request session name _, project => world.Concerns session name project
  | .detach session, project => (world.selections session).project = some project
  | .enter _ committed, project =>
    (world.begin (if committed then .committed else .active)).opening = some project
  | .disconnect _, _ => False
  | .drop session, project => (world.selections session).project = some project

theorem Started.lawful (started : Started touched session (world.begin signal) after)
    (lawful : Lawful world) (used : session < world.connections) :
    Lawful after ∧ Apart touched session world after := by
  have isolated : Isolated touched session world after :=
    (Isolated.begin signal).trans started.toIsolated
  exact ⟨⟨started.toOrderly, isolated.toApart.unused used lawful.unused⟩, isolated.toApart⟩

theorem Lawful.request (lawful : Lawful world) (used : session < world.connections) (name : String)
    (args : Value) :
    Started (world.Concerns session name) session (world.begin .active)
      (world.request session name args).2 := by
  have arriving : Arriving (world.Concerns session name) session (world.begin .active)
      (world.begin .active) := lawful.arriving used (fun _ selected => .inl selected) .active
  have ended : Triple _ (Adapter.dispatch session name args) _
      (Undispatched (world.Concerns session name) session (world.begin .active) name) :=
    Adapter.dispatch_undispatched name args fun _ named resolved => .inr ⟨named, resolved⟩
  exact ended.ends ⟨rfl, arriving⟩ (fun _ _ started => started) fun _ _ failed => failed.1

/-- A request that fails has changed nothing that a client can observe; a `start`
may fail after it has committed, for other reasons than a cancellation. -/
theorem Lawful.untouched (lawful : Lawful world) (used : session < world.connections) {name : String}
    {args : Value} {error : Error} (failed : (world.request session name args).1 = .error error)
    (silent : name ≠ "start" ∨ error.kind = .requestCancelled) :
    Untouched world (world.request session name args).2 := by
  have arriving : Arriving (world.Concerns session name) session (world.begin .active)
      (world.begin .active) := lawful.arriving used (fun _ selected => .inl selected) .active
  have ended := (Adapter.dispatch_undispatched name args fun _ named resolved =>
    .inr ⟨named, resolved⟩).of_error ⟨rfl, arriving⟩ failed
  have begun : Untouched world (world.begin .active) := ⟨fun _ => rfl, fun _ => rfl, .refl _⟩
  exact begun.trans (ended.2 silent)

theorem Lawful.detach (lawful : Lawful world) (used : session < world.connections)
    (selected : (world.selections session).project = some project) :
    Started (fun other => (world.selections session).project = some other) session
      (world.begin .active) (world.detach project session) := by
  have arriving := lawful.arriving used (fun _ selected => selected) .active
  refine (Adapter.detach_entering arriving selected).ends rfl ?_ ?_
  · exact fun _ _ entering => entering.1.started
  · exact fun _ _ unstarted => unstarted.1

theorem Lawful.enter (lawful : Lawful world) (used : session < world.connections)
    (unattached : (world.selections session).project = none) (committed : Bool) :
    Started (world.Touches (.enter session committed)) session
      (world.begin (if committed then .committed else .active)) (world.enter session committed) := by
  let origin := world.begin (if committed then .committed else .active)
  let touched := world.Touches (.enter session committed)
  have leaves : ∀ project, (world.selections session).project = some project → touched project := by
    rw [unattached]
    exact nofun
  have arriving : Arriving touched session origin origin := lawful.arriving used leaves _
  have known : ∀ world, world = origin → ∀ attached, (Engine.attach world).1 = .ok attached →
      touched attached.root := by
    rintro _ rfl attached opened
    rcases opening : Engine.attach origin with ⟨result, final⟩
    rw [opening] at opened
    obtain rfl : result = .ok attached := opened
    change origin.opening = some attached.root
    rw [World.opening, opening]
  have entering (world : World) (arriving : Arriving touched session origin world) :
      Entering touched session origin world :=
    { toOrderly := arriving.toOrderly
      toIsolated := arriving.toIsolated
      blank := arriving.consistent.unattached session
        ((arriving.untouched.attached session).trans unattached)
      used := arriving.used }
  have ran : Triple (fun world => Arriving touched session origin world ∧ world = origin)
      (do
        let attached ← Engine.attach
        Adapter.openRuntime attached
        Adapter.enterProject attached.root session)
      (fun _ => Started touched session origin) (Unstarted touched session origin) := by
    refine .bind (Adapter.attach_arriving known) fun attached => .assume fun member => ?_
    refine .bind (Adapter.openRuntime_arriving member) fun _ => ?_
    exact (Adapter.enterProject_unstarted member).weaken
      (fun world arriving => ⟨entering world arriving, .inl arriving.untouched⟩)
      (fun _ _ started => started) fun _ _ failed => failed
  exact ran.ends ⟨arriving, rfl⟩ (fun _ _ started => started) fun _ _ unstarted => unstarted.1

theorem Orderly.setClosing (orderly : Orderly world) (closing : Bool) :
    Orderly (world.setClosing session closing) where
  consistent := orderly.consistent.sameSessions rfl rfl rfl rfl rfl rfl
  begun := orderly.begun
  owned project := by
    rw [World.held_selections project rfl rfl]
    exact (orderly.owned project).framed rfl rfl (Nat.le_refl _) (fun _ suffered => suffered) rfl

/-- Closing a connection leaves its cell, and every other one, as they are. -/
theorem Isolated.setClosing (closing : Bool) :
    Isolated touched session world (world.setClosing session closing) :=
  .sameSessions rfl rfl fun _ _ => rfl

theorem Lawful.disconnect (lawful : Lawful world) : Lawful (world.disconnect session) :=
  ⟨lawful.toOrderly.setClosing true, lawful.unused⟩

theorem Lawful.drop (lawful : Lawful world) (used : session < world.connections) :
    Lawful (world.drop session) ∧
      Apart (fun other => (world.selections session).project = some other) session world
        (world.drop session) := by
  have orderly := lawful.toOrderly.begin .active
  let touched : ProjectId → Prop := fun other => (world.selections session).project = some other
  let ended : World → Prop := fun after => Orderly after ∧
    (after.selections session).checkpoints.states = [] ∧ Apart touched session world after
  have dropped : ended (Adapter.dropSession session (world.begin .active)).2 := by
    cases selected : (world.selections session).project with
    | none =>
      have kept : Adapter.dropSession session (world.begin .active) =
          (.ok (), world.begin .active) := by
        simp only [Adapter.dropSession, bind, Act.bind, Act.gets]
        rw [show ((world.begin .active).selections session).project = none from selected]
        rfl
      rw [kept]
      exact ⟨orderly, lawful.consistent.unattached session selected, (Isolated.begin .active).toApart⟩
    | some project =>
      have attached : (world.begin .active).attachedTo project session = true := by
        simp [World.attachedTo, World.begin, selected]
      have served : Triple (· = world.begin .active) (Adapter.dropSession session) _
          fun _ _ => False := Adapter.dropSession_serving (orderly.serving project) ⟨attached, used⟩
      have closes : ∀ after, Serving project [] after → Within project session (world.begin .active) after →
          (after.selections session).checkpoints.states = [] → ended after := by
        intro after serving within blank
        have isolated : Isolated touched session world after :=
          (Isolated.begin .active).trans (within.isolated selected)
        exact ⟨serving.orderly, blank, isolated.toApart⟩
      exact served.ends rfl (fun _ after holds => closes after holds.1 holds.2.1 holds.2.2)
        fun _ _ impossible => impossible.elim
  obtain ⟨orderly', blank, apart⟩ := dropped
  have away : Apart touched session world (world.drop session) :=
    apart.emptied.trans (Isolated.setClosing false).toApart
  exact ⟨⟨(orderly'.emptied blank).setClosing false, away.unused used lawful.unused⟩, away⟩

/-- The connection whose event it is. -/
def World.speaker (world : World) : Event → SessionId
  | .connect => world.connections
  | .request session _ _ | .detach session | .enter session _ | .disconnect session
  | .drop session => session

theorem World.isOpen_used (isOpen : world.isOpen session = true) : session < world.connections := by
  simp only [World.isOpen, Bool.and_eq_true, decide_eq_true_eq] at isOpen
  exact isOpen.1

/-- Every event keeps the invariant, and leaves alone what it does not touch. -/
theorem Lawful.step (lawful : Lawful world) {event : Event} (moved : world.step event = some after) :
    Lawful after ∧ (event ≠ .connect →
      Apart (world.Touches event) (world.speaker event) world after) := by
  cases event with
  | connect =>
    obtain rfl := Option.some.inj moved
    exact ⟨lawful.connect, fun other => absurd rfl other⟩
  | request session name args =>
    simp only [World.step] at moved
    split at moved
    · rename_i isOpen
      have used := World.isOpen_used isOpen
      obtain rfl := Option.some.inj moved
      have ended := (lawful.request used name args).lawful lawful used
      exact ⟨ended.1, fun _ => ended.2⟩
    · cases moved
  | detach session =>
    simp only [World.step] at moved
    split at moved
    · rename_i project selected
      split at moved
      · rename_i isOpen
        have used := World.isOpen_used isOpen
        obtain rfl := Option.some.inj moved
        have ended := (lawful.detach used selected).lawful lawful used
        exact ⟨ended.1, fun _ => ended.2⟩
      · cases moved
    · cases moved
  | enter session committed =>
    simp only [World.step] at moved
    split at moved
    · rename_i possible
      simp only [Bool.and_eq_true, Option.isNone_iff_eq_none] at possible
      have used := World.isOpen_used possible.1
      obtain rfl := Option.some.inj moved
      have ended := (lawful.enter used possible.2 committed).lawful lawful used
      exact ⟨ended.1, fun _ => ended.2⟩
    · cases moved
  | disconnect session =>
    simp only [World.step] at moved
    split at moved
    · obtain rfl := Option.some.inj moved
      exact ⟨lawful.disconnect, fun _ => (Isolated.setClosing true).toApart⟩
    · cases moved
  | drop session =>
    simp only [World.step] at moved
    split at moved
    · rename_i possible
      simp only [Bool.and_eq_true, decide_eq_true_eq] at possible
      obtain rfl := Option.some.inj moved
      have ended := lawful.drop possible.1
      exact ⟨ended.1, fun _ => ended.2⟩
    · cases moved

theorem Lawful.initial (environment : Environment) (sources outputs : Path → Option Bytes) :
    Lawful (World.initial environment sources outputs) where
  consistent := ⟨fun _ => nofun, nofun, nofun, fun _ _ => rfl⟩
  begun := Nat.le_refl _
  owned _ :=
    { settled := fun _ exporting => absurd rfl exporting
      accounted := fun _ => ⟨[], .refl _, nofun⟩
      stamped := fun _ => nofun }
  unused _ _ := rfl

/-- Every reached state is lawful. -/
theorem World.Reached.lawful (reached : World.Reached world) : Lawful world := by
  obtain ⟨environment, sources, outputs, run⟩ := reached
  exact run.invariant Lawful (.initial environment sources outputs)
    fun _ _ _ lawful _ moved => (lawful.step moved).1

end

/-- The end of a run from these sources, with what was computed of it. -/
def World.reaching (environment : Environment) (sources : Path → Option Bytes)
    (events : List Event) (facts : World → Bool)
    (ran : (execute World.step (fun _ _ => True)
      (.initial environment sources fun _ => none) events).any facts = true) :
    { world : World // World.Reached world ∧ facts world = true } :=
  let last := Reachable.run events facts ran
  ⟨last.val, ⟨environment, sources, fun _ => none, last.property.1⟩, last.property.2⟩

/-! ### A server with one small project -/

namespace Sample

def root : ProjectId := ["p"]

def text : String := "Lemma t : True.\nProof.\nAdmitted.\n"

def layout : Layout where
  rows := [{ path := ["p", "A.v"], library := { parts := ["A"] }, buildTarget := ["A.vo"] }]
  petWorkspace := { root := ["p"], loadPaths := [] }
  byLibrary := List.pairwise_singleton _ _
  byFile := List.pairwise_singleton _ _

/-- A project with another source file. -/
def twoFiles : Layout where
  rows := [{ path := ["p", "A.v"], library := { parts := ["A"] }, buildTarget := ["A.vo"] },
    { path := ["p", "B.v"], library := { parts := ["B"] }, buildTarget := ["B.vo"] }]
  petWorkspace := { root := ["p"], loadPaths := [] }
  byLibrary := by decide
  byFile := by decide

def row : PetDeclaration where
  qualifiedPath := ["A", "t"]
  kind := "Lemma"
  range := { start := 0, stop := 15 }
  declarationRange := { start := 0, stop := 32 }
  proofFinished := false
  statement := "True"

/-- A PET that accepts every fragment and finishes no proof. -/
def answer : PetCall → PetReply Unit
  | .capabilities => .capabilities requiredCapabilities
  | .setWorkspace _ | .refreshWorkspace => .null
  | .documentDeclarations _ => .declarations [row]
  | .getStateAtPos _ _ => .run () false none
  | .run _ _ => .run () false (some "")
  | .runTrace _ _ _ => .traceSuccess () false
  | .goals _ => .goals { PetGoals.outsideProof with proofMode := true }
  | .releaseStates states => .released states.length 0
  | _ => .malformed

def tick : Tick where
  rpc call := .returned (answer call)
  layout := .loaded root layout
  probe := some [1]

def environment : Environment where
  tick _ := tick
  sha256 bytes := bytes
  canonicalize project file := project ++ [file]
  duneBuildDir := none

def sources (path : Path) : Option Bytes :=
  if path = ["p", "A.v"] then some (textBytes text) else none

def twoSources (path : Path) : Option Bytes :=
  if path = ["p", "B.v"] then some [] else sources path

def attach : Event := .request 0 "start" (.object [("project_path", .string "/p")])

def prove : Event :=
  .request 0 "prove" (.object [("target", .object [("file", .string "A.v"),
    ("qualified_path", .array [.string "A", .string "t"])])])

def check : Event := .request 0 "check" (.object [("attempts", .array [.string "idtac."])])

/-- A connection attaches the project, and takes two steps in a proof. -/
def proving : List Event := [.connect, attach, prove, check, check]

theorem proving_runs : (execute World.step (fun _ _ => True)
    (.initial environment sources fun _ => none) proving).isSome = true := by
  decide +kernel

def proved : World := (execute World.step (fun _ _ => True)
  (.initial environment sources fun _ => none) proving).get proving_runs

theorem proved_reached : World.Reached proved :=
  ⟨environment, sources, fun _ => none, Reachable.executed proving proving_runs⟩

end Sample

/-! ### A server with two projects and three connections -/

namespace Sharing

/-- PET dies in one attempt, and another one finishes the proof. -/
def outcome : PetCall → RpcOutcome
  | .runTrace state tactic trace =>
    if tactic = "die." then .processLost "process exited"
    else if tactic = "exact I." then .returned (.traceSuccess () true)
    else .returned (Sample.answer (.runTrace state tactic trace))
  | .run _ _ => .returned (.run () true (some ""))
  | .goals state => .returned (if state.value = 5 then .null else Sample.answer (.goals state))
  | call => .returned (Sample.answer call)

def other : ProjectId := ["q"]

def layout : Layout where
  rows := [{ path := ["q", "A.v"], library := { parts := ["A"] }, buildTarget := ["A.vo"] }]
  petWorkspace := { root := ["q"], loadPaths := [] }
  byLibrary := List.pairwise_singleton _ _
  byFile := List.pairwise_singleton _ _

/-- The third connection starts in the other project; a cancellation may arrive. -/
def environment (cancelled : Option Nat) : Environment :=
  { Sample.environment with
    tick := fun now =>
      { Sample.tick with
        rpc := outcome
        layout := if now < 67 then .loaded Sample.root Sample.layout else .loaded other layout
        arrival := if cancelled = some now then some .cancel else none } }

def sources (path : Path) : Option Bytes :=
  if path = ["q", "A.v"] then some (textBytes Sample.text) else Sample.sources path

def attach (session : SessionId) : Event :=
  .request session "start" (.object [("project_path", .string "/p")])

def prove (session : SessionId) : Event :=
  .request session "prove" (.object [("target", .object [("file", .string "A.v"),
    ("qualified_path", .array [.string "A", .string "t"])])])

def fragment (text : String) : Value := .object [("attempts", .array [.string text])]

def attempt (session : SessionId) (text : String) : Event :=
  .request session "check" (fragment text)

/-- Two connections prove a lemma of the first project, and one of the second. -/
def sharing : List Event :=
  [.connect, .connect, .connect, attach 0, attach 1, prove 0, prove 1, attach 2, prove 2]

end Sharing

end RocqMcp
