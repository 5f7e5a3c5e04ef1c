import RocqMcp.Adapter.Events
import RocqMcp.Adapter.Explained

/-! Runs of the tools that only read. They may build, replay checkpoints, lose a
PET process or fail: no session stands elsewhere for it, and the server has
written no source file. -/

namespace RocqMcp

open Library

/-- A request of a tool that only reads, or a new connection. -/
def Event.Reads : Event → Prop
  | .connect => True
  | .request _ name _ => name ∈ Adapter.readTools
  | _ => False

instance : DecidablePred Event.Reads
  | .connect => .isTrue trivial
  | .request _ name _ => inferInstanceAs (Decidable (name ∈ Adapter.readTools))
  | .detach _ | .enter _ _ | .disconnect _ | .drop _ => .isFalse id

section

variable {project : ProjectId} {session : SessionId} {start origin world after : World}
  {touched : ProjectId → Prop} {name : String} {args : Value}

namespace Adapter

theorem read_regular (reads : name ∈ readTools) : name ≠ "start" := by
  rintro rfl
  exact absurd reads (by decide)

theorem dispatchAttached_clean (reads : name ∈ readTools) :
    Triple (Clean project session start []) (dispatchAttached project session name args)
      (fun _ => Clean project session start []) fun _ _ => True := by
  have lasting {action : EngineM Response} (triple : Triple (Clean project session start []) action
      (fun _ => Clean project session start []) (Failing project session start [])) :
      Triple (Clean project session start []) action (fun _ => Clean project session start [])
        fun _ _ => True :=
    triple.weaken (fun _ clean => clean) (fun _ _ clean => clean) fun _ _ _ => trivial
  have other {tool : String} (same : name = tool) (writes : tool ∉ readTools)
      {action : EngineM Response} : Triple (Clean project session start []) action
        (fun _ => Clean project session start []) fun _ _ => True :=
    absurd (same ▸ reads) writes
  exact .ite (fun _ => lasting (listFiles_clean args)) fun _ =>
    .ite (fun _ => lasting (listDecls_clean args)) fun _ =>
    .ite (fun same => other same (by decide)) fun _ => .ite (fun same => other same (by decide)) fun _ =>
    .ite (fun same => other same (by decide)) fun _ => .ite (fun same => other same (by decide)) fun _ =>
    .ite (fun _ => lasting (tryFragments_clean args)) fun _ =>
    .ite (fun same => other same (by decide)) fun _ =>
    .ite (fun _ => lasting (query_clean args)) fun _ => .throw fun _ _ => trivial

theorem dispatchProject_clean (reads : name ∈ readTools) :
    Triple (Clean project session start []) (dispatchProject project session name args)
      (fun _ => Clean project session start []) fun _ _ => True := by
  have clear {action : EngineM Unit} (stays : Stays Idle action) :
      Triple (Clean project session start []) action (fun _ => Clean project session start [])
        fun _ _ => True :=
    (Clean.idling stays).weaken (fun _ clean => clean) (fun _ _ clean => clean) fun _ _ _ => trivial
  refine .bind (clear rejectCancelled_idle) fun _ => ?_
  refine .through (fun changed world => Refreshed project changed world ∧
    Unseen project session start world) ?_ fun changed => ?_
  · exact (refreshProject_refreshed fun _ _ unobserved unseen =>
      Unseen.unobserved unseen unobserved).weaken (fun _ clean => ⟨clean.toServing, clean.toUnseen⟩)
        (fun _ _ holds => holds) fun _ _ _ => trivial
  · refine .bind (admitLayout_clean changed) fun _ => .bind (clear rejectCancelled_idle)
      fun _ => .bind (.attempt (dispatchAttached_clean reads)) fun result => ?_
    cases result with
    | ok response => exact .pure fun _ clean => clean
    | error error => exact Triple.bind .trivial fun _ => .bind .trivial fun _ => .throw fun _ _ => trivial

theorem dispatch_untouched (reads : name ∈ readTools) :
    Triple (Arriving touched session origin) (dispatch session name args)
      (fun _ => Untouched origin) fun _ _ => True := by
  refine .through (fun _ => Arriving touched session origin) ?_ fun _ => .ite (fun _ => ?_)
    fun _ => .ite (fun same => absurd same (read_regular reads)) fun _ => ?_
  · exact rejectCancelled_idle.kept fun _ _ idle arriving => arriving.idle idle
  · have checked {α : Type} (result : Except Error α) : Triple (Arriving touched session origin)
        (Act.ofExcept result) (fun _ => Arriving touched session origin) fun _ _ => True :=
      (Triple.ofExcept result).weaken (fun _ holds => holds) (fun _ _ holds => holds.1)
        fun _ _ _ => trivial
    exact .bind (checked _) fun _ => .bind (checked _) fun _ =>
      .pure fun _ arriving => arriving.untouched
  · refine .bind (.gets _) fun selected => .each_state ?_
    rintro world ⟨arriving, read⟩
    cases selected with
    | none => exact .throw fun _ _ => trivial
    | some project =>
      have own : Own project session world := ⟨by simp [World.attachedTo, ← read], arriving.used⟩
      have clean : Triple (Clean project session world []) (dispatchProject project session name args)
          (fun _ => Clean project session world []) _ := dispatchProject_clean reads
      refine clean.weaken ?_ (fun _ _ clean => arriving.untouched.trans clean.untouched)
        fun _ _ holds => holds
      rintro _ rfl
      exact arriving.toOrderly.clean own

end Adapter

/-- A request that only reads leaves no trace, whatever its result. -/
theorem Lawful.read_untouched (lawful : Lawful world) (used : session < world.connections)
    (reads : name ∈ Adapter.readTools) : Untouched world (world.request session name args).2 := by
  cases result : (world.request session name args).1 with
  | error error => exact lawful.untouched used result (.inl (Adapter.read_regular reads))
  | ok response =>
    have arriving : Arriving (world.Concerns session name) session (world.begin .active)
        (world.begin .active) := lawful.arriving used (fun _ selected => .inl selected) .active
    have begun : Untouched world (world.begin .active) := ⟨fun _ => rfl, fun _ => rfl, .refl _⟩
    exact begun.trans ((Adapter.dispatch_untouched reads).of_ok arriving result)

theorem Adapter.Explains.unmoved {before : Standing} {signal : Signal}
    {result : Except Error Response} {actions : List ProofAction}
    (explains : Explains before args signal name result actions)
    (reads : name ∈ readTools) : actions = [] := by
  cases explains <;> first | rfl | exact absurd reads (by decide)

theorem World.read_still (world : World) (reads : name ∈ Adapter.readTools) :
    (world.request session name args).2.standing = world.standing := by
  obtain ⟨actions, next, explains, ran, -, moved⟩ := world.request_explained session name args
  obtain rfl := explains.unmoved reads
  obtain rfl := Option.some.inj ran
  rw [moved, Function.update_eq_self]

end

/-- Any number of connections may read in any order, and nothing comes of it: no
id is used up, no selection moves, and no source file is written. -/
theorem World.reads_kept {world after : World} (reached : World.Reached world)
    (run : Reachable World.step (fun _ event => event.Reads) world after) :
    Untouched world after ∧ after.standing = world.standing := by
  have base : Untouched world world := ⟨fun _ => rfl, fun _ => rfl, .refl _⟩
  refine (run.invariant (fun after => Lawful after ∧ Untouched world after ∧
    after.standing = world.standing) ⟨reached.lawful, base, rfl⟩ ?_).2
  rintro between event next ⟨lawful, untouched, still⟩ reads moved
  refine ⟨(lawful.step moved).1, ?_⟩
  cases event with
  | connect =>
    obtain rfl := Option.some.inj moved
    exact ⟨untouched.trans ⟨fun _ => rfl, fun _ => rfl, .refl _⟩, still⟩
  | request session name args =>
    simp only [World.step] at moved
    split at moved
    · rename_i isOpen
      obtain rfl := Option.some.inj moved
      exact ⟨untouched.trans (lawful.read_untouched (World.isOpen_used isOpen) reads),
        (between.read_still reads).trans still⟩
    · cases moved
  | detach session => exact reads.elim
  | enter session committed => exact reads.elim
  | disconnect session => exact reads.elim
  | drop session => exact reads.elim

namespace Sharing

/-- Two connections read, PET dies under one of them, and the other one has its
state replayed. -/
def reading : List Event :=
  [.request 1 "try" (fragment "idtac."), .request 0 "try" (fragment "die."),
    .request 1 "query" (.object [("kind", .string "goals")]), .request 2 "list_files" (.object [])]

/-- The run goes through, and the first connection has lost its states. -/
def rereads (world : World) : Bool :=
  let states (world : World) (session : SessionId) : List PetStateId :=
    (world.selections session).checkpoints.states
  (execute World.step (fun _ event => event.Reads) world reading).any fun after =>
    states world 0 ≠ [] && states after 0 = [] && states after 1 ≠ states world 1

@[irreducible]
def readRun : { world : World // World.Reached world ∧ rereads world = true } :=
  World.reaching (environment none) sources sharing _ (by decide +kernel)

def read : World := readRun.val

end Sharing

theorem World.reads_kept_died : ∃ after,
    Reachable World.step (fun _ event => event.Reads) Sharing.read after ∧
      (after.selections 0).checkpoints.states ≠ (Sharing.read.selections 0).checkpoints.states ∧
      (after.selections 1).checkpoints.states ≠ (Sharing.read.selections 1).checkpoints.states ∧
      Untouched Sharing.read after ∧ after.standing = Sharing.read.standing := by
  obtain ⟨reached, facts⟩ := Sharing.readRun.property
  obtain ⟨after, run, facts⟩ := Reachable.run Sharing.reading _ facts
  simp only [Bool.and_eq_true, decide_eq_true_eq] at facts
  obtain ⟨⟨held, lost⟩, replayed⟩ := facts
  exact ⟨after, run, fun same => held (same.symm.trans lost), replayed,
    World.reads_kept reached run⟩

end RocqMcp
