import Mathlib.Data.List.Nodup
import RocqMcp.Adapter.Events
import RocqMcp.Library.Splice
import RocqMcp.Text

/-! What holds in the runs without certain mishaps, and a run of the server with
each of them. -/

namespace RocqMcp

open Library

namespace Mishap

def losesSilently : Mishap → Bool
  | .silentLoss _ => true
  | _ => false

/-- Sessions may be left with states that PET does not export. -/
def estranges : Mishap → Bool
  | .silentLoss _ | .boundaryMissed _ => true
  | _ => false

/-- Exported states get lost: those that PET does not release, and those that the
server forgets. -/
def refusesRelease : Mishap → Bool
  | .releaseRefused _ => true
  | _ => false

def leaks : Mishap → Bool
  | .silentLoss _ | .boundaryMissed _ | .releaseRefused _ | .clearedUnreleased _
  | .forgottenUnrefreshed _ | .restoreFailed _ => true
  | _ => false

def skipsBoundary : Mishap → Bool
  | .boundarySkipped _ | .boundaryMissed _ => true
  | _ => false

def readsStale : Mishap → Bool
  | .staleDocument _ => true
  | _ => false

end Mishap

/-- The event brings no such mishap about. -/
def World.Avoids (bad : Mishap → Bool) (world : World) (event : Event) : Prop :=
  ∀ after ∈ world.step event, ∀ mishap ∈ after.ghost.mishaps, bad mishap = true →
    world.Suffered mishap

instance (bad : Mishap → Bool) (world : World) (event : Event) :
    Decidable (world.Avoids bad event) := by
  unfold World.Avoids
  infer_instance

/-- The states of the runs whose events all avoid such mishaps. -/
def World.Spared (bad : Mishap → Bool) (world : World) : Prop :=
  ∃ environment sources outputs,
    Reachable World.step (World.Avoids bad) (World.initial environment sources outputs) world

/-- The end of a run without such mishaps. -/
def World.sparing (bad : Mishap → Bool) (environment : Environment)
    (sources : Path → Option Bytes) (events : List Event) (facts : World → Bool)
    (ran : (execute World.step (World.Avoids bad)
      (.initial environment sources fun _ => none) events).any facts = true) :
    { world : World // world.Spared bad ∧ facts world = true } :=
  let last := Reachable.run events facts ran
  ⟨last.val, ⟨environment, sources, fun _ => none, last.property.1⟩, last.property.2⟩

section

variable {bad : Mishap → Bool} {project : ProjectId} {world : World}

theorem World.Spared.reached (spared : world.Spared bad) : World.Reached world := by
  obtain ⟨environment, sources, outputs, run⟩ := spared
  exact ⟨environment, sources, outputs, run.weaken fun _ _ _ => trivial⟩

theorem World.Spared.unsuffered (spared : world.Spared bad) {mishap : Mishap}
    (named : bad mishap = true) : ¬ world.Suffered mishap := by
  obtain ⟨environment, sources, outputs, run⟩ := spared
  have none : ∀ mishap, bad mishap = true → ¬ world.Suffered mishap := by
    refine run.invariant (fun world => ∀ mishap, bad mishap = true → ¬ world.Suffered mishap)
      (fun _ _ => List.not_mem_nil) ?_
    intro before event after earlier avoids moved mishap named suffered
    exact earlier mishap named (avoids after moved mishap suffered named)
  exact none mishap named

/-! ### Stale states -/

/-- Every state that a session retains is one of the installed process of its
project. -/
def World.StatesLive (world : World) : Prop :=
  ∀ session, ∀ state ∈ (world.selections session).checkpoints.states, ∃ project process,
    (world.selections session).project = some project ∧ world.process project = some process ∧
      state ∈ process.exported

/-- The state of an attached session is held by its project. -/
theorem Lawful.holds (lawful : Lawful world) {session : SessionId}
    (selected : (world.selections session).project = some project) :
    (world.selections session).checkpoints.states ⊆ world.held project := by
  have used : session < world.connections := by
    by_contra beyond
    have unattached := lawful.unused session (Nat.le_of_not_lt beyond)
    rw [unattached] at selected
    cases selected
  have own : Own project session world := ⟨by simp [World.attachedTo, selected], used⟩
  intro state member
  exact (World.held_own own).mem_iff.mpr (List.mem_append_left _ member)

/-- No session retains a stale state, if no swallowed call drops a process and no
epoch boundary misses a closed connection that retains states. -/
theorem World.Spared.statesLive (spared : world.Spared Mishap.estranges) : world.StatesLive := by
  have lawful := spared.reached.lawful
  intro session state member
  cases selected : (world.selections session).project with
  | none =>
    rw [lawful.consistent.unattached session selected] at member
    cases member
  | some project =>
    have quiet : ¬ world.Astray project := fun astray =>
      astray.elim (spared.unsuffered rfl) (spared.unsuffered rfl)
    obtain ⟨stray, accounted, _⟩ := (lawful.owned project).accounted quiet
    have exported : state ∈ world.exports project :=
      accounted.mem_iff.mpr (List.mem_append_left _ (lawful.holds selected member))
    unfold World.exports at exported
    cases installed : world.process project with
    | none =>
      rw [installed] at exported
      cases exported
    | some process =>
      rw [installed] at exported
      exact ⟨project, process, rfl, installed, exported⟩

end

namespace Lossy

open Sharing (attach prove attempt)

/-- PET dies when it is asked to release states. -/
def outcome : PetCall → RpcOutcome
  | .releaseStates _ => .processLost "process exited"
  | call => .returned (Sample.answer call)

def environment : Environment :=
  { Sample.environment with tick := fun _ => { Sample.tick with rpc := outcome } }

/-- Two sessions prove the same declaration. -/
def sharing : List Event := [.connect, .connect, attach 0, attach 1, prove 0, prove 1]

/-- One of them disconnects. -/
def leaving : List Event := sharing ++ [.disconnect 1, .drop 1]

/-- The other session retains a state, and the process is gone. -/
def stranded (world : World) : Bool :=
  (world.selections 0).checkpoints.states ≠ [] && (world.process Sample.root).isNone &&
    (world.selections 0).project = some Sample.root

@[irreducible]
def leavingRun : { world : World // World.Reached world ∧ stranded world = true } :=
  World.reaching environment Sample.sources leaving stranded (by decide +kernel)

def left : World := leavingRun.val

theorem left_stale : ¬ left.StatesLive := by
  have facts : stranded left = true := leavingRun.property.2
  simp only [stranded, Bool.and_eq_true, decide_eq_true_eq] at facts
  obtain ⟨⟨retained, lost⟩, attached⟩ := facts
  intro current
  obtain ⟨state, member⟩ := List.exists_mem_of_ne_nil _ retained
  obtain ⟨project, process, selected, installed, _⟩ := current 0 state member
  obtain rfl := Option.some.inj (attached.symm.trans selected)
  rw [installed] at lost
  cases lost

def rebuilt : Layout :=
  { Sample.layout with
    petWorkspace := { Sample.layout.petWorkspace with
      loadPaths := [{ physical := ["q"], logical := { parts := [] }, implicit := true }] } }

/-- Dune's view changes once both sessions are in their proofs. -/
def rebuilding : Environment :=
  { Sample.environment with
    tick := fun now =>
      if now < 67 then Sample.tick
      else { Sample.tick with layout := .loaded Sample.root rebuilt, probe := some [2] } }

/-- A connection closes, and waits with its cell while the other one goes on in a
new epoch, whose process exports the same numbers. -/
def outliving : List Event :=
  sharing ++ [.disconnect 0, attempt 1 "idtac.", .drop 0]

/-- The other session retains a state of the project that is not exported. -/
def deprived (world : World) : Bool :=
  (world.selections 1).project = some Sample.root &&
    (world.selections 1).checkpoints.states.any fun state =>
      state ∉ world.exports Sample.root

@[irreducible]
def outlivingRun :
    { world : World // world.Spared Mishap.losesSilently ∧ deprived world = true } :=
  World.sparing _ rebuilding Sample.sources outliving deprived (by decide +kernel)

def outlived : World := outlivingRun.val

theorem outlived_stale : ¬ outlived.StatesLive := by
  have facts : deprived outlived = true := outlivingRun.property.2
  simp only [deprived, Bool.and_eq_true, decide_eq_true_eq, List.any_eq_true] at facts
  obtain ⟨attached, state, member, released⟩ := facts
  intro current
  obtain ⟨project, process, selected, installed, exported⟩ := current 1 state member
  obtain rfl := Option.some.inj (attached.symm.trans selected)
  exact released (by rwa [World.exports_of_process installed])

/-- PET dies unnoticed when a cell is dropped, or a cell that an epoch boundary has
missed releases the states of another session. -/
theorem stale : (World.Reached left ∧ ¬ left.StatesLive) ∧
    World.Spared Mishap.losesSilently outlived ∧ ¬ outlived.StatesLive :=
  ⟨⟨leavingRun.property.1, left_stale⟩, outlivingRun.property.1, outlived_stale⟩

/-- The other connection takes a step in the same epoch before the cell is dropped. -/
def parting : List Event := sharing ++ [.disconnect 1, Sample.check, .drop 1]

@[irreducible]
def partingRun : { world : World // world.Spared Mishap.estranges ∧
    decide (1 < (world.selections 0).checkpoints.states.length ∧
      (world.selections 1).project = none) = true } :=
  World.sparing _ Sample.environment Sample.sources parting _ (by decide +kernel)

def parted : World := partingRun.val

end Lossy

theorem World.Spared.statesLive_parting :
    1 < (Lossy.parted.selections 0).checkpoints.states.length ∧
      (Lossy.parted.selections 1).project = none ∧ Lossy.parted.StatesLive := by
  obtain ⟨retained, dropped⟩ := of_decide_eq_true Lossy.partingRun.property.2
  exact ⟨retained, dropped, World.Spared.statesLive Lossy.partingRun.property.1⟩

/-! ### Leaked states -/

section

variable {project : ProjectId} {world : World}

/-- The sessions of the project hold every exported state, each at one checkpoint. -/
def World.HeldOnce (world : World) (project : ProjectId) : Prop :=
  ∀ state ∈ world.exports project, ∃! place : SessionId × CheckpointId,
    (world.selections place.1).project = some project ∧
      (world.selections place.1).checkpoints.StateAt place.2 state

theorem World.exports_nodup (world : World) (project : ProjectId) :
    (world.exports project).Nodup := by
  unfold exports
  cases world.process project with
  | none => exact .nil
  | some process => exact process.distinct.of_map _

theorem CheckpointBook.exists_stateAt {book : CheckpointBook} {state : PetStateId}
    (member : state ∈ book.states) : ∃ id, book.StateAt id state := by
  unfold states at member
  cases active : book.proof with
  | none =>
    rw [active] at member
    cases member
  | some proof =>
    rw [active] at member
    obtain ⟨entry, present, held⟩ := List.mem_filterMap.mp member
    exact ⟨entry.1, entry.2, ProofSession.lookup_of_get? active (proof.get?_of_mem present), held⟩

/-- No two checkpoints of a book hold the same state. -/
theorem CheckpointBook.stateAt_unique {book : CheckpointBook} (distinct : book.states.Nodup)
    {state : PetStateId} {id other : CheckpointId} (at' : book.StateAt id state)
    (also : book.StateAt other state) : id = other := by
  obtain ⟨node, found, held⟩ := at'
  obtain ⟨node', found', held'⟩ := also
  cases active : book.proof with
  | none =>
    rw [CheckpointBook.lookup, active] at found
    cases found
  | some proof =>
    have present := proof.mem_of_get? (proof.of_lookup active found)
    have present' := proof.mem_of_get? (proof.of_lookup active found')
    simp only [states, active, ProofSession.states] at distinct
    by_contra different
    have symmetric : Std.Symm fun left right : CheckpointId × Checkpoint =>
        ∀ value, left.2.petState = some value → ∀ value', right.2.petState = some value' →
          value ≠ value' :=
      ⟨fun _ _ unequal value is value' is' => (unequal value' is' value is).symm⟩
    have apart := (List.pairwise_filterMap.mp distinct).forall present present' fun same =>
      different (congrArg Prod.fst same)
    exact apart state held state held' rfl

/-- Without a leak, every exported state is held by exactly one checkpoint of
exactly one session. -/
theorem World.Spared.heldOnce (spared : world.Spared Mishap.leaks) (project : ProjectId) :
    world.HeldOnce project := by
  have lawful := spared.reached.lawful
  have quiet : ¬ world.Astray project := fun astray =>
    astray.elim (spared.unsuffered rfl) (spared.unsuffered rfl)
  obtain ⟨stray, accounted, leaked⟩ := (lawful.owned project).accounted quiet
  have tight : stray = [] := by
    by_contra some
    rcases leaked some with noted | noted | noted | noted
    all_goals exact spared.unsuffered rfl noted
  rw [tight, List.append_nil] at accounted
  have distinct : (world.held project).Nodup :=
    accounted.nodup_iff.mp (world.exports_nodup project)
  obtain ⟨single, disjoint⟩ := List.nodup_flatMap.mp distinct
  intro state exported
  obtain ⟨session, present, member⟩ := List.mem_flatMap.mp (accounted.mem_iff.mp exported)
  obtain ⟨id, at'⟩ := CheckpointBook.exists_stateAt member
  have attached : (world.selections session).project = some project := by
    simpa [World.attachedTo] using (List.mem_filter.mp present).2
  refine ⟨(session, id), ⟨attached, at'⟩, ?_⟩
  rintro ⟨session', id'⟩ ⟨attached', also⟩
  have used : session' < world.connections := by
    by_contra beyond
    have unattached := lawful.unused session' (Nat.le_of_not_lt beyond)
    rw [unattached] at attached'
    cases attached'
  have present' : session' ∈ (List.range world.connections).filter (world.attachedTo project) :=
    List.mem_filter.mpr ⟨List.mem_range.mpr used, by simp [World.attachedTo, attached']⟩
  have same : session' = session := by
    by_contra different
    have symmetric : Std.Symm (Function.onFun List.Disjoint fun session =>
        (world.selections session).checkpoints.states) :=
      ⟨fun _ _ separate _ first second => separate second first⟩
    exact disjoint.forall present' present different also.mem_states member
  subst same
  exact Prod.ext rfl (CheckpointBook.stateAt_unique (single session' present') also at')

end

@[irreducible]
def Lossy.releasedRun : { world : World // world.Spared Mishap.leaks ∧
    decide (1 < (world.exports Sample.root).length ∧ (world.selections 1).project = none) = true } :=
  World.sparing _ Sample.environment Sample.sources Lossy.parting _ (by decide +kernel)

def Lossy.released : World := Lossy.releasedRun.val

theorem World.Spared.heldOnce_parting :
    1 < (Lossy.released.exports Sample.root).length ∧ (Lossy.released.selections 1).project = none ∧
      Lossy.released.HeldOnce Sample.root := by
  obtain ⟨exported, dropped⟩ := of_decide_eq_true Lossy.releasedRun.property.2
  exact ⟨exported, dropped, World.Spared.heldOnce Lossy.releasedRun.property.1 Sample.root⟩

namespace Finishing

/-- The lemma behind a comment. -/
def movedText : String := "(* t *)\nLemma t : True.\nProof.\nAdmitted.\n"

def publishedText : String := "Lemma t : True.\nProof.\nidtac.\nQed.\n\n"

/-- What PET lists for each text of the document. -/
def listing (text : String) : List PetDeclaration :=
  if text = Sample.text then [Sample.row]
  else if text = movedText then
    [{ Sample.row with
      range := { start := 8, stop := 23 }
      declarationRange := { start := 8, stop := 40 } }]
  else if text = publishedText then
    [{ Sample.row with
      declarationRange := { start := 0, stop := 34 }
      proofFinished := true }]
  else []

/-- PET accepts every fragment, and the terminator closes the proof. -/
def answer (text : String) : PetCall → PetReply Unit
  | .documentDeclarations _ => .declarations (listing text)
  | .runTrace _ _ _ => .traceSuccess () true
  | .run _ _ => .run () true (some "")
  | .goals state =>
    if state.value = 3 then .null else .goals { PetGoals.outsideProof with proofMode := true }
  | call => Sample.answer call

/-- A server on which another program makes these edits, and where the builds
copy the given text, which is the one that PET reads. -/
def environment (edits : Nat → List Edit) (copied : Nat → String) : Environment :=
  { Sample.environment with
    tick := fun now =>
      { Sample.tick with
        rpc := fun call => .returned (answer (copied now) call)
        outputs := [(["p", "_build", "default", "A.v"], some (textBytes (copied now)))]
        edits := edits now } }

def finishing : List Event := [.connect, Sample.attach, Sample.prove, Sample.check]

def overwriteAt (at' : Nat) (text : String) (now : Nat) : List Edit :=
  if now = at' then [{ path := ["p", "A.v"], content := some (textBytes text) }] else []

/-- The source is edited when the step is accepted and not yet published. -/
def emptied : Environment := environment (overwriteAt 62 "") fun _ => Sample.text

/-- The proof is forgotten, but PET still holds its states. -/
def orphaned (world : World) : Bool :=
  world.exports Sample.root ≠ [] && world.held Sample.root = []

@[irreducible]
def emptiedRun : { world : World // world.Spared Mishap.refusesRelease ∧ orphaned world = true } :=
  World.sparing _ emptied Sample.sources finishing _ (by decide +kernel)

def abandoned : World := emptiedRun.val

theorem leaked : World.Spared Mishap.refusesRelease abandoned ∧
    ¬ abandoned.HeldOnce Sample.root := by
  obtain ⟨spared, facts⟩ := emptiedRun.property
  simp only [orphaned, Bool.and_eq_true, decide_eq_true_eq] at facts
  obtain ⟨exported, forgotten⟩ := facts
  refine ⟨spared, fun once => ?_⟩
  obtain ⟨state, member⟩ := List.exists_mem_of_ne_nil _ exported
  obtain ⟨⟨session, id⟩, ⟨selected, at'⟩, _⟩ := once state member
  have held := spared.reached.lawful.holds selected at'.mem_states
  rw [forgotten] at held
  cases held

end Finishing

/-! ### Changed environments -/

section

variable {project : ProjectId} {world : World}

/-- The process has been started or refreshed in the request of the last change
or after it, and the sessions hold newer states only. -/
def World.Renewed (world : World) (project : ProjectId) : Prop :=
  ∀ change ∈ world.ghost.changed project,
    (∀ process ∈ world.process project, change.began ≤ process.epoch) ∧
      ∀ session, (world.selections session).project = some project →
        ∀ state ∈ (world.selections session).checkpoints.states, change.at' ≤ state.exportedAt

/-- If no fingerprint fails after a changed one was recorded in the same request,
and no boundary misses a closed connection that retains states, a change is always
the boundary of an epoch. -/
theorem World.Spared.renewed (spared : world.Spared Mishap.skipsBoundary) (project : ProjectId) :
    world.Renewed project := by
  have lawful := spared.reached.lawful
  have bounded : ¬ world.Bypassed project := fun bypassed =>
    bypassed.elim (spared.unsuffered rfl) (spared.unsuffered rfl)
  intro change recorded
  obtain ⟨_, _, started, newer⟩ := (lawful.owned project).stamped bounded change recorded
  exact ⟨started, fun session selected state member =>
    newer state (lawful.holds selected member)⟩

end

namespace TwoFiles

/-- A later build changes the first artifact; `fails` is when a file cannot be read. -/
def environment (fails : Option Nat) : Environment :=
  { Sample.environment with
    tick := fun now =>
      { Sample.tick with
        layout := .loaded Sample.root Sample.twoFiles
        candidate := true
        outputs := [(["p", "_build", "default", "A.v"], some (textBytes Sample.text)),
          (["p", "_build", "default", "A.vo"], some [if now < 42 then 0 else 1])]
        fault := fails = some now } }

def locate : Event :=
  .request 0 "query" (.object [("kind", .string "locate_symbol"), ("symbol", .string "t")])

def locating : List Event := [.connect, Sample.attach, Sample.prove, locate]

/-- The process is older than the request that recorded the last change. -/
def outlived (world : World) : Bool :=
  (world.ghost.changed Sample.root).any fun change =>
    (world.process Sample.root).any fun process => process.epoch < change.began

/-- The second source cannot be read after the first artifact has changed. -/
@[irreducible]
def locatingRun : { world : World // World.Reached world ∧ outlived world = true } :=
  World.reaching (environment (some 58)) Sample.twoSources locating _ (by decide +kernel)

def located : World := locatingRun.val

theorem unrenewed : World.Reached located ∧ ¬ located.Renewed Sample.root := by
  obtain ⟨reached, older⟩ := locatingRun.property
  refine ⟨reached, fun renewed => ?_⟩
  obtain ⟨change, recorded, older⟩ := (Option.any_eq_true _ _).mp older
  obtain ⟨process, installed, older⟩ := (Option.any_eq_true _ _).mp older
  have started := (renewed change recorded).1 process installed
  exact absurd (of_decide_eq_true older) (Nat.not_lt_of_le started)

@[irreducible]
def boundedRun : { world : World // world.Spared Mishap.skipsBoundary ∧
    (world.ghost.changed Sample.root).isSome = true } :=
  World.sparing _ (environment none) Sample.twoSources locating _ (by decide +kernel)

def bounded : World := boundedRun.val

end TwoFiles

theorem World.Spared.renewed_locating :
    (TwoFiles.bounded.ghost.changed Sample.root).isSome = true ∧
      TwoFiles.bounded.Renewed Sample.root :=
  ⟨TwoFiles.boundedRun.property.2,
    World.Spared.renewed TwoFiles.boundedRun.property.1 Sample.root⟩

section

variable {project : ProjectId} {world : World}

/-! ### Anchors -/

/-- The ranges are applied to bytes with the digest of the anchor, and so has the
document on which PET computed them: unless digests collide, it is the same. -/
def World.Anchored (world : World) (splice : Splice) : Prop :=
  world.digest splice.original = splice.anchor.digest ∧
    world.digest splice.anchor.document = splice.anchor.digest ∧
      (Function.Injective world.environment.sha256 → splice.anchor.document = splice.original)

/-- If Rust always reads the bytes of the document that PET has read, ranges are
applied only where they were computed. -/
theorem World.Spared.anchored (spared : world.Spared Mishap.readsStale) :
    ∀ splice ∈ world.ghost.splices, world.Anchored splice := by
  intro splice member
  obtain ⟨original, same | stale⟩ := spared.reached.lawful.consistent.spliced splice member
  · exact ⟨original, same, fun injective => injective (same.trans original.symm)⟩
  · exact absurd stale (spared.unsuffered rfl)

end

namespace Finishing

/-- What the publication of the misplaced ranges leaves. -/
def misplacedText : String := "(* t *)\nLemma t.\nProof.\nidtac.\nQed.\ndmitted.\n"

/-- The declaration is moved when it has been built and not yet been read: the
later builds copy the moved text, and the published one until it is rolled back. -/
def edited : Environment :=
  environment (overwriteAt 25 movedText) fun now =>
    if now < 47 then Sample.text
    else if 83 ≤ now && now < 93 then misplacedText else movedText

/-- The ranges of the old text are applied to the new one. -/
def misplaced (world : World) : Bool :=
  world.ghost.splices.any fun splice =>
    let header (bytes : Bytes) : Bytes :=
      slice bytes splice.anchor.header.start splice.anchor.header.stop
    world.digest splice.original = splice.anchor.digest &&
      header splice.anchor.document = textBytes "Lemma t : True." &&
        header splice.original = textBytes "(* t *)\nLemma t"

@[irreducible]
def editedRun : { world : World // World.Reached world ∧ misplaced world = true } :=
  World.reaching edited Sample.sources finishing _ (by decide +kernel)

def misapplied : World := editedRun.val

theorem misapplied_splice : World.Reached misapplied ∧ ∃ splice ∈ misapplied.ghost.splices,
    misapplied.digest splice.original = splice.anchor.digest ∧
      splice.anchor.document ≠ splice.original ∧
      slice splice.anchor.document splice.anchor.header.start splice.anchor.header.stop =
        textBytes "Lemma t : True." ∧
      slice splice.original splice.anchor.header.start splice.anchor.header.stop =
        textBytes "(* t *)\nLemma t" := by
  obtain ⟨reached, found⟩ := editedRun.property
  obtain ⟨splice, member, differs⟩ := List.any_eq_true.mp found
  simp only [Bool.and_eq_true, decide_eq_true_eq] at differs
  obtain ⟨⟨digest, listed⟩, applied⟩ := differs
  refine ⟨reached, splice, member, digest, fun same => ?_, listed, applied⟩
  rw [same, applied] at listed
  exact absurd (textBytes_inj listed) (by decide)

/-- No other program interferes. -/
def alone : Environment :=
  environment (fun _ => []) fun now =>
    if 70 ≤ now && now < 86 then publishedText else Sample.text

@[irreducible]
def aloneRun : { world : World // world.Spared Mishap.readsStale ∧
    decide (world.ghost.splices ≠ []) = true } :=
  World.sparing _ alone Sample.sources finishing _ (by decide +kernel)

def undisturbed : World := aloneRun.val

end Finishing

theorem World.Spared.anchored_finishing :
    Finishing.undisturbed.ghost.splices ≠ [] ∧
      ∀ splice ∈ Finishing.undisturbed.ghost.splices, Finishing.undisturbed.Anchored splice :=
  ⟨of_decide_eq_true Finishing.aloneRun.property.2,
    World.Spared.anchored Finishing.aloneRun.property.1⟩

end RocqMcp
