import RocqMcp.Adapter.Custody
import RocqMcp.Adapter.Tools

/-! Epoch boundaries: a changed layout or a changed artifact ends every state of
the project before the request goes on. -/

namespace RocqMcp

open Library

theorem ProofSession.mapNodes_topology (proof : ProofSession)
    (change : CheckpointId → Checkpoint → Checkpoint)
    (edges : ∀ id node, (change id node).edge = node.edge)
    (finished : ∀ id node, (change id node).finished = node.finished) :
    (proof.mapNodes change edges).topology = proof.topology := by
  simp only [topology, mapNodes, List.map_map, Prod.mk.injEq, true_and]
  apply List.map_congr_left
  intro entry _
  simp [edges, finished]

theorem CheckpointBook.mapNodes_topology (book : CheckpointBook)
    (change : CheckpointId → Checkpoint → Checkpoint)
    (edges : ∀ id node, (change id node).edge = node.edge)
    (finished : ∀ id node, (change id node).finished = node.finished) :
    (book.mapNodes change edges).topology = book.topology := by
  simp only [topology, mapNodes, Option.map_map]
  congr 1
  funext proof
  exact proof.mapNodes_topology change edges finished

theorem CheckpointBook.invalidateStates_states (book : CheckpointBook) :
    book.invalidateStates.states = [] := by
  cases active : book.proof with
  | none => simp [states, invalidateStates, mapNodes, active]
  | some proof =>
    simp [states, invalidateStates, mapNodes, active, ProofSession.states, ProofSession.mapNodes]

theorem CheckpointBook.invalidateStates_sound (book : CheckpointBook) {world : World}
    (sound : ∀ proof ∈ book.proof, proof.Sound world) :
    ∀ proof ∈ book.invalidateStates.proof, proof.Sound world := by
  intro proof active
  obtain ⟨old, present, rfl⟩ := Option.map_eq_some_iff.mp active
  refine ⟨(sound old present).coherent, ?_, ?_⟩
  · intro entry member
    obtain ⟨earlier, present', rfl⟩ := List.mem_map.mp member
    exact (sound old present).views earlier present'
  · intro id node state found held
    obtain ⟨earlier, -, rfl⟩ :=
      Option.map_eq_some_iff.mp ((old.get?_mapNodes _ _).symm.trans found)
    cases held

namespace World

variable {world : World} {project : ProjectId} {session : SessionId}

theorem invalidate_selection (world : World) (project : ProjectId) (session other : SessionId) :
    ((world.invalidateProjectStates project session).selections other).project =
      (world.selections other).project := by
  simp only [invalidateProjectStates]
  split <;> rfl

theorem invalidate_attachedTo (world : World) (project other : ProjectId)
    (session session' : SessionId) :
    (world.invalidateProjectStates project session).attachedTo other session' =
      world.attachedTo other session' := by
  rw [attachedTo, invalidate_selection, attachedTo]

theorem invalidate_mishaps (world : World) (project : ProjectId) (session : SessionId)
    (mishap : Mishap) (suffered : world.Suffered mishap) :
    (world.invalidateProjectStates project session).Suffered mishap :=
  List.mem_append_right _ suffered

/-- The cells that a boundary misses hold nothing, if no closed connection waits. -/
theorem closing_states (calm : world.waiting project = false)
    (used : session < world.connections) (closing : world.closing session = true)
    (attached : world.attachedTo project session = true) :
    (world.selections session).checkpoints.states = [] := by
  by_contra retained
  have waits : world.waiting project = true :=
    List.any_eq_true.mpr ⟨session, List.mem_range.mpr used, by simp [closing, attached, retained]⟩
  rw [calm] at waits
  cases waits

/-- Nobody holds a state of the project any more, or a closed connection was missed. -/
theorem forgotten_invalidated (world : World) (project : ProjectId) (session : SessionId) :
    (world.invalidateProjectStates project session).Forgotten project := by
  cases waits : world.waiting project with
  | true =>
    right
    simp [Suffered, invalidateProjectStates, waits]
  | false =>
    left
    unfold held
    rw [List.flatMap_eq_nil_iff]
    intro other member
    obtain ⟨used, attached⟩ := List.mem_filter.mp member
    rw [invalidate_attachedTo] at attached
    simp only [invalidateProjectStates, attached, Bool.true_and]
    split
    · exact CheckpointBook.invalidateStates_states _
    · rename_i kept
      have closing : world.closing other = true := by
        simp only [Bool.or_eq_true, not_or, Bool.not_eq_true'] at kept
        simpa using kept.2
      exact closing_states waits (List.mem_range.mp used) closing attached

/-- The other projects keep what they hold. -/
theorem held_invalidated_other (attached : world.attachedTo project session = true)
    (other : ProjectId) (different : other ≠ project) :
    (world.invalidateProjectStates project session).held other = world.held other := by
  refine held_congr rfl (fun session' => invalidate_attachedTo ..) fun session' member => ?_
  have elsewhere : world.attachedTo project session' = false := by
    simp only [attachedTo, decide_eq_true_eq, decide_eq_false_iff_not] at member ⊢
    intro here
    exact different (Option.some.inj (member.symm.trans here))
  have stranger : session' ≠ session := by
    rintro rfl
    simp [elsewhere] at attached
  simp [invalidateProjectStates, stranger, elsewhere]

theorem invalidate_untouched (world : World) (project : ProjectId) (session : SessionId) :
    Untouched world (world.invalidateProjectStates project session) where
  attached session' := invalidate_selection ..
  topology session' := by
    simp only [invalidateProjectStates]
    split
    · exact CheckpointBook.mapNodes_topology _ _ _ fun _ _ => rfl
    · rfl
  written := .refl _

end World

section

variable {project : ProjectId} {session : SessionId} {start world after : World}
  {temps temps' states : List PetStateId}

theorem Consistent.invalidated (consistent : Consistent world) (project : ProjectId)
    (session : SessionId) : Consistent (world.invalidateProjectStates project session) := by
  refine consistent.framed rfl (world.invalidate_mishaps project session) rfl rfl (.of_same rfl)
    ?_ ?_
  · intro session' proof active
    simp only [World.invalidateProjectStates] at active
    split at active
    · exact CheckpointBook.invalidateStates_sound _ (consistent.proofs session') proof active
    · exact consistent.proofs session' proof active
  · intro session' alone
    rw [World.invalidate_selection] at alone
    simp only [World.invalidateProjectStates]
    split
    · exact CheckpointBook.invalidateStates_states _
    · exact consistent.unattached session' alone

theorem Adrift.invalidated (adrift : Adrift project world)
    (attached : world.attachedTo project session = true) :
    Adrift project (world.invalidateProjectStates project session) where
  consistent := adrift.consistent.invalidated project session
  begun := adrift.begun
  others := adrift.keepsOthers (fun _ _ => rfl) (World.held_invalidated_other attached)
    (Nat.le_refl _) (world.invalidate_mishaps project session) fun _ _ => rfl
  bounded spared := adrift.bounded fun bypassed =>
    spared (bypassed.mono (world.invalidate_mishaps project session))

theorem Within.invalidated (attached : world.attachedTo project session = true) :
    Within project session world (world.invalidateProjectStates project session) where
  connections := rfl
  others _ _ := rfl
  attached _ := World.invalidate_selection ..
  elsewhere other different away := by
    simp [World.invalidateProjectStates, different, away]
  siblings other different := by
    simp only [World.invalidateProjectStates, different, decide_false, Bool.false_or]
    split
    · exact .inr rfl
    · exact .inl rfl
  grown := by
    simp only [World.invalidateProjectStates, attached, decide_true, Bool.true_or, if_true]
    exact .invalidateStates _

theorem Bound.invalidated (bound : Bound project session start world) :
    Bound project session start (world.invalidateProjectStates project session) :=
  bound.step (.invalidated bound.own.attached)

theorem Unseen.invalidated (unseen : Unseen project session start world) :
    Unseen project session start (world.invalidateProjectStates project session) :=
  unseen.step (.invalidated unseen.own.attached) (world.invalidate_untouched project session)

/-- What was held becomes temporary when the sessions forget it. -/
theorem Serving.invalidated (serving : Serving project temps world)
    (attached : world.attachedTo project session = true) :
    Serving project (temps ++ world.held project)
      (world.invalidateProjectStates project session) where
  toAdrift := serving.toAdrift.invalidated attached
  owned := by
    rw [(world.forgotten_invalidated project session).owned]
    exact serving.owned.framed rfl rfl (Nat.le_refl _) (world.invalidate_mishaps project session) rfl

/-- Where the process is gone and nobody holds a state, all is accounted for. -/
theorem Adrift.serving (adrift : Adrift project world) (absent : world.process project = none)
    (forgotten : world.Forgotten project) : Serving project [] world where
  toAdrift := adrift
  owned := forgotten.owned.mpr
    { settled := fun _ exporting => absurd (World.exports_of_absent absent) exporting
      accounted := fun _ => ⟨[], by simp [World.exports_of_absent absent], by simp⟩
      stamped := by
        intro spared change recorded
        obtain ⟨began, changed⟩ := adrift.bounded spared change recorded
        exact ⟨began, changed, by simp [absent], by simp⟩ }

theorem Adrift.discarded (adrift : Adrift project world) :
    Adrift project (world.setActor project {}) :=
  adrift.calm (world.setActor_calm {} (by simp))

namespace Adapter

theorem restart_adrift {failed : ε → World → Prop} :
    Triple (fun world => Adrift project world ∧ Unseen project session start world)
      (PetActor.restart project)
      (fun _ world => Adrift project world ∧ world.process project = none ∧
        Unseen project session start world) failed := by
  rintro world ⟨adrift, unseen⟩
  exact ⟨adrift.discarded, World.process_setActor _ _,
    unseen.calm (world.setActor_calm {} (by simp))⟩

/-- Without a process, forgetting all states leaves nothing to account for. -/
theorem invalidate_clean {failed : ε → World → Prop} :
    Triple (fun world => Adrift project world ∧ world.process project = none ∧
        Unseen project session start world) (invalidateProjectStates project session)
      (fun _ => Clean project session start []) failed := by
  rintro world ⟨adrift, absent, unseen⟩
  exact ⟨(adrift.invalidated unseen.own.attached).serving absent (World.forgotten_invalidated ..),
    unseen.invalidated⟩

theorem epochBoundary_clean {failed : ε → World → Prop} :
    Triple (fun world => Adrift project world ∧ Unseen project session start world)
      (epochBoundary project session) (fun _ => Clean project session start []) failed :=
  .bind restart_adrift fun _ => invalidate_clean

end Adapter

theorem Consistent.sameSessions (consistent : Consistent world)
    (selections : after.selections = world.selections)
    (environment : after.environment = world.environment)
    (mishaps : after.ghost.mishaps = world.ghost.mishaps)
    (splices : after.ghost.splices = world.ghost.splices)
    (submissions : after.ghost.submissions = world.ghost.submissions)
    (turns : after.ghost.turns = world.ghost.turns) : Consistent after :=
  consistent.framed environment
    (fun mishap suffered => by rw [World.Suffered, mishaps]; exact suffered) splices submissions
    (.of_same turns) (by rw [selections]; exact consistent.proofs)
    (by rw [selections]; exact consistent.unattached)

theorem Adrift.setRuntime (adrift : Adrift project world) (runtime : ProjectRuntime) :
    Adrift project (world.setRuntime project runtime) where
  consistent := adrift.consistent.sameSessions rfl rfl rfl rfl rfl rfl
  begun := adrift.begun
  others := adrift.keepsOthers
    (fun other different => by simp [World.setRuntime, Function.update_of_ne different])
    (fun other _ => World.held_selections other rfl rfl) (Nat.le_refl _)
    (fun _ suffered => suffered) fun _ _ => rfl
  bounded := adrift.bounded

theorem Adrift.recordChange (adrift : Adrift project world) :
    Adrift project (world.recordChange project) where
  consistent := adrift.consistent.sameSessions rfl rfl rfl rfl rfl rfl
  begun := adrift.begun
  others := adrift.keepsOthers (fun _ _ => rfl)
    (fun other _ => World.held_selections other rfl rfl) (Nat.le_refl _)
    (fun _ suffered => suffered)
    fun other different => by simp [World.recordChange, Function.update_of_ne different]
  bounded _ change recorded := by
    simp only [World.recordChange, Function.update_self, Option.mem_def, Option.some.injEq]
      at recorded
    subst recorded
    exact ⟨adrift.begun, Nat.le_refl _⟩

theorem World.setRuntime_unobserved (world : World) (runtime : ProjectRuntime) :
    Unobserved project world (world.setRuntime project runtime) where
  selections := rfl
  connections := rfl
  others _ different := Function.update_of_ne different _ _
  journal := ⟨[], rfl, by simp⟩

theorem World.recordChange_unobserved (world : World) :
    Unobserved project world (world.recordChange project) :=
  ⟨rfl, rfl, fun _ _ => rfl, [], rfl, by simp⟩

theorem Unobserved.trans (first : Unobserved project start world)
    (second : Unobserved project world after) : Unobserved project start after where
  selections := second.selections.trans first.selections
  connections := second.connections.trans first.connections
  others other different := (second.others other different).trans (first.others other different)
  journal := by
    obtain ⟨early, grown, external⟩ := first.journal
    obtain ⟨late, grown', external'⟩ := second.journal
    refine ⟨late ++ early, by rw [grown', grown, List.append_assoc], ?_⟩
    intro write member
    rcases List.mem_append.mp member with new | old
    · exact external' write new
    · exact external write old

/-- Changing the artifacts of a runtime does not concern its PET. -/
theorem Serving.setArtifacts (serving : Serving project temps world)
    (artifacts : FileId → Option ArtifactFingerprint) :
    Serving project temps
      (world.setRuntime project { world.projects project with artifacts }) where
  toAdrift := serving.toAdrift.setRuntime _
  owned := by
    rw [World.held_selections project rfl rfl]
    exact serving.owned.framed (by simp [World.actor, World.setRuntime])
      (by simp [World.layout, World.setRuntime]) (Nat.le_refl _) (fun _ suffered => suffered) rfl

/-- A change since the mark, while sessions still hold states from before it. -/
structure Dirty (project : ProjectId) (mark : Nat) (world : World) : Prop
    extends Adrift project world where
  accounted : Accounted project (world.held project) world
  changed : world.changedSince project mark = true

/-- Between two files of a loop that accumulates its boundary. -/
def Reconciling (project : ProjectId) (session : SessionId) (start : World) (mark : Nat)
    (boundary : Bool) (world : World) : Prop :=
  mark ≤ world.now ∧ Unseen project session start world ∧
    (Serving project [] world ∨ (Dirty project mark world ∧ boundary = true))

theorem Dirty.meanwhile (dirty : Dirty project mark world) (idle : Idle world after) :
    Dirty project mark after where
  toAdrift := dirty.toAdrift.calm (idle.calm project)
  accounted := by
    rw [(idle.calm project).held]
    exact dirty.accounted.framed (by rw [World.actor, idle.projects, World.actor])
      (by rw [World.layout, idle.projects, World.layout]) idle.mishaps
  changed := by
    rw [World.changedSince, idle.changed]
    exact dirty.changed

theorem Serving.idle (serving : Serving project temps world) (idle : Idle world after) :
    Serving project temps after :=
  serving.calm (⟨idle.calm project, nofun, serving.owned.idle idle⟩ :
    Holding project world false _ after)

theorem Reconciling.idle {boundary : Bool} {mark : Nat}
    (reconciling : Reconciling project session start mark boundary world) (idle : Idle world after) :
    Reconciling project session start mark boundary after := by
  obtain ⟨early, unseen, state⟩ := reconciling
  refine ⟨Nat.le_trans early idle.now, unseen.calm (idle.calm project), ?_⟩
  exact state.imp (fun serving => serving.idle idle) fun ⟨dirty, told⟩ => ⟨dirty.meanwhile idle, told⟩

/-- A skipped boundary ends the claim on the stamps. -/
theorem Dirty.skipped (dirty : Dirty project mark world)
    (noted : world.Suffered (.boundarySkipped project)) : Serving project [] world where
  toAdrift := dirty.toAdrift
  owned := { toAccounted := dirty.accounted, stamped := fun spared => absurd (.inl noted) spared }

theorem Dirty.setArtifacts (dirty : Dirty project mark world)
    (artifacts : FileId → Option ArtifactFingerprint) :
    Dirty project mark (world.setRuntime project { world.projects project with artifacts }) where
  toAdrift := dirty.toAdrift.setRuntime _
  accounted := by
    rw [World.held_selections project rfl rfl]
    exact dirty.accounted.framed (by simp [World.actor, World.setRuntime])
      (by simp [World.layout, World.setRuntime]) fun _ suffered => suffered
  changed := dirty.changed

/-- A recorded change makes every state of the project an old one. -/
theorem Adrift.dirty (adrift : Adrift project world)
    (accounted : Accounted project (world.held project) world) (late : mark ≤ world.now) :
    Dirty project mark (world.recordChange project) where
  toAdrift := adrift.recordChange
  accounted := by
    rw [World.held_selections project rfl rfl]
    exact accounted.framed rfl rfl fun _ suffered => suffered
  changed := by simp [World.changedSince, World.recordChange, late]

theorem Reconciling.accounted {boundary : Bool} {mark : Nat}
    (reconciling : Reconciling project session start mark boundary world) :
    Adrift project world ∧ Accounted project (world.held project) world := by
  obtain ⟨_, _, serving | ⟨dirty, _⟩⟩ := reconciling
  · exact ⟨serving.toAdrift, serving.owned.toAccounted⟩
  · exact ⟨dirty.toAdrift, dirty.accounted⟩

theorem Reconciling.setArtifacts {boundary : Bool} {mark : Nat}
    (reconciling : Reconciling project session start mark boundary world)
    (artifacts : FileId → Option ArtifactFingerprint) :
    Reconciling project session start mark boundary
      (world.setRuntime project { world.projects project with artifacts }) := by
  obtain ⟨early, unseen, state⟩ := reconciling
  refine ⟨early, unseen.unobserved (world.setRuntime_unobserved _), ?_⟩
  exact state.imp (fun serving => serving.setArtifacts artifacts)
    fun ⟨dirty, told⟩ => ⟨dirty.setArtifacts artifacts, told⟩

theorem Reconciling.wider {boundary more : Bool} {mark : Nat}
    (reconciling : Reconciling project session start mark boundary world)
    (implied : boundary = true → more = true) :
    Reconciling project session start mark more world := by
  obtain ⟨early, unseen, state⟩ := reconciling
  exact ⟨early, unseen, state.imp_right fun ⟨dirty, told⟩ => ⟨dirty, implied told⟩⟩

namespace Adapter

/-- A changed fingerprint is a change since the mark. -/
theorem recordArtifact_reconciling {boundary : Bool} {mark : Nat} (file : FileId)
    (fingerprint : ArtifactFingerprint) (cached : Option ArtifactFingerprint)
    {failed : ε → World → Prop} :
    Triple (fun world => Reconciling project session start mark boundary world ∧
        cached = (world.projects project).artifacts file) (recordArtifact project file fingerprint)
      (fun _ => Reconciling project session start mark
        (boundary || cached.any fun previous => previous ≠ fingerprint)) failed := by
  rintro world ⟨reconciling, rfl⟩
  have recorded := reconciling.setArtifacts
    (Function.update (world.projects project).artifacts file (some fingerprint))
  simp only [recordArtifact, Act.modify]
  split
  · rename_i changed
    obtain ⟨adrift, accounted⟩ := recorded.accounted
    obtain ⟨early, unseen, _⟩ := recorded
    refine ⟨early, unseen.unobserved (World.recordChange_unobserved _),
      .inr ⟨adrift.dirty accounted early, ?_⟩⟩
    rw [changed, Bool.or_true]
  · rename_i same
    rw [Bool.eq_false_iff.mpr same, Bool.or_false]
    exact recorded

/-- A file whose fingerprint cannot be read skips the boundary of earlier ones. -/
theorem noteSkipped_clean {boundary skipping : Bool} {mark : Nat} {failed : ε → World → Prop} :
    Triple (fun world => Reconciling project session start mark boundary world ∧
        skipping = world.changedSince project mark)
      (noteWhen skipping (.boundarySkipped project))
      (fun _ => Clean project session start []) failed := by
  have idle := @noteWhen_idle ε skipping (.boundarySkipped project)
  rintro world ⟨reconciling, read⟩
  obtain ⟨_, unseen, state⟩ := reconciling.idle (idle world)
  have seen : (noteWhen skipping (.boundarySkipped project) : Act World ε Unit) world =
      (.ok (), ((noteWhen skipping (.boundarySkipped project) : Act World ε Unit) world).2) := by
    cases skipping <;> rfl
  rw [seen]
  rcases state with serving | ⟨dirty, _⟩
  · exact ⟨serving, unseen⟩
  · have changed : skipping = true := by
      rw [read, World.changedSince, ← (idle world).changed]
      exact dirty.changed
    subst changed
    exact ⟨dirty.skipped List.mem_cons_self, unseen⟩

/-- The fingerprint before the build, with the boundary that its failure skips. -/
def FingerprintRead (project : ProjectId) (session : SessionId) (start : World) (mark : Nat)
    (boundary : Bool) (fingerprint : Except Error ArtifactFingerprint) (world : World) : Prop :=
  match fingerprint with
  | .ok _ => Reconciling project session start mark boundary world
  | .error error => Clean project session start [] world ∧ error.Mild

theorem noteFingerprint_read {boundary skipping : Bool} {mark : Nat}
    (fingerprint : Except Error ArtifactFingerprint) {failed : ε → World → Prop} :
    Triple (fun world => (Reconciling project session start mark boundary world ∧
        skipping = world.changedSince project mark) ∧ MildResult fingerprint)
      (noteWhen (skipping && !fingerprint.isOk) (.boundarySkipped project))
      (fun _ => FingerprintRead project session start mark boundary fingerprint) failed := by
  refine .assume fun mild => ?_
  cases fingerprint with
  | ok before => exact noteWhen_keeps fun _ _ idle holds => holds.1.idle idle
  | error error =>
    rw [show (skipping && !(Except.error error : Except Error ArtifactFingerprint).isOk) = skipping by
      simp [Except.isOk, Except.toBool]]
    exact noteSkipped_clean.weaken (fun _ holds => holds)
      (fun _ _ clean => ⟨clean, mild error rfl⟩) fun _ _ holds => holds

/-- An operation that touches no runtime, and whose error is examined. -/
theorem attempt_idle {action : EngineM α} {keeps : World → Prop} {failed : ε → World → Prop}
    (stable : ∀ world world', Idle world world' → keeps world → keeps world')
    (stays : Stays Idle action) (throws : Throws Error.Mild action) :
    Triple keeps (Act.attempt action) (fun result world => keeps world ∧ MildResult result)
      failed := by
  refine (Triple.attempt (throws.triple (stays.keeps stable))).weaken (fun _ holds => holds) ?_
    fun _ _ holds => holds
  intro result world holds
  cases result with
  | ok value => exact ⟨holds, .ok _⟩
  | error error => exact ⟨holds.1, .error holds.2⟩

/-- A failed build is a boundary, and so is a changed fingerprint. -/
theorem finishFile_reconciling {boundary : Bool} {mark : Nat} (file : FileId)
    (before : ArtifactFingerprint) (cached : Option ArtifactFingerprint)
    (result : Except Error ArtifactFingerprint) :
    Triple (fun world => (Reconciling project session start mark boundary world ∧
        cached = (world.projects project).artifacts file) ∧ MildResult result)
      (match result with
        | .error error => do
          forgetArtifact project file
          epochBoundary project session
          Act.throw error
        | .ok built => do
          recordArtifact project file built
          return buildChanged cached before built)
      (fun changed => Reconciling project session start mark (boundary || changed))
      (Failing project session start []) := by
  refine .assume fun mild => ?_
  cases result with
  | error error =>
    refine .through (fun _ world => Adrift project world ∧ Unseen project session start world)
      ?_ fun _ => .bind epochBoundary_clean fun _ => ?_
    · rintro world ⟨reconciling, _⟩
      have forgotten := reconciling.setArtifacts
        (Function.update (world.projects project).artifacts file none)
      exact ⟨forgotten.accounted.1, forgotten.2.1⟩
    · exact fun _ clean => ⟨clean.toUnseen, .inl ⟨clean.toServing, mild error rfl⟩⟩
  | ok built =>
    refine .bind (recordArtifact_reconciling file built cached) fun _ => .pure ?_
    intro world recorded
    refine recorded.wider fun told => ?_
    cases cached with
    | none => simpa using .inl (by simpa using told)
    | some previous => simpa [buildChanged] using told

/-- One file of the loop, and what it adds to the boundary. -/
theorem reconcileFile_reconciling {boundary : Bool} {mark : Nat} (file : FileId) :
    Triple (Reconciling project session start mark boundary)
      (reconcileFile project session mark file)
      (fun changed => Reconciling project session start mark (boundary || changed))
      (Failing project session start []) := by
  have cancelled : Throws (fun error => error.kind = .requestCancelled) rejectCancelled :=
    .bind requestCancelled_throws fun _ => .ensure rfl
  refine .bind ((cancelled.triple (rejectCancelled_idle.keeps fun _ _ idle holds =>
    Reconciling.idle holds idle)).weaken (fun _ holds => holds) (fun _ _ holds => holds) ?_)
      fun _ => .bind (.gets _) fun skipping => ?_
  · rintro error world ⟨reconciling, kind⟩
    exact ⟨reconciling.2.1, .inr ⟨reconciling.accounted.1, .inl kind⟩⟩
  have stable : ∀ world world', Idle world world' →
      (Reconciling project session start mark boundary world ∧
        skipping = world.changedSince project mark) →
      Reconciling project session start mark boundary world' ∧
        skipping = world'.changedSince project mark := fun _ _ idle ⟨holds, same⟩ =>
    ⟨holds.idle idle, by rw [same, World.changedSince, World.changedSince, idle.changed]⟩
  refine .bind (attempt_idle stable (Engine.artifactFingerprint_idle project file)
    (Engine.artifactFingerprint_throws project file)) fun fingerprint => ?_
  refine .bind (noteFingerprint_read fingerprint) fun _ => ?_
  refine .through (fun _ => Reconciling project session start mark boundary) ?_ fun before => ?_
  · cases fingerprint with
    | ok before => exact fun _ holds => holds
    | error error => exact fun _ ⟨clean, mild⟩ => ⟨clean.toUnseen, .inl ⟨clean.toServing, mild⟩⟩
  · refine .bind (.gets _) fun cached => ?_
    refine .bind (attempt_idle (fun _ _ idle ⟨holds, same⟩ =>
      ⟨holds.idle idle, by rw [same, idle.projects]⟩) (Engine.reconcileSource_idle project file)
        (Engine.reconcileSource_throws project file)) fun result => ?_
    exact finishFile_reconciling file before cached result

theorem reconcileFiles_reconciling {boundary : Bool} {mark : Nat} (files : List FileId) :
    Triple (Reconciling project session start mark boundary)
      (reconcileFiles project session mark boundary files)
      (fun boundary => Reconciling project session start mark boundary)
      (Failing project session start []) := by
  induction files generalizing boundary with
  | nil => exact .pure fun _ holds => holds
  | cons file rest ih => exact .bind (reconcileFile_reconciling file) fun _ => ih

/-- The loop over the consumers ends at a boundary, if it has changed anything. -/
theorem reconcileArtifacts_clean (files : List FileId) :
    Triple (Clean project session start []) (reconcileArtifacts project session files)
      (fun _ => Clean project session start []) (Failing project session start []) := by
  refine .bind (.gets _) fun mark => ?_
  have looped : Triple (Reconciling project session start mark false) _ _ _ :=
    reconcileFiles_reconciling files.eraseDups
  refine .bind (looped.weaken ?_ (fun _ _ holds => holds) fun _ _ fails => fails)
    fun boundary => ?_
  · rintro world ⟨clean, rfl⟩
    exact ⟨Nat.le_refl _, clean.toUnseen, .inl clean.toServing⟩
  · cases boundary with
    | true =>
      exact epochBoundary_clean.weaken (fun _ holds => ⟨holds.accounted.1, holds.2.1⟩)
        (fun _ _ holds => holds) fun _ _ holds => holds
    | false =>
      rintro world ⟨_, unseen, serving | ⟨_, told⟩⟩
      · exact ⟨serving, unseen⟩
      · cases told

theorem reconcileArtifact_clean (file : FileId) :
    Triple (Clean project session start []) (reconcileArtifact project session file)
      (fun _ => Clean project session start []) (Failing project session start []) :=
  reconcileArtifacts_clean [file]

/-- Whether the layout was replaced: then no state of the project is current. -/
def Refreshed (project : ProjectId) (changed : Bool) (world : World) : Prop :=
  if changed then Adrift project world else Serving project [] world

/-- Replacing the layout is a change; nothing else is touched. -/
theorem replaceLayout_refreshed {seen : World → Prop} (layout : Layout)
    (kept : ∀ world world', Unobserved project world world' → seen world → seen world')
    {failed : ε → World → Prop} :
    Triple (fun world => Serving project [] world ∧ seen world)
      (DuneProject.replaceLayout project layout)
      (fun changed world => Refreshed project changed world ∧ seen world) failed := by
  refine .bind (.gets _) fun current => .ite (fun _ => .pure ?_) fun _ => ?_
  · exact fun _ holds => ⟨holds.1.1, holds.1.2⟩
  · rintro world ⟨⟨serving, holds⟩, _⟩
    refine ⟨(serving.toAdrift.setRuntime _).recordChange, kept _ _ ?_ holds⟩
    exact (world.setRuntime_unobserved _).trans (World.recordChange_unobserved _)

theorem replaceProbe_refreshed {seen : World → Prop} (changed : Bool) (probe : Digest)
    (kept : ∀ world world', Unobserved project world world' → seen world → seen world')
    {failed : ε → World → Prop} :
    Triple (fun world => Refreshed project changed world ∧ seen world)
      (DuneProject.replaceProbe project probe)
      (fun _ world => Refreshed project changed world ∧ seen world) failed := by
  rintro world ⟨refreshed, holds⟩
  refine ⟨?_, kept _ _ (world.setRuntime_unobserved _) holds⟩
  cases changed with
  | true => exact Adrift.setRuntime refreshed _
  | false =>
    refine { toAdrift := Adrift.setRuntime (Serving.toAdrift refreshed) _, owned := ?_ }
    rw [World.held_selections project rfl rfl]
    exact (Serving.owned refreshed).framed (by simp [World.actor, World.setRuntime])
      (by simp [World.layout, World.setRuntime]) (Nat.le_refl _) (fun _ suffered => suffered) rfl

theorem refreshProject_refreshed {seen : World → Prop}
    (kept : ∀ world world', Unobserved project world world' → seen world → seen world') :
    Triple (fun world => Serving project [] world ∧ seen world) (Engine.refreshProject project)
      (fun changed world => Refreshed project changed world ∧ seen world)
      (fun error world => (Serving project [] world ∧ seen world) ∧ error.Mild) := by
  have idle : ∀ {α : Type} {action : EngineM α}, Stays Idle action → Throws Error.Mild action →
      Triple (fun world => Serving project [] world ∧ seen world) action
        (fun _ world => Serving project [] world ∧ seen world)
        fun error world => (Serving project [] world ∧ seen world) ∧ error.Mild :=
    fun stays throws => throws.triple (stays.keeps fun _ _ idle ⟨serving, holds⟩ =>
      ⟨serving.idle idle, kept _ _ (idle.calm project).unobserved holds⟩)
  refine .bind (idle layoutProbe_idle layoutProbe_throws) fun probe => .bind (.gets _) fun known => ?_
  refine .ite (fun _ => .pure fun _ holds => holds.1) fun _ => ?_
  refine .bind ((idle loadLayout_idle loadLayout_throws).weaken (fun _ holds => holds.1)
    (fun _ _ holds => holds) fun _ _ holds => holds) fun (root, layout) => ?_
  refine .bind (idle (.ensure _ _) (.ensure (.of_kind rfl))) fun _ => ?_
  refine .bind (replaceLayout_refreshed layout kept) fun changed => ?_
  exact .bind (replaceProbe_refreshed changed probe kept) fun _ => .pure fun _ holds => holds

theorem admitLayout_clean (changed : Bool) {failed : Error → World → Prop} :
    Triple (fun world => Refreshed project changed world ∧ Unseen project session start world)
      (admitLayout project session changed) (fun _ => Clean project session start []) failed := by
  cases changed with
  | false => exact .pure fun _ ⟨serving, unseen⟩ => ⟨serving, unseen⟩
  | true =>
    refine .through (fun _ world => Adrift project world ∧ Unseen project session start world) ?_
      fun _ => epochBoundary_clean
    exact fun world ⟨adrift, unseen⟩ =>
      ⟨Adrift.setRuntime adrift _, unseen.unobserved (world.setRuntime_unobserved _)⟩

/-- Before the states are forgotten, the process is gone; where they are kept,
they are accounted for. -/
def Settling (project : ProjectId) (session : SessionId) (start : World) (error : Error)
    (world : World) : Prop :=
  Unseen project session start world ∧
    if error.kind.invalidatesPetEpoch then Adrift project world ∧ world.process project = none
    else Serving project [] world

theorem restart_settling (error : Error) {failed : ε → World → Prop} :
    Triple (Failing project session start [] error)
      (Act.when (error.kind = .requestCancelled) (PetActor.restart project))
      (fun _ => Settling project session start error) failed := by
  by_cases cancelled : error.kind = .requestCancelled
  · have ends : error.kind.invalidatesPetEpoch = true := by rw [cancelled]; rfl
    simp only [Act.when, cancelled, decide_true, if_true]
    have restarted : Triple (fun world => Adrift project world ∧
        Unseen project session start world) (PetActor.restart project) _ failed := restart_adrift
    refine restarted.weaken ?_ ?_ fun _ _ holds => holds
    · rintro world ⟨unseen, ⟨serving, _⟩ | ⟨adrift, _⟩⟩
      · exact ⟨serving.toAdrift, unseen⟩
      · exact ⟨adrift, unseen⟩
    · rintro _ world ⟨adrift, absent, unseen⟩
      exact ⟨unseen, by rw [if_pos ends]; exact ⟨adrift, absent⟩⟩
  · simp only [Act.when, cancelled, decide_false]
    rintro world ⟨unseen, ⟨serving, mild⟩ | ⟨adrift, cancelled' | ⟨ends, absent⟩⟩⟩
    · refine ⟨unseen, ?_⟩
      rw [if_neg fun ends => cancelled (mild ends)]
      exact serving
    · exact absurd cancelled' cancelled
    · exact ⟨unseen, by rw [if_pos ends]; exact ⟨adrift, absent⟩⟩

/-- The end of a failed request: an error that ends states ends all of them. -/
theorem settleRequest_clean (error : Error) :
    Triple (Failing project session start [] error)
      (settleRequest project session (.error error)) (fun _ _ => False)
      (fun thrown world => thrown = error ∧ Clean project session start [] world) := by
  refine .bind (restart_settling error) fun _ => ?_
  refine .through (fun _ => Clean project session start []) ?_ fun _ =>
    .throw fun _ clean => ⟨rfl, clean⟩
  cases ends : error.kind.invalidatesPetEpoch with
  | true =>
    refine invalidate_clean.weaken ?_ (fun _ _ holds => holds) fun _ _ holds => holds
    rintro world ⟨unseen, settled⟩
    rw [if_pos ends] at settled
    exact ⟨settled.1, settled.2, unseen⟩
  | false =>
    rintro world ⟨unseen, settled⟩
    rw [if_neg (by simp [ends])] at settled
    exact ⟨settled, unseen⟩

end Adapter

end

end RocqMcp
