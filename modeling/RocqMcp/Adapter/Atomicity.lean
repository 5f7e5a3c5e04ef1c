import RocqMcp.Adapter.Completion
import RocqMcp.Adapter.Mishaps
import RocqMcp.Adapter.Writes

/-! Publication is all or nothing. As long as no other program writes the file,
and the file operations of the server succeed, a check leaves its source either
as it was or with the completed replacement. -/

namespace RocqMcp

open Library

/-- Nobody else has written the file, no file operation has failed, and no
restoration has failed either. -/
structure Undisturbed (start : World) (project : ProjectId) (path : Path) (world : World) :
    Prop where
  alone : ∀ writes, world.journal = writes ++ start.journal →
    ∀ write ∈ writes, write.path = path → write.author = .server
  sound : ∀ time, start.now ≤ time → time < world.now →
    (start.environment.tick time).fault = false
  restored : ∀ mishaps, world.ghost.mishaps = mishaps ++ start.ghost.mishaps →
    .restoreFailed project ∉ mishaps

/-- Where nothing has disturbed the server, the fact holds, and the file has this
content. -/
structure Settled (start : World) (project : ProjectId) (path : Path) (fact : Prop)
    (content : Option Bytes) (world : World) : Prop extends Onward (fun _ => True) start world where
  settled : Undisturbed start project path world → fact ∧ world.sources path = content

section

variable {may : Path → Prop} {project : ProjectId} {path : Path} {bytes : Bytes} {fact fact' : Prop}
  {content : Option Bytes} {start middle world after : World} {left : List PetStateId}
  {frame : World → Prop}

/-- What has not been disturbed until later has not been before. -/
theorem Undisturbed.earlier (undisturbed : Undisturbed start project path after)
    (late : Onward may world after) :
    Undisturbed start project path world where
  alone writes same write member := by
    obtain ⟨writes', grown, -⟩ := late.journal
    refine undisturbed.alone (writes' ++ writes) ?_ write (List.mem_append_right _ member)
    rw [grown, same, List.append_assoc]
  sound time began ended := undisturbed.sound time began (Nat.lt_of_lt_of_le ended late.now)
  restored mishaps same noted := by
    obtain ⟨mishaps', grown⟩ := late.noted
    refine undisturbed.restored (mishaps' ++ mishaps) ?_ (List.mem_append_right _ noted)
    rw [grown, same, List.append_assoc]

/-- An undisturbed file changes only by a write of the server. -/
theorem Undisturbed.sources (undisturbed : Undisturbed start project path after)
    (early : Onward may start world) (late : Onward (fun _ => False) world after) :
    after.sources path = world.sources path := by
  obtain ⟨writes, same, -⟩ := early.journal
  obtain ⟨writes', grown, quiet⟩ := late.journal
  have elsewhere : writes'.find? (fun write => write.path = path) = none := by
    rw [List.find?_eq_none]
    intro write member own
    have server := undisturbed.alone (writes' ++ writes) (by rw [grown, same, List.append_assoc])
      write (List.mem_append_left _ member) (of_decide_eq_true own)
    exact quiet write member server
  rw [World.sources, World.sources, grown, List.find?_append, elsewhere, late.initialSources,
    Option.none_or]

/-- Operations that write nothing leave the file settled. -/
theorem Settled.onward (settled : Settled start project path fact content world)
    (quiet : Onward (fun _ => False) world after) :
    Settled start project path fact content after where
  toOnward := trans_of (Onward _) settled.toOnward (quiet.weaken fun _ => False.elim)
  settled undisturbed := by
    obtain ⟨holds, same⟩ := settled.settled (undisturbed.earlier quiet)
    exact ⟨holds, (undisturbed.sources settled.toOnward quiet).trans same⟩

theorem Settled.meanwhile (settled : Settled start project path fact content world)
    (meanwhile : Meanwhile world after) : Settled start project path fact content after :=
  settled.onward meanwhile.onward

theorem Settled.calmed : Calmed project (Settled start project path fact content) :=
  fun _ _ calm settled => settled.meanwhile calm.toMeanwhile

theorem Settled.quiet {action : Act World ε α} (stays : Stays (Onward fun _ => False) action) :
    Triple (Settled start project path fact content) action
      (fun _ => Settled start project path fact content)
      fun _ => Settled start project path fact content :=
  stays.keeps fun _ _ quiet settled => settled.onward quiet

theorem Settled.idle {action : Act World ε α} (stays : Stays Idle action) :
    Triple (Settled start project path fact content) action
      (fun _ => Settled start project path fact content)
      fun _ => Settled start project path fact content :=
  Settled.quiet (framed stays)

theorem Settled.weaken (settled : Settled start project path fact content world)
    (implied : Undisturbed start project path world → fact → fact') :
    Settled start project path fact' content world where
  toOnward := settled.toOnward
  settled undisturbed := by
    obtain ⟨holds, same⟩ := settled.settled undisturbed
    exact ⟨implied undisturbed holds, same⟩

theorem Vacant.framing {frame' : World → Prop} (vacant : Vacant project frame left world)
    (framed : frame' world) : Vacant project frame' left world :=
  { vacant with framed }

namespace Writeback

variable {publication : PreparedPublication} {written : Path}

/-- The content of a file after a write of another one, or of this one. -/
def placed (path written : Path) (bytes : Bytes) (content : Option Bytes) : Option Bytes :=
  if written = path then some bytes else content

theorem settled_overwrite (settled : Settled start project path fact content world)
    (written : Path) (bytes : Bytes) :
    Settled start project path fact (placed path written bytes content)
      (overwrite world written bytes) where
  environment := settled.environment
  initialSources := settled.initialSources
  now := settled.now
  journal := by
    obtain ⟨writes, grown, -⟩ := settled.journal
    exact ⟨_ :: writes, congrArg (List.cons _) grown, fun _ _ _ => trivial⟩
  noted := settled.noted
  settled undisturbed := by
    have before : Undisturbed start project path world := by
      refine ⟨fun writes same write member => ?_, undisturbed.sound, undisturbed.restored⟩
      exact undisturbed.alone (_ :: writes) (congrArg (List.cons _) same) write
        (List.mem_cons_of_mem _ member)
    obtain ⟨holds, same⟩ := settled.settled before
    refine ⟨holds, ?_⟩
    have now : (overwrite world written bytes).sources path = _ :=
      world.sources_writeSource .server written (some bytes)
    rw [now, placed, same]

/-- A write takes place or does not. -/
theorem atomicWrite_settled (written : Path) (bytes : Bytes) :
    Triple (Settled start project path fact content) (atomicWrite written bytes)
      (fun _ => Settled start project path fact (placed path written bytes content))
      fun _ world => Settled start project path fact content world ∨
        Settled start project path fact (placed path written bytes content) world := by
  have early {α : Type} {action : EngineM α} (stays : Stays Idle action) :
      Triple (Settled start project path fact content) action
        (fun _ => Settled start project path fact content)
        fun _ world => Settled start project path fact content world ∨
          Settled start project path fact (placed path written bytes content) world :=
    (Settled.idle stays).weaken (fun _ holds => holds) (fun _ _ holds => holds)
      fun _ _ settled => .inl settled
  refine .bind (early tick_idle) fun tick => .bind (early (.gets _)) fun present => .ite
    (fun _ => .throw fun _ settled => .inl settled) fun _ => .bind (early (noteWhen_idle _ _))
    fun _ => .through (fun _ => Settled start project path fact (placed path written bytes content))
      ?_ fun _ => .ensure (fun _ _ settled => settled) fun _ _ settled => .inr settled
  exact fun _ settled => settled_overwrite settled written bytes

/-- What is read, unless the operation fails. -/
theorem readSource_reads (source : Path) :
    Triple (· = middle) (readSource source : Act World Error (Option Bytes))
      (fun content world => Idle middle world ∧ middle.now < world.now ∧
        content = if (middle.environment.tick middle.now).fault then none else world.sources source)
      fun _ _ => True := by
  refine .through (fun tick world => Idle middle world ∧ middle.now < world.now ∧
    tick = middle.environment.tick middle.now) ?_ fun tick => .bind (.gets _) fun content => .pure ?_
  · rintro world rfl
    let ticked := { world with
      now := world.now + 1
      signal := world.signal.receive (world.environment.tick world.now).arrival }
    exact ⟨@tick_idle Error world, (ticked.edits_idle _).now, rfl⟩
  · rintro world ⟨⟨idle, later, rfl⟩, rfl⟩
    exact ⟨idle, later, rfl⟩

/-- While nothing disturbs the server, the replacement owns its source. -/
theorem owns_settled (expected : digest = start.digest bytes) :
    Triple (Settled start project path fact (placed path written bytes content))
      (owns written digest)
      (fun owned => Settled start project path fact
        (if owned then placed path written bytes content else content))
      fun _ _ => True := by
  refine .each_state fun middle settled => .bind (readSource_reads written) fun current => ?_
  rintro world ⟨idle, later, rfl⟩
  have kept := settled.meanwhile idle.toMeanwhile
  refine ⟨kept.toOnward, fun undisturbed => ?_⟩
  obtain ⟨holds, same⟩ := kept.settled undisturbed
  refine ⟨holds, ?_⟩
  by_cases own : written = path
  · subst own
    have readable := undisturbed.sound middle.now settled.now later
    rw [← settled.environment] at readable
    rw [placed, if_pos rfl] at same
    have digested : world.digest bytes = digest := by
      rw [expected, World.digest, kept.environment, World.digest]
    simp [readable, same, digested, placed]
  · rw [placed, if_neg own] at same ⊢
    simpa using same

variable {content' : Option Bytes}

/-- A write of the original puts back what was there before. -/
theorem settled_back {original : Bytes}
    (before : fact → written = path → content = some original)
    (elsewhere : written ≠ path → content' = content)
    (settled : Settled start project path fact (placed path written original content') world) :
    Settled start project path fact content world where
  toOnward := settled.toOnward
  settled undisturbed := by
    obtain ⟨holds, same⟩ := settled.settled undisturbed
    refine ⟨holds, ?_⟩
    by_cases own : written = path
    · rw [same, before holds own, placed, if_pos own]
    · rw [same, placed, if_neg own, elsewhere own]

/-- A restoration that fails is on record. -/
theorem restore_settled (mark : Nat)
    (before : fact → publication.path = path → content = some publication.original)
    (elsewhere : publication.path ≠ path → content' = content) :
    Triple (Settled start project path fact content') (restore project mark publication)
      (fun _ => Settled start project path fact content)
      fun _ => Settled start project path fact content := by
  refine .bind (.gets _) fun renamed => .through (fun _ => Settled start project path fact content')
    (noteWhen_keeps fun _ _ idle holds => Settled.meanwhile holds.1 idle.toMeanwhile)
    fun _ => .bind (.attempt (atomicWrite_settled _ _)) fun result => ?_
  cases result with
  | ok _ => exact .pure fun _ settled => settled_back before elsewhere settled
  | error error =>
    refine .through (fun _ => Settled start project path fact content) ?_ fun _ =>
      .throw fun _ settled => settled
    intro world failed
    have onward : Onward (fun _ => True) start world := failed.elim (·.toOnward) (·.toOnward)
    obtain ⟨mishaps, noted⟩ := onward.noted
    refine ⟨{ onward with noted := ⟨_ :: mishaps, congrArg (List.cons _) noted⟩ },
      fun undisturbed => ?_⟩
    exact absurd List.mem_cons_self
      (undisturbed.restored (_ :: mishaps) (congrArg (List.cons _) noted))

/-- The publication has the runtime to itself, and the file is settled. -/
def Publishing (start : World) (project : ProjectId) (path : Path) (fact : Prop)
    (publication : PreparedPublication) (left : List PetStateId) (content : Option Bytes)
    (world : World) : Prop :=
  Vacant project (Prepared project publication (Settled start project path fact content)) left world

theorem Publishing.settled
    (publishing : Publishing start project path fact publication left content world) :
    Settled start project path fact content world :=
  publishing.framed.framed

theorem Publishing.vacant
    (publishing : Publishing start project path fact publication left content world) :
    Vacant project (Prepared project publication fun _ => True) left world :=
  publishing.framing ⟨publishing.framed.current, trivial⟩

theorem Publishing.of_vacant
    (vacant : Vacant project (Prepared project publication fun _ => True) left world)
    (settled : Settled start project path fact content world) :
    Publishing start project path fact publication left content world :=
  vacant.framing ⟨vacant.framed.current, settled⟩

theorem prepared_settled : Calmed project
    (Prepared project publication (Settled start project path fact content)) :=
  Prepared.calmed Settled.calmed

/-- Whatever owns the source, a rollback leaves the original. -/
theorem restoreEpoch_settled (mark : Nat)
    (before : fact → publication.path = path → content = some publication.original)
    (elsewhere : publication.path ≠ path → content' = content)
    (owning : Triple (Settled start project path fact content')
      (owns publication.path publication.replacementDigest)
      (fun owned => Settled start project path fact (if owned then content' else content))
      fun _ _ => True) :
    Triple (Publishing start project path fact publication left content')
      (restoreEpoch project mark publication)
      (fun _ => Settled start project path fact content)
      fun _ => Settled start project path fact content := by
  have rollbacks (restored : Bool) :
      Triple (Publishing start project path fact publication left content)
        (rollbackEpoch project publication restored)
        (fun _ => Settled start project path fact content)
        fun _ => Settled start project path fact content :=
    (rollbackEpoch_vacant Settled.calmed restored).weaken (fun _ holds => holds)
      (fun _ _ vacant => vacant.framed.framed) fun _ _ vacant => vacant.framed.framed
  have owned : Triple (Publishing start project path fact publication left content')
      (owns publication.path publication.replacementDigest)
      (fun owned => Publishing start project path fact publication left
        (if owned then content' else content)) fun _ _ => True := by
    refine (Triple.both (Vacant.of_idle prepared_settled (owns_idle _ _)) owning).lax.weaken
      (fun _ publishing => ⟨publishing, publishing.settled⟩) ?_ fun _ _ _ => trivial
    exact fun owned world ⟨vacant, settled⟩ => .of_vacant (Publishing.vacant vacant) settled
  refine .bind ((owns_throws _ _).safe owned) fun owned => .ite (fun isOwned => ?_) fun lost => ?_
  · subst isOwned
    refine .through (fun _ => Publishing start project path fact publication left content) ?_
      fun _ => rollbacks true
    refine (Triple.both (restore_vacant always_frame.prepared)
      (restore_settled mark before elsewhere)).weaken
        (fun _ publishing => ⟨publishing.vacant, publishing.settled⟩)
        (fun _ _ holds => .of_vacant holds.1 holds.2) fun _ _ holds => holds.2
  · obtain rfl := eq_false_of_ne_true lost
    exact rollbacks false

theorem buildAndValidate_settled {validate : EngineM α} (validates : Validates project validate) :
    Triple (Publishing start project path fact publication left content)
      (buildAndValidate project publication validate)
      (fun _ => Settled start project path fact content)
      fun _ world => ∃ left, Publishing start project path fact publication left content world := by
  let failed (_ : Error) (world : World) : Prop :=
    ∃ left, Publishing start project path fact publication left content world
  have idle {left : List PetStateId} {action : EngineM Unit} (stays : Stays Idle action) :
      Triple (Publishing start project path fact publication left content) action
        (fun _ => Publishing start project path fact publication left content) failed :=
    (Vacant.of_idle prepared_settled stays).weaken (fun _ holds => holds) (fun _ _ holds => holds)
      fun _ _ publishing => ⟨left, publishing⟩
  refine .bind (idle (nativeBuild_idle project _)) fun _ => .bind (idle (requireDigest_idle _ _))
    fun _ => .through (fun _ => Publishing start project path fact publication [] content) ?_
    fun _ => .bind (idle (requireDigest_idle _ _)) fun _ => .through
    (fun _ => Publishing start project path fact publication [] content) ?_ fun value =>
    .bind (idle (requireDigest_idle _ _)) fun _ => .pure fun _ publishing => publishing.settled
  · exact (Vacant.refresh left refreshError prepared_settled).weaken
      (fun _ publishing => ⟨publishing, publishing.framed.current⟩) (fun _ _ holds => holds.1)
        fun _ _ publishing => ⟨[], publishing⟩
  · refine .each_state fun middle publishing => (validates middle false).weaken ?_ ?_ ?_
    · rintro _ rfl
      exact publishing.holding false
    · exact fun _ _ later => publishing.calm prepared_settled later
    · exact fun _ _ later => ⟨[], publishing.calm prepared_settled later⟩

/-- A publication leaves the replacement or the original. -/
theorem publish_settled {validate : EngineM α} (validates : Validates project validate)
    (before : fact → publication.path = path → content = some publication.original)
    (digested : publication.replacementDigest = start.digest publication.replacement) :
    Triple (Publishing start project path fact publication left content)
      (publish project publication validate)
      (fun _ => Settled start project path fact
        (placed path publication.path publication.replacement content))
      fun _ => Settled start project path fact content := by
  let replaced : Option Bytes := placed path publication.path publication.replacement content
  have elsewhere (other : publication.path ≠ path) : replaced = content := if_neg other
  have unwritten (mark : Nat) (left : List PetStateId) :
      Triple (Publishing start project path fact publication left content)
        (restoreEpoch project mark publication)
        (fun _ => Settled start project path fact content)
        fun _ => Settled start project path fact content := by
    refine restoreEpoch_settled mark before (fun _ => rfl) ((Settled.idle (owns_idle _ _)).lax.weaken
      (fun _ holds => holds) (fun owned _ settled => ?_) fun _ _ _ => trivial)
    rwa [ite_self]
  have written (mark : Nat) (left : List PetStateId) :
      Triple (Publishing start project path fact publication left replaced)
        (restoreEpoch project mark publication)
        (fun _ => Settled start project path fact content)
        fun _ => Settled start project path fact content :=
    restoreEpoch_settled mark before elsewhere (owns_settled digested)
  refine .bind (.gets _) fun mark => .bind (.gets _) fun digest => .through
    (fun _ => Publishing start project path fact publication left content)
    ((Vacant.of_idle prepared_settled (owns_idle _ _)).weaken (fun _ holds => holds.1.1)
      (fun _ _ holds => holds) fun _ _ publishing => Publishing.settled publishing) fun owned => .ite (fun _ =>
      .bind (unwritten mark left) fun _ => .throw fun _ settled => settled) fun _ => ?_
  have wrote : Triple (Publishing start project path fact publication left content)
      (atomicWrite publication.path publication.replacement)
      (fun _ => Publishing start project path fact publication left replaced)
      fun _ world => Publishing start project path fact publication left content world ∨
        Publishing start project path fact publication left replaced world := by
    refine (Triple.both (atomicWrite_vacant always_frame.prepared _ _)
      (atomicWrite_settled _ _)).weaken
        (fun _ publishing => ⟨publishing.vacant, publishing.settled⟩)
        (fun _ _ holds => .of_vacant holds.1 holds.2) ?_
    rintro _ world ⟨vacant, settled | settled⟩
    · exact .inl (.of_vacant vacant settled)
    · exact .inr (.of_vacant vacant settled)
  refine .bind (.attempt wrote) fun result => ?_
  cases result with
  | error error =>
    exact .bind (.cases (unwritten mark left) (written mark left)) fun _ =>
      .throw fun _ settled => settled
  | ok _ =>
    refine .bind (.attempt (buildAndValidate_settled validates)) fun result => ?_
    cases result with
    | ok value => exact .pure fun _ settled => settled
    | error error =>
      rintro world ⟨left, publishing⟩
      refine Triple.bind (written mark left) (fun restored => ?_) world publishing
      exact .ite (fun _ => .throw fun _ settled => settled) fun _ => .throw fun _ settled => settled

theorem readOr_settled (source : Path) (message : String) :
    Triple (Settled start project path fact content) (Engine.readOr source message)
      (fun bytes => Settled start project path (fact ∧ (source = path → content = some bytes)) content)
      fun _ _ => True := by
  refine .each_state fun middle settled => .bind (readSource_reads source) fun read => ?_
  cases read with
  | none => exact .throw fun _ _ => trivial
  | some bytes =>
    refine .pure ?_
    rintro world ⟨idle, -, same⟩
    split at same
    · cases same
    · have kept := settled.meanwhile idle.toMeanwhile
      refine ⟨kept.toOnward, fun undisturbed => ?_⟩
      obtain ⟨holds, now⟩ := kept.settled undisturbed
      refine ⟨⟨holds, ?_⟩, now⟩
      rintro rfl
      rw [← now, same]

/-- A publication is prepared from the current content of its source. -/
theorem prepare_settled (target : DeclarationTarget) (fragments : List String) :
    Triple (Settled start project path fact content) (prepare project target fragments)
      (fun publication => Settled start project path
        (fact ∧ (publication.path = path → content = some publication.original)) content)
      fun _ _ => True := by
  have quiet {fact : Prop} {α : Type} {action : EngineM α}
      (stays : Stays (Onward fun _ => False) action) :
      Triple (Settled start project path fact content) action
        (fun _ => Settled start project path fact content) fun _ _ => True :=
    (Settled.quiet stays).lax
  refine .bind (quiet (.ensure _ _)) fun _ =>
    .bind (quiet (framed (DuneProject.petWorkspace_idle project _))) fun workspace =>
    .bind (readOr_settled _ _) fun original => .bind (quiet (.gets _)) fun _ =>
    .bind (quiet (.ensure _ _)) fun _ => .bind (quiet (.ofExcept _)) fun replacement =>
    .bind (quiet (.modify fun world => Frames.recordSplice world _)) fun _ =>
    .bind (quiet (.gets _)) fun _ => .pure fun _ settled => settled

end Writeback

namespace Adapter

/-- The result shows a completed proof. -/
def Response.Completes (response : Response) : Prop :=
  ∃ state ∈ response.states, state.lifecycle = .completed

/-- What an undisturbed check leaves in the source of its proof. -/
inductive Leaves (origin : World) (project : ProjectId) (target : DeclarationTarget)
    (content : Option Bytes) (response : Response) (world : World) : Prop where
  | replaced {original bytes : Bytes} {fragments : List String} (completes : response.Completes)
      (opened : origin.digest original = target.anchor.digest)
      (spliced : Writeback.replacement original target fragments = .ok bytes)
      (settled : Settled origin project target.anchor.source (content = some original)
        (some bytes) world)
  | kept (shown : ∀ state ∈ response.states, state.lifecycle = .open')
      (settled : Settled origin project target.anchor.source True content world)

variable {session : SessionId} {origin : World} {target : DeclarationTarget} {args : Value}

theorem validateWritten_completes (target : DeclarationTarget) :
    Triple (fun _ => True) (Engine.validateWritten project target)
      (fun state _ => state.lifecycle = .completed) fun _ _ => True := by
  unfold Engine.validateWritten
  repeat refine .last fun _ => ?_
  exact .pure fun _ _ => rfl

/-- What a publication leaves in its source. -/
def Settles (origin : World) (project : ProjectId) (target : DeclarationTarget)
    (content : Option Bytes) (world : World) : Except Error ProofState → Prop
  | .ok state => state.lifecycle = .completed ∧ ∃ original fragments bytes,
      origin.digest original = target.anchor.digest ∧
        Writeback.replacement original target fragments = .ok bytes ∧
        Settled origin project target.anchor.source (content = some original) (some bytes) world
  | .error _ => Settled origin project target.anchor.source True content world

theorem enginePublish_settled (target : DeclarationTarget) (fragments : List String) :
    Triple (fun world => Publishes project session start target world ∧
        Settled origin project target.anchor.source True content world)
      (Engine.publish project target fragments (invalidateProjectStates project session))
      (fun state world => Settles origin project target content world (.ok state))
      fun error world => Settles origin project target content world (.error error) := by
  let source : Path := target.anchor.source
  let settled : World → Prop := Settled origin project source True content
  let prepared (publication : PreparedPublication) (world : World) : Prop :=
    Settled origin project source
      (True ∧ (publication.path = source → content = some publication.original)) content world
  have validated : Triple (fun world => Publishes project session start target world ∧
      settled world) (Engine.validateTarget project target)
      (fun _ world => Publishes project session start target world ∧ settled world)
      fun _ => settled :=
    (Triple.both (Publishes.of_idle (Engine.validateTarget_idle project target))
      (Settled.idle (Engine.validateTarget_idle project target))).weaken (fun _ holds => holds)
        (fun _ _ holds => holds) fun _ _ holds => holds.2
  refine .bind validated fun _ => .through (fun publication world =>
    (Served project session start world ∧
      publication.workspace = (world.layout project).petWorkspace) ∧
    Writeback.Replaces target fragments publication world ∧ prepared publication world) ?_
    fun publication => .through (fun _ world => (∃ left, Vacant project
      (Writeback.Prepared project publication fun _ => True) left world) ∧
    Writeback.Replaces target fragments publication world ∧ prepared publication world) ?_
    fun _ => ?_
  · refine (Triple.both (prepare_publishes target fragments)
      (Triple.both (Writeback.prepare_replaces target fragments)
        (Triple.both (Settled.quiet (Writeback.prepare_framed project target fragments))
          (Writeback.prepare_settled target fragments)))).weaken
      (fun _ holds => ⟨holds.1, trivial, holds.2, holds.2⟩) ?_ fun _ _ holds => holds.2.2.1
    rintro publication world ⟨served, replaces, _, prepared⟩
    exact ⟨served, replaces, prepared⟩
  · rintro world ⟨⟨served, current⟩, replaces, prepared⟩
    refine ⟨⟨_, served.toServing.invalidated served.own.attached, World.forgotten_invalidated ..,
      current, trivial⟩, replaces.later rfl, prepared.onward ?_⟩
    exact Caches.invalidate world project session
  · rintro world ⟨⟨left, vacant⟩, replaces, prepared⟩
    have environment : world.environment = origin.environment := prepared.environment
    have digested : publication.replacementDigest = origin.digest publication.replacement := by
      rw [replaces.digested, World.digest, World.digest, environment]
    have before : (True ∧ (publication.path = source → content = some publication.original)) →
        publication.path = source → content = some publication.original := And.right
    refine (Triple.both
      (Writeback.publish_settled (validateWritten_validates target) before digested)
      (Writeback.publish_returns (validateWritten_completes target))).weaken (fun _ holds => holds)
        ?_ ?_ world ⟨Writeback.Publishing.of_vacant vacant prepared, trivial⟩
    · rintro state after ⟨settled, completed⟩
      rw [Writeback.placed, if_pos replaces.path] at settled
      refine ⟨completed, publication.original, fragments, publication.replacement, ?_,
        replaces.spliced, settled.weaken fun _ known => known.2 replaces.path⟩
      have opened := replaces.opened
      rwa [World.digest, environment] at opened
    · rintro error after ⟨settled, _⟩
      exact settled.weaken fun _ _ => trivial

/-! ### The result of a check -/

section

variable {context : CheckContext} {accepted : Accepted} {checkpoint : CheckpointId}

/-- The settlement of a publication touches no source. -/
theorem settlePublication_leaves (isOpen : accepted.step.view.lifecycle = .open')
    (result : Except Error ProofState) :
    Triple (fun world => Settles origin project target content world result)
      (settlePublication project session context accepted checkpoint result)
      (Leaves origin project target content) fun _ _ => True := by
  have quiet (result : Except Error ProofState) : Stays (Onward fun _ => False)
      (settlePublication project session context accepted checkpoint result) :=
    settlePublication_onward result
  cases result with
  | ok state =>
    refine .each_state fun middle ⟨completed, original, fragments, bytes, opened, spliced, settled⟩ => ?_
    have shows : Triple (fun _ => True)
        (settlePublication project session context accepted checkpoint (.ok state))
        (fun response _ => response.Completes) fun _ _ => True :=
      .last fun _ => .last fun _ => .pure fun _ _ => ⟨state, List.mem_singleton_self _, completed⟩
    refine ((quiet (.ok state)).started.also shows).weaken (fun _ same => same) ?_
      fun _ _ _ => trivial
    exact fun response world ⟨onward, completes⟩ =>
      .replaced completes opened spliced (settled.onward onward)
  | error error =>
    have shows : Triple (fun _ => True)
        (settlePublication project session context accepted checkpoint (.error error))
        (fun response _ => ∀ state ∈ response.states, state.lifecycle = .open') fun _ _ => True := by
      refine .last fun _ => .ite (fun _ => .pure fun _ _ => ?_) fun _ => .last fun _ =>
        .last fun _ => .last fun _ => .pure fun _ _ => ?_
      · exact fun state member => by rwa [List.mem_singleton.mp member]
      · exact fun state member => by rwa [List.mem_singleton.mp member]
    have settles : Triple (Settled origin project target.anchor.source True content)
        (settlePublication project session context accepted checkpoint (.error error))
        (fun _ => Settled origin project target.anchor.source True content) fun _ _ => True :=
      (Settled.quiet (quiet (.error error))).lax
    refine (settles.also shows).weaken (fun _ settled => settled) ?_ fun _ _ _ => trivial
    exact fun response world ⟨settled, shown⟩ => .kept shown settled

theorem publishAccepted_leaves (isOpen : accepted.step.view.lifecycle = .open') :
    Triple (fun world => (Served project session start world ∧
        Won context accepted checkpoint session world) ∧
        Settled origin project context.target.anchor.source True content world)
      (publishAccepted project session context accepted checkpoint)
      (Leaves origin project context.target content) fun _ _ => True := by
  refine .bind (.gets _) fun book => .through (fun path world =>
    ((Served project session start world ∧ context.target.Coherent world) ∧
      Settled origin project context.target.anchor.source True content world) ∧
      Submission.Linear { book, winner := accepted.fragment, fragments := path }) ?_ fun path =>
        .assume fun linear => ?_
  · rintro world ⟨⟨⟨served, won⟩, settled⟩, rfl⟩
    obtain ⟨path, read, linear⟩ := won.linear
    obtain ⟨proof, _, active, target, _⟩ := won
    have coherent := (served.consistent.proofs session proof active).coherent
    rw [read]
    exact ⟨⟨⟨served, target ▸ coherent⟩, settled⟩, linear⟩
  refine .through (fun _ world => Publishes project session start context.target world ∧
    Settled origin project context.target.anchor.source True content world) ?_ fun _ => ?_
  · rintro world ⟨⟨served, coherent⟩, settled⟩
    exact ⟨⟨⟨served.toServing.recordSubmission linear,
      served.toBound.step (.sameSessions rfl rfl fun _ _ => rfl)⟩, coherent⟩,
      settled.onward (.of_same rfl rfl rfl rfl rfl)⟩
  · refine .bind (.attempt (enginePublish_settled context.target path)) fun result =>
      (settlePublication_leaves isOpen result).weaken ?_ (fun _ _ holds => holds) fun _ _ _ => trivial
    cases result with
    | ok state => exact fun _ settles => settles
    | error error => exact fun _ settles => settles

theorem finishAccepted_leaves (isOpen : accepted.step.view.lifecycle = .open')
    (closeError : Option Error) :
    Triple (fun world => (Sealed project session start closeError world ∧
        Won context accepted checkpoint session world) ∧
        Settled origin project context.target.anchor.source True content world)
      (finishAccepted project session context accepted closeError checkpoint)
      (Leaves origin project context.target content) fun _ _ => True := by
  have shown {response : Response} (same : response.states = [accepted.step.view]) :
      ∀ state ∈ response.states, state.lifecycle = .open' := by
    intro state member
    rw [same] at member
    rwa [List.mem_singleton.mp member]
  cases closeError with
  | none =>
    refine .ite (fun _ => publishAccepted_leaves isOpen) fun _ => .pure fun _ holds => ?_
    exact .kept (shown rfl) holds.2
  | some error =>
    have quiet : Stays (Onward fun _ => False) (Act.when error.kind.invalidatesPetEpoch
        (invalidateProjectStates project session) : EngineM Unit) :=
      .when _ (invalidateProjectStates_cached project session)
    exact .bind ((Settled.quiet quiet).lax.weaken (fun _ holds => holds.2) (fun _ _ holds => holds)
      fun _ _ _ => trivial) fun _ => .pure fun _ settled => .kept (shown rfl) settled

theorem accept_leaves (isOpen : accepted.step.view.lifecycle = .open')
    (of : context.Of session start) :
    Triple (fun world => (Clean project session start [accepted.step.state] world ∧
        Accepting session accepted.fragment accepted.step.state accepted.step.finished world) ∧
        Settled origin project context.target.anchor.source True content world)
      (accept project session context accepted) (Leaves origin project context.target content)
      fun _ _ => True := by
  let settled : World → Prop := Settled origin project context.target.anchor.source True content
  have closed : Stays (Onward fun _ => False) (closeAccepted project context accepted) :=
    closeAccepted_cached
  refine .bind ((Triple.both (closeAccepted_closed context accepted) (Settled.quiet closed)).lax)
    fun closeError => ?_
  refine .bind ((Triple.both (commitOrCancelled_adrift (fun _ _ idle ⟨closed, accepting⟩ =>
    ⟨closed.idle idle, accepting.meanwhile _ _ idle.toMeanwhile⟩) fun _ holds => holds.1.adrift)
      (Settled.idle commitOrCancelled_idle)).lax) fun _ => .bind (.gets _) fun book => ?_
  have view : (if context.arguments.structured then accepted.step.view
      else { accepted.step.view with structuredGoals := none }).lifecycle = .open' := by
    split <;> exact isOpen
  rcases done : book.commit accepted.step.state accepted.fragment accepted.step.finished
    (if context.arguments.structured then accepted.step.view
      else { accepted.step.view with structuredGoals := none }) accepted.goalsNextOffset with
    ⟨error | checkpoint, next⟩
  · exact Triple.trivial.bind fun _ => Triple.trivial.bind fun _ => .throw fun _ _ => trivial
  · refine .through (fun _ world => (Sealed project session start closeError world ∧
      Won context accepted checkpoint session world) ∧ settled world) ?_ fun _ =>
        finishAccepted_leaves isOpen closeError
    rintro world ⟨⟨⟨closed, accepting⟩, settled⟩, rfl⟩
    exact ⟨commit_sealed of view closed accepting done,
      settled.onward (.of_same rfl rfl rfl rfl rfl)⟩

end

theorem checkFragments_leaves (context : CheckContext) (of : context.Of session start)
    (fragments : List String) (index : Nat) (rejected : List Rejection) :
    Triple (fun world => Clean project session start [] world ∧
        Settled origin project context.target.anchor.source True content world)
      (checkFragments project session context index rejected fragments)
      (Leaves origin project context.target content) fun _ _ => True := by
  induction fragments generalizing index rejected with
  | nil =>
    have quiet : Stays (Onward fun _ => False) (unselected session context rejected) :=
      .bind (.gets _) fun _ => .bind (ofBook_cached _) fun _ => .pure _
    refine (Triple.both (Triple.both (unselected_served context rejected)
      (unselected_shelved context rejected)) (Settled.quiet quiet)).weaken
        (fun _ holds => ⟨⟨holds.1, trivial⟩, holds.2⟩) ?_ fun _ _ _ => trivial
    exact fun response world ⟨⟨served, shelved⟩, settled⟩ =>
      .kept (shelved.open' served.consistent) settled
  | cons fragment rest ih =>
    have evaluated : Stays (Onward fun _ => False) (evaluate project session context fragment) :=
      evaluate_cached project session context fragment
    refine .bind (Triple.both (evaluate_clean context fragment) (Settled.quiet evaluated)).lax
      fun result => ?_
    match result with
    | .ok (.success step) =>
      rintro world ⟨⟨clean, isOpen, accepting⟩, settled⟩
      have viewed : (Accepted.of index fragment step rejected).step.view.lifecycle = .open' :=
        (boundedCheckpointView_lifecycle step.view).trans isOpen
      exact accept_leaves viewed of world ⟨⟨clean, accepting⟩, settled⟩
    | .ok (.failure failure) => exact ih _ _
    | .error error => exact ih _ _

/-- A check leaves its source with the completed replacement, or as it was. -/
theorem check_leaves {proof : ProofSession}
    (active : (start.selections session).checkpoints.proof = some proof) :
    Triple (fun world => Clean project session start [] world ∧
        Settled origin project proof.target.anchor.source True content world)
      (check project session args) (Leaves origin project proof.target content)
      fun _ _ => True := by
  have quiet {α : Type} {action : EngineM α} (stays : Stays (Onward fun _ => False) action) :
      Triple (Settled origin project proof.target.anchor.source True content) action
        (fun _ => Settled origin project proof.target.anchor.source True content) fun _ _ => True :=
    (Settled.quiet stays).lax
  have entered (arguments : AttemptArguments) :
      Stays (Onward fun _ => False) (enterProof project session arguments) :=
    enterProof_cached project session arguments
  refine .bind (Triple.both (Clean.check attemptArguments_mild).lax (quiet (.ofExcept _))).lax
    fun arguments => .bind (Triple.both (enterProof_clean arguments).lax
      (quiet (entered arguments))).lax fun context => ?_
  rintro world ⟨⟨clean, of, _⟩, settled⟩
  have same : proof.target = context.target := by
    obtain ⟨other, active', target, _⟩ := of
    rw [← target, Option.some.inj (active.symm.trans active')]
  rw [same] at settled ⊢
  exact checkFragments_leaves context of _ _ _ world ⟨clean, settled⟩

theorem dispatchProject_leaves {proof : ProofSession}
    (active : (start.selections session).checkpoints.proof = some proof) :
    Triple (fun world => Clean project session start [] world ∧
        Settled origin project proof.target.anchor.source True content world)
      (dispatchProject project session "check" args) (Leaves origin project proof.target content)
      fun _ _ => True := by
  let settled : World → Prop := Settled origin project proof.target.anchor.source True content
  have quiet {α : Type} {action : EngineM α} (stays : Stays (Onward fun _ => False) action) :
      Triple settled action (fun _ => settled) fun _ _ => True :=
    (Settled.quiet stays).lax
  have idle : Triple (fun world => Clean project session start [] world ∧ settled world)
      rejectCancelled (fun _ world => Clean project session start [] world ∧ settled world)
      fun _ _ => True :=
    (Triple.both (Clean.idling rejectCancelled_idle) (Settled.idle rejectCancelled_idle)).lax
  refine .bind idle fun _ => .through (fun changed world => (Refreshed project changed world ∧
    Unseen project session start world) ∧ settled world) ?_ fun changed => ?_
  · exact (Triple.both (refreshProject_refreshed fun _ _ unobserved unseen =>
      Unseen.unobserved unseen unobserved).lax (quiet (Engine.refreshProject_framed project))).weaken
        (fun _ holds => ⟨⟨holds.1.toServing, holds.1.toUnseen⟩, holds.2⟩) (fun _ _ holds => holds)
          fun _ _ _ => trivial
  · have admitted : Triple (fun world => Refreshed project changed world ∧
        Unseen project session start world) (admitLayout project session changed)
        (fun _ => Clean project session start []) fun _ _ => True := admitLayout_clean changed
    refine .bind (Triple.both admitted (quiet (admitLayout_cached changed))).lax
      fun _ => .bind idle fun _ => .bind (.attempt (check_leaves active)) fun result => ?_
    cases result with
    | ok response => exact .pure fun _ leaves => leaves
    | error error =>
      exact Triple.trivial.bind fun _ => Triple.trivial.bind fun _ => .throw fun _ _ => trivial

theorem dispatch_leaves {touched : ProjectId → Prop} {proof : ProofSession}
    (active : (origin.selections session).checkpoints.proof = some proof)
    (attached : (origin.selections session).project = some project) :
    Triple (fun world => (Arriving touched session origin world ∧
        world.selections = origin.selections) ∧
        Settled origin project proof.target.anchor.source True content world)
      (dispatch session "check" args) (Leaves origin project proof.target content)
      fun _ _ => True := by
  have idle : Triple (fun world => (Arriving touched session origin world ∧
      world.selections = origin.selections) ∧
      Settled origin project proof.target.anchor.source True content world) rejectCancelled
      (fun _ world => (Arriving touched session origin world ∧
        world.selections = origin.selections) ∧
        Settled origin project proof.target.anchor.source True content world) fun _ _ => True :=
    rejectCancelled_idle.kept fun _ _ idle ⟨⟨arriving, same⟩, settled⟩ =>
      ⟨⟨arriving.idle idle, idle.selections.trans same⟩, settled.meanwhile idle.toMeanwhile⟩
  refine .bind idle fun _ => .ite (fun asked => absurd asked (by simp)) fun _ =>
    .ite (fun asked => absurd asked (by simp)) fun _ => .bind (.gets _) fun selected =>
    .each_state ?_
  rintro world ⟨⟨⟨arriving, same⟩, settled⟩, read⟩
  rw [same, attached] at read
  subst read
  have own : Own project session world :=
    ⟨by simp [World.attachedTo, same, attached], arriving.used⟩
  refine (dispatchProject_leaves (same ▸ active)).weaken ?_ (fun _ _ leaves => leaves)
    fun _ _ _ => trivial
  rintro _ rfl
  exact ⟨arriving.toOrderly.clean own, settled⟩

end Adapter

/-- A check whose file nobody else touches is atomic: a completed proof is in
its source, and every other result leaves the source as it was. -/
theorem World.check_atomic {world after : World} {result : Except Error Adapter.Response}
    {proof : ProofSession} (reached : World.Reached world) (used : session < world.connections)
    (attached : (world.selections session).project = some project)
    (active : (world.selections session).checkpoints.proof = some proof)
    (ran : world.request session "check" args = (result, after))
    (undisturbed : Undisturbed world project proof.target.anchor.source after) :
    (∃ response original fragments bytes, result = .ok response ∧ response.Completes ∧
      world.sources proof.target.anchor.source = some original ∧
      world.digest original = proof.target.anchor.digest ∧
      Writeback.replacement original proof.target fragments = .ok bytes ∧
      after.sources proof.target.anchor.source = some bytes) ∨
    ((∀ response, result = .ok response →
        ∀ state ∈ response.states, state.lifecycle = .open') ∧
      after.sources proof.target.anchor.source = world.sources proof.target.anchor.source) := by
  let source : Path := proof.target.anchor.source
  cases result with
  | ok response =>
    have arriving : Arriving (world.Concerns session "check") session (world.begin .active)
        (world.begin .active) :=
      reached.lawful.arriving used (fun _ selected => .inl selected) .active
    have begun : Settled (world.begin .active) project source True (world.sources source)
        (world.begin .active) := ⟨refl_of (Onward _) _, fun _ => ⟨trivial, rfl⟩⟩
    have leaving : Triple (fun after => (Arriving (world.Concerns session "check") session
          (world.begin .active) after ∧ after.selections = (world.begin .active).selections) ∧
          Settled (world.begin .active) project source True (world.sources source) after)
        (Adapter.dispatch session "check" args)
        (Adapter.Leaves (world.begin .active) project proof.target (world.sources source))
        fun _ _ => True :=
      Adapter.dispatch_leaves active attached
    have leaves := leaving.of_ok ⟨⟨arriving, rfl⟩, begun⟩ (congrArg Prod.fst ran)
    rw [show (Adapter.dispatch session "check" args (world.begin .active)).2 = after from
      congrArg Prod.snd ran] at leaves
    have same : Undisturbed (world.begin .active) project source after :=
      ⟨undisturbed.alone, undisturbed.sound, undisturbed.restored⟩
    cases leaves with
    | replaced completes opened spliced settled =>
      obtain ⟨before, now⟩ := settled.settled same
      exact .inl ⟨response, _, _, _, rfl, completes, before, opened, spliced, now⟩
    | kept shown settled =>
      refine .inr ⟨?_, (settled.settled same).2⟩
      rintro _ ⟨⟩
      exact shown
  | error error =>
    -- A request that fails has written nothing.
    have untouched := reached.lawful.untouched used (congrArg Prod.fst ran) (.inl (by simp))
    have onward := world.request_onward session "check" args
    rw [ran] at untouched onward
    obtain ⟨writes, grown, external⟩ := untouched.written
    refine .inr ⟨by simp, undisturbed.sources (refl_of (Onward fun _ => True) world)
      { onward with journal := ⟨writes, grown, fun write member server => ?_⟩ }⟩
    rw [external write member] at server
    cases server

end

namespace Sample

def attempt : Value := .object [("attempts", .array [.string "idtac."])]

/-- The check completes the proof, and nobody else writes. -/
def completes (world : World) : Bool :=
  let ended := world.request 0 "check" attempt
  0 < world.connections && (world.selections 0).project = some root &&
    (world.selections 0).checkpoints.proof.isSome &&
    ended.2.journal.all (fun write => write.author = .server) &&
    ended.2.ghost.mishaps.all (· ≠ .restoreFailed root) &&
    ended.1.toOption.any fun response => response.states.any fun state =>
      state.lifecycle = .completed

@[irreducible]
def openedRun : { world : World // Reachable World.step (fun _ _ => True)
    (.initial resolving sources fun _ => none) world ∧ completes world = true } :=
  Reachable.run opening completes (by decide +kernel)

def opened : World := openedRun.val

theorem opened_reached : World.Reached opened :=
  ⟨resolving, sources, fun _ => none, openedRun.property.1⟩

theorem opened_sound (time : Nat) : (opened.environment.tick time).fault = false := by
  have environment : opened.environment = resolving :=
    (openedRun.property.1.invariant (Onward (fun _ => True) _) (refl_of (Onward _) _)
      fun _ _ _ onward _ moved => trans_of (Onward _) onward
        ((World.step_onward moved).weaken fun _ _ => trivial)).environment
  rw [environment]
  rfl

end Sample

theorem World.check_atomic_completed : ∃ proof original fragments bytes,
    (Sample.opened.selections 0).checkpoints.proof = some proof ∧
      Sample.opened.sources proof.target.anchor.source = some original ∧
      Writeback.replacement original proof.target fragments = .ok bytes ∧
      (Sample.opened.request 0 "check" Sample.attempt).2.sources proof.target.anchor.source =
        some bytes := by
  have facts := Sample.openedRun.property.2
  simp only [Sample.completes, Bool.and_eq_true, decide_eq_true_eq, List.all_eq_true] at facts
  obtain ⟨⟨⟨⟨⟨used, attached⟩, active⟩, alone⟩, restored⟩, completes⟩ := facts
  obtain ⟨proof, active⟩ := Option.isSome_iff_exists.mp active
  have undisturbed : Undisturbed Sample.opened Sample.root proof.target.anchor.source
      (Sample.opened.request 0 "check" Sample.attempt).2 := by
    refine ⟨fun writes same write member _ => ?_, fun time _ _ => Sample.opened_sound time,
      fun mishaps same noted => ?_⟩
    · exact alone write (same ▸ List.mem_append_left _ member)
    · exact restored _ (same ▸ List.mem_append_left _ noted) rfl
  rcases World.check_atomic Sample.opened_reached used attached active rfl undisturbed with
    ⟨_, original, fragments, bytes, _, _, before, _, spliced, now⟩ | ⟨shown, _⟩
  · exact ⟨proof, original, fragments, bytes, active, before, spliced, now⟩
  · rcases ran : (Sample.opened.request 0 "check" Sample.attempt).1 with error | response
    · rw [show (Sample.openedRun.val.request 0 "check" Sample.attempt).1 = _ from ran] at completes
      cases completes
    · rw [show (Sample.openedRun.val.request 0 "check" Sample.attempt).1 = _ from ran] at completes
      obtain ⟨state, member, completed⟩ := List.any_eq_true.mp completes
      rw [shown response ran state member] at completed
      cases of_decide_eq_true completed

end RocqMcp
