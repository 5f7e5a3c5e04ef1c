import RocqMcp.Adapter.Publication
import RocqMcp.Engine.Admission

/-! What a publication has done when it returns. A success has written, built,
refreshed, resolved and audited, in this order and in one PET epoch; every result
leaves a build and a refresh after the last write of the server. -/

namespace RocqMcp

open Library

/-- A write or a build that began no earlier. -/
def ChainEvent.After (time : Nat) : ChainEvent → Prop
  | .wrote _ at' => time ≤ at'
  | .built _ began _ _ => time ≤ began
  | _ => True

/-- The events have taken place since then, in the same request, the latest one first. -/
structure Ensued (before after : World) (events : List ChainEvent) : Prop where
  environment : after.environment = before.environment
  began : after.ghost.began = before.ghost.began
  now : before.now ≤ after.now
  noted : ∀ mishap, before.Suffered mishap → after.Suffered mishap
  recalled : ∀ path, ∀ content ∈ before.history path, content ∈ after.history path
  chain : ∃ grown, after.ghost.chain = grown ++ before.ghost.chain ∧ events.Sublist grown
  timely : ∀ event ∈ events, event.After before.now

/-- What interactions with the outside do to a source file. Bytes that the file
had before are there again only if it has had them all the time, unless someone
has put them back. -/
structure Watched (path : Path) (before after : World) : Prop where
  environment : after.environment = before.environment
  recalled : ∀ content ∈ before.history path, content ∈ after.history path
  noted : before.Suffered (.putBack path) → after.Suffered (.putBack path)
  chain : ∃ grown, after.ghost.chain = grown ++ before.ghost.chain ∧
    ∀ bytes, some bytes ∈ before.history path → after.sources path = some bytes →
      ¬ after.Suffered (.putBack path) → before.sources path = some bytes ∧
        ∀ began contents succeeded, .built path began contents succeeded ∈ grown →
          ∀ content ∈ contents, content = some bytes

section

variable {path : Path} {first middle last world after : World} {events later : List ChainEvent}

theorem ChainEvent.After.earlier {event : ChainEvent} {time time' : Nat} (later : event.After time')
    (le : time ≤ time') : event.After time := by
  cases event with
  | wrote | built => exact Nat.le_trans le later
  | _ => exact later

theorem Ensued.refl (world : World) : Ensued world world [] where
  environment := rfl
  began := rfl
  now := Nat.le_refl _
  noted _ noted := noted
  recalled _ _ member := member
  chain := ⟨[], rfl, .slnil⟩
  timely := nofun

theorem Ensued.trans (early : Ensued first middle events) (late : Ensued middle last later) :
    Ensued first last (later ++ events) where
  environment := late.environment.trans early.environment
  began := late.began.trans early.began
  now := Nat.le_trans early.now late.now
  noted mishap noted := late.noted mishap (early.noted mishap noted)
  recalled path content member := late.recalled path content (early.recalled path content member)
  chain := by
    obtain ⟨grown, same, inside⟩ := early.chain
    obtain ⟨grown', same', inside'⟩ := late.chain
    exact ⟨grown' ++ grown, by rw [same', same, List.append_assoc], inside'.append inside⟩
  timely event member := by
    rcases List.mem_append.mp member with new | old
    · exact (late.timely event new).earlier early.now
    · exact early.timely event old

theorem World.history_grows (meanwhile : Meanwhile first last) :
    ∀ content ∈ first.history path, content ∈ last.history path := by
  obtain ⟨writes, same, -⟩ := meanwhile.journal
  intro content member
  rw [history, meanwhile.initialSources, same, List.filter_append, List.map_append,
    List.append_assoc]
  exact List.mem_append_right _ member

theorem Ensued.of_meanwhile (meanwhile : Meanwhile first last)
    (chain : ∃ grown, last.ghost.chain = grown ++ first.ghost.chain ∧ events.Sublist grown)
    (timely : ∀ event ∈ events, event.After first.now) : Ensued first last events where
  environment := meanwhile.environment
  began := meanwhile.began
  now := meanwhile.now
  noted := meanwhile.mishaps
  recalled _ := World.history_grows meanwhile
  chain := chain
  timely := timely

/-- Records only grow. -/
theorem Ensued.meanwhile (early : Ensued first middle events) (meanwhile : Meanwhile middle last) :
    Ensued first last events := by
  obtain ⟨grown, same, -⟩ := meanwhile.chain
  exact early.trans (.of_meanwhile meanwhile ⟨grown, same, List.nil_sublist _⟩ nofun)

theorem Ensued.fewer (since : Ensued first last later) (fewer : events.Sublist later) :
    Ensued first last events := by
  obtain ⟨grown, same, inside⟩ := since.chain
  exact { since with
    chain := ⟨grown, same, fewer.trans inside⟩
    timely := fun event member => since.timely event (fewer.subset member) }

instance : IsPreorder World (Watched path) where
  refl world :=
    { environment := rfl
      recalled := fun _ member => member
      noted := fun noted => noted
      chain := ⟨[], rfl, fun _ _ now _ => ⟨now, by simp⟩⟩ }
  trans _ _ _ first second :=
    { environment := second.environment.trans first.environment
      recalled := fun content member => second.recalled content (first.recalled content member)
      noted := fun noted => second.noted (first.noted noted)
      chain := by
        obtain ⟨early, same, before⟩ := first.chain
        obtain ⟨late, same', after⟩ := second.chain
        refine ⟨late ++ early, by rw [same', same, List.append_assoc], ?_⟩
        intro bytes known now spared
        obtain ⟨between, during'⟩ := after bytes (first.recalled _ known) now spared
        obtain ⟨then', during⟩ := before bytes known between fun noted => spared (second.noted noted)
        refine ⟨then', fun began contents succeeded member => ?_⟩
        rcases List.mem_append.mp member with new | old
        · exact during' began contents succeeded new
        · exact during began contents succeeded old }

namespace World

theorem sources_mem_history (world : World) (path : Path) :
    world.sources path ∈ world.history path := by
  unfold sources history
  cases found : world.journal.find? fun write => write.path = path with
  | none => simp
  | some write =>
    have member := List.mem_of_find?_eq_some found
    have same := List.find?_some found
    simp only [List.mem_append, List.mem_map, List.mem_filter]
    exact .inl ⟨write, ⟨member, same⟩, rfl⟩

theorem sources_writeSource (world : World) (author : Author) (other : Path) (content : Option Bytes) :
    (world.writeSource author other content).sources path =
      if other = path then content else world.sources path := by
  unfold sources writeSource
  by_cases same : other = path <;> simp [same]

theorem history_writeSource (world : World) (author : Author) (other : Path)
    (content : Option Bytes) :
    (world.writeSource author other content).history path =
      if other = path then content :: world.history path else world.history path := by
  unfold history writeSource
  by_cases same : other = path <;> simp [same]

theorem edit_watched (world : World) (edit : Edit) : Watched path world (world.edit edit) := by
  let edited := world.writeSource .external edit.path edit.content
  have fields : (world.edit edit).environment = world.environment ∧
      (world.edit edit).history path = edited.history path ∧
      (world.edit edit).sources path = edited.sources path ∧
      (world.edit edit).ghost.chain = world.ghost.chain := by
    unfold World.edit
    dsimp only
    split <;> exact ⟨rfl, rfl, rfl, rfl⟩
  obtain ⟨environment, history, now, chain⟩ := fields
  refine ⟨environment, ?_, (world.edit_idle edit).mishaps _, [], chain, ?_⟩
  · intro content member
    rw [history, world.history_writeSource]
    split
    · exact List.mem_cons_of_mem _ member
    · exact member
  · intro bytes known isNow spared
    refine ⟨?_, by simp⟩
    rw [now, world.sources_writeSource] at isNow
    split at isNow
    · rename_i own
      by_contra other
      apply spared
      have back : edit.content.isSome && edit.content ∈ world.history edit.path &&
          edit.content ≠ world.sources edit.path := by
        rw [own, isNow]
        simpa using ⟨known, fun same => other same.symm⟩
      rw [World.edit]
      simp only [back, if_true]
      rw [own]
      exact List.mem_cons_self
    · exact isNow

theorem edits_watched (world : World) (list : List Edit) : Watched path world (world.edits list) := by
  induction list generalizing world with
  | nil => exact refl_of (Watched path) world
  | cons edit rest ih => exact trans_of (Watched path) (world.edit_watched edit) (ih (world.edit edit))

/-- A change that leaves the files and the builds on record alone. -/
theorem watched_of_same (environment : after.environment = world.environment)
    (initialSources : after.initialSources = world.initialSources)
    (journal : after.journal = world.journal)
    (noted : ∀ mishap, world.Suffered mishap → after.Suffered mishap)
    (chain : ∃ grown, after.ghost.chain = grown ++ world.ghost.chain ∧
      ∀ began contents succeeded, .built path began contents succeeded ∉ grown) :
    Watched path world after where
  environment := environment
  recalled content member := by rw [history, initialSources, journal]; exact member
  noted := noted _
  chain := by
    obtain ⟨grown, same, unbuilt⟩ := chain
    refine ⟨grown, same, fun bytes _ now _ => ⟨?_, fun began contents succeeded member =>
      absurd member (unbuilt began contents succeeded)⟩⟩
    rw [sources, initialSources, journal] at now
    exact now

/-- Each content of the file while the edits take place was there between them. -/
theorem contentsDuring_between (world : World) (path : Path) (edits : List Edit)
    {content : Option Bytes} (member : content ∈ world.contentsDuring path edits) :
    ∃ between : World, Watched path world between ∧ Watched path between (world.edits edits) ∧
      between.sources path = content := by
  induction edits generalizing world with
  | nil =>
    simp only [contentsDuring, List.scanl_nil, List.map_cons, List.map_nil, List.mem_singleton] at member
    exact ⟨world, refl_of _ _, refl_of _ _, member.symm⟩
  | cons edit rest ih =>
    simp only [contentsDuring, List.scanl_cons, List.map_cons, List.mem_cons] at member
    rcases member with rfl | later
    · exact ⟨world, refl_of _ _, world.edits_watched (edit :: rest), rfl⟩
    · obtain ⟨between, early, late, same⟩ := ih (world.edit edit) later
      exact ⟨between, trans_of (Watched path) (world.edit_watched edit) early, late, same⟩

theorem runBuild_watched (world : World) (source : Path) (tick : Tick) (succeeded : Bool) :
    Watched path world (world.runBuild source tick succeeded) := by
  have edited : Watched path world (world.edits tick.during) := world.edits_watched tick.during
  refine ⟨edited.environment, edited.recalled, edited.noted, ?_⟩
  obtain ⟨grown, same, kept⟩ := edited.chain
  refine ⟨_ :: grown, congrArg (List.cons _) same, fun bytes known now spared => ?_⟩
  obtain ⟨then', during⟩ := kept bytes known now spared
  refine ⟨then', fun began contents result member => ?_⟩
  rcases List.mem_cons.mp member with new | old
  · obtain ⟨rfl, -, rfl, -⟩ := ChainEvent.built.inj new
    intro content inside
    obtain ⟨between, early, late, rfl⟩ := contentsDuring_between world path tick.during inside
    obtain ⟨_, -, kept'⟩ := late.chain
    exact (kept' bytes (early.recalled _ known) now spared).1
  · exact during began contents result old

end World

/-! ### Operations that watch a file -/

theorem watched_modify {update : World → World} (same : ∀ world : World,
    (update world).environment = world.environment ∧
      (update world).initialSources = world.initialSources ∧
      (update world).journal = world.journal ∧
      (update world).ghost.mishaps = world.ghost.mishaps ∧
      (update world).ghost.chain = world.ghost.chain) :
    Stays (Watched path) (.modify update : Act World ε Unit) := by
  refine .modify fun world => ?_
  obtain ⟨environment, initialSources, journal, mishaps, chain⟩ := same world
  refine World.watched_of_same environment initialSources journal ?_ ⟨[], chain, by simp⟩
  intro mishap noted
  rw [World.Suffered, mishaps]
  exact noted

theorem tick_watched : Stays (Watched path) (tick : Act World ε Tick) := by
  intro world
  let later := { world with
    now := world.now + 1
    signal := world.signal.receive (world.environment.tick world.now).arrival }
  have moved : Watched path world later :=
    World.watched_of_same rfl rfl rfl (fun _ noted => noted) ⟨[], rfl, by simp⟩
  exact trans_of (Watched path) moved (later.edits_watched _)

theorem noteWhen_watched (condition : Bool) (mishap : Mishap) :
    Stays (Watched path) (noteWhen condition mishap : Act World ε Unit) :=
  .when _ (.modify fun _ => World.watched_of_same rfl rfl rfl
    (fun _ noted => List.mem_cons_of_mem _ noted) ⟨[], rfl, by simp⟩)

theorem readSource_watched (source : Path) :
    Stays (Watched path) (readSource source : Act World ε (Option Bytes)) :=
  .bind tick_watched fun _ => .bind (.gets _) fun _ => .pure _

theorem readOr_watched (source : Path) (message : String) :
    Stays (Watched path) (Engine.readOr source message) := by
  refine .bind (readSource_watched source) fun content => ?_
  cases content with
  | some bytes => exact .pure bytes
  | none => exact .throw _

theorem nativeBuild_watched (project : ProjectId) (source : Path) :
    Stays (Watched path) (nativeBuild project source) :=
  .bind (.gets _) fun _ => .bind (.ofExcept _) fun _ => .bind tick_watched fun tick =>
    .bind (.gets _) fun _ => .bind (.modify fun world => world.runBuild_watched source tick _)
      fun _ => .bind (.gets _) fun _ => .bind (noteWhen_watched _ _) fun _ => .ofExcept _

theorem requireDigest_watched (source : Path) (expected : Digest) :
    Stays (Watched path) (Writeback.requireDigest source expected) :=
  .bind (readOr_watched source _) fun _ => .bind (.gets _) fun _ => .ensure _ _

theorem validateTarget_watched (project : ProjectId) (target : DeclarationTarget) :
    Stays (Watched path) (Engine.validateTarget project target) := by
  refine .bind (.mapError ?_) fun _ => .bind (.ensure _ _) fun _ =>
    .bind (readOr_watched _ _) fun _ => .bind (.gets _) fun _ => .ensure _ _
  exact .bind (.ofExcept _) fun _ => .bind tick_watched fun _ => .bind (.gets _) fun _ =>
    .bind (.gets _) fun _ => .bind (.ensure _ _) fun _ => .bind (.gets _) fun _ =>
    .bind (.ensure _ _) fun _ => .pure _

namespace PetActor

variable (project : ProjectId)

theorem discard_watched : Stays (Watched path) (discard project : Act World ε Unit) :=
  watched_modify fun _ => ⟨rfl, rfl, rfl, rfl, rfl⟩

theorem exchange_watched (call : PetCall) (timeoutMs : Option Nat) :
    Stays (Watched path) (exchange call timeoutMs) :=
  .bind tick_watched fun _ => .bind (.gets _) fun _ => .bind (.ensure _ _) fun _ => .ofExcept _

theorem rpc_watched (process : PetProcess) (call : PetCall) (timeoutMs : Option Nat) :
    Stays (Watched path) (rpc project process call timeoutMs) := by
  have recorded (outcome : Except PetError (PetReply PetStateId)) :
      Stays (Watched path) (recordTurn project call outcome : Act World PetError Unit) :=
    watched_modify fun _ => ⟨rfl, rfl, rfl, rfl, rfl⟩
  refine .bind (.attempt (exchange_watched call timeoutMs)) fun result => ?_
  cases result with
  | error error => exact .bind (recorded _) fun _ => .throw error
  | ok reply =>
    exact .bind (.gets _) fun _ => .bind (recorded _) fun _ =>
      .bind (watched_modify fun _ => ⟨rfl, rfl, rfl, rfl, rfl⟩) fun _ => .pure _

theorem spawn_watched : Stays (Watched path) spawn := by
  refine .bind tick_watched fun tick => ?_
  cases tick.spawn with
  | some error => exact .throw error
  | none =>
    refine .bind (.gets _) fun _ => .bind (exchange_watched _ _) fun reply => ?_
    cases reply with
    | capabilities names => exact .bind (.ensure _ _) fun _ => .pure _
    | _ => exact .throw _

theorem ensureProcess_watched (workspace : PetWorkspace) :
    Stays (Watched path) (ensureProcess project workspace) := by
  refine .bind (.bind (.gets _) fun found => ?_) fun process => .bind (.gets _) fun _ =>
    .ite (fun _ => .pure ()) fun _ => .bind (.bind (.attempt (rpc_watched project process _ none))
      fun result => ?_) fun reply => ?_
  · cases found with
    | some process => exact .pure process
    | none =>
      exact .bind spawn_watched fun _ =>
        .bind (watched_modify fun _ => ⟨rfl, rfl, rfl, rfl, rfl⟩) fun _ => .pure _
  · cases result with
    | ok value => exact .pure value
    | error error =>
      exact .bind (.when _ (discard_watched project)) fun _ => .throw error
  · cases reply with
    | null => exact watched_modify fun _ => ⟨rfl, rfl, rfl, rfl, rfl⟩
    | _ => exact .bind (discard_watched project) fun _ => .throw _

theorem recordRefreshed_watched :
    Stays (Watched path) (recordInEpoch project (.refreshed project) : Act World ε Unit) := by
  refine .modify fun world => ?_
  split
  · exact World.watched_of_same rfl rfl rfl (fun _ noted => noted) ⟨[_], rfl, by simp⟩
  · exact refl_of _ world

theorem refreshWorkspace_watched (workspace : PetWorkspace) :
    Stays (Watched path) (refreshWorkspace project workspace) := by
  refine .bind (ensureProcess_watched project workspace) fun _ => .bind (.gets _) fun found => ?_
  cases found with
  | none => exact .throw _
  | some process =>
    refine .bind (.attempt (rpc_watched project process _ none)) fun result => ?_
    split
    · exact recordRefreshed_watched project
    · exact .bind (.bind (discard_watched project) fun _ => ensureProcess_watched project workspace)
        fun _ => recordRefreshed_watched project

end PetActor

end

/-! ### The chain of a success -/

/-- No other content that the file has had has the same digest. -/
def World.Distinguishes (world : World) (path : Path) (bytes : Bytes) : Prop :=
  ∀ other, some other ∈ world.history path → world.digest other = world.digest bytes → other = bytes

/-- The build saw nothing but these bytes, from its start to its end: their digest
tells them apart, and nobody has put bytes back. -/
def Intact (path : Path) (bytes : Bytes) (contents : List (Option Bytes)) (world : World) : Prop :=
  world.Distinguishes path bytes → ¬ world.Suffered (.putBack path) →
    ∀ content ∈ contents, content = some bytes

/-- A build of these bytes has succeeded. -/
structure Built (path : Path) (bytes : Bytes) (before after : World) : Prop where
  built : ∃ began contents, Ensued before after [.built path began contents true] ∧
    Intact path bytes contents after

/-- After these events and a build, PET was refreshed; in the epoch that began
then, it resolved the target as finished, and the audit passed. -/
def certificate (project : ProjectId) (path : Path) (identity : DeclarationIdentity)
    (epoch began : Nat) (contents : List (Option Bytes)) (events : List ChainEvent) :
    List ChainEvent :=
  .audited identity true epoch :: .resolved identity true epoch ::
    .refreshed project epoch :: .built path began contents true :: events

structure Certified (project : ProjectId) (path : Path) (bytes : Bytes)
    (identity : DeclarationIdentity) (events : List ChainEvent) (before after : World) : Prop where
  certified : ∃ epoch began contents,
    Ensued before after (certificate project path identity epoch began contents events) ∧
    Intact path bytes contents after

section

variable {project : ProjectId} {path : Path} {bytes : Bytes} {identity : DeclarationIdentity}
  {contents : List (Option Bytes)} {first middle last start world after : World}
  {left : List PetStateId} {events : List ChainEvent}

theorem World.Distinguishes.since (since : Ensued middle last [])
    (distinguishes : last.Distinguishes path bytes) : middle.Distinguishes path bytes := by
  intro other member same
  refine distinguishes other (since.recalled path _ member) ?_
  rw [digest, digest, since.environment]
  exact same

theorem Intact.since (intact : Intact path bytes contents middle) (since : Ensued middle last []) :
    Intact path bytes contents last :=
  fun distinguishes spared => intact (distinguishes.since since) fun noted =>
    spared (since.noted _ noted)

theorem Intact.later (intact : Intact path bytes contents middle) (meanwhile : Meanwhile middle last) :
    Intact path bytes contents last :=
  intact.since ((Ensued.refl middle).meanwhile meanwhile)

theorem Built.later (built : Built path bytes first middle) (meanwhile : Meanwhile middle last) :
    Built path bytes first last := by
  obtain ⟨began, contents, since, intact⟩ := built
  exact ⟨began, contents, since.meanwhile meanwhile, intact.later meanwhile⟩

theorem Certified.since (certified : Certified project path bytes identity events first middle)
    (late : Ensued middle last []) : Certified project path bytes identity events first last := by
  obtain ⟨epoch, began, contents, since, intact⟩ := certified
  exact ⟨epoch, began, contents, since.trans late, intact.since late⟩

theorem Certified.later (certified : Certified project path bytes identity events first middle)
    (meanwhile : Meanwhile middle last) :
    Certified project path bytes identity events first last :=
  certified.since ((Ensued.refl middle).meanwhile meanwhile)

theorem Certified.earlier (certified : Certified project path bytes identity [] middle last)
    (early : Ensued first middle events) : Certified project path bytes identity events first last := by
  obtain ⟨epoch, began, contents, since, intact⟩ := certified
  exact ⟨epoch, began, contents, early.trans since, intact⟩

/-- An operation that touches no runtime, and watches the file. -/
def Attends (path : Path) (before after : World) : Prop :=
  Idle before after ∧ Watched path before after

theorem Attends.of_stays {action : Act World ε α} (idle : Stays Idle action)
    (watched : Stays (Watched path) action) : Stays (Attends path) action :=
  fun world => ⟨idle world, watched world⟩

theorem Attends.trans (early : Attends path first middle) (late : Attends path middle last) :
    Attends path first last :=
  ⟨trans_of Idle early.1 late.1, trans_of (Watched path) early.2 late.2⟩

/-- The source had these bytes before and after. -/
theorem Watched.intact (watched : Watched path first last)
    (then' : first.sources path = some bytes) {began : Nat} {succeeded : Bool}
    (since : Ensued first last [.built path began contents succeeded])
    (now : last.Distinguishes path bytes → last.sources path = some bytes) :
    Intact path bytes contents last := by
  intro distinguishes spared
  obtain ⟨grown, same, kept⟩ := watched.chain
  obtain ⟨grown', same', inside⟩ := since.chain
  obtain rfl := List.append_cancel_right (same.symm.trans same')
  have known : some bytes ∈ first.history path := then' ▸ first.sources_mem_history path
  exact (kept bytes known (now distinguishes) spared).2 began contents succeeded
    (List.singleton_sublist.mp inside)

/-- A build with this result is on record. -/
def Recorded (source : Path) (succeeded : Bool) (before after : World) : Prop :=
  ∃ began contents, Ensued before after [.built source began contents succeeded]

theorem Recorded.meanwhile {source : Path} {succeeded : Bool}
    (recorded : Recorded source succeeded first middle) (meanwhile : Meanwhile middle last) :
    Recorded source succeeded first last := by
  obtain ⟨began, contents, since⟩ := recorded
  exact ⟨began, contents, since.meanwhile meanwhile⟩

theorem runBuild_recorded (source : Path) (tick : Tick) (succeeded : Bool)
    (since : Ensued start world []) :
    Recorded source succeeded start (world.runBuild source tick succeeded) := by
  have edited := world.edits_idle tick.during
  obtain ⟨grown, same, -⟩ := edited.chain
  have recalled (path : Path) : ∀ content ∈ world.history path,
      content ∈ (world.edits tick.during).history path :=
    World.history_grows edited.toMeanwhile
  have built : Ensued world (world.runBuild source tick succeeded)
      [.built source world.now (world.contentsDuring source tick.during) succeeded] := by
    refine { environment := edited.environment
             began := edited.began
             now := edited.now
             noted := edited.mishaps
             recalled := fun path => recalled path
             chain := ⟨_ :: grown, congrArg (List.cons _) same,
               List.singleton_sublist.mpr List.mem_cons_self⟩
             timely := ?_ }
    intro event member
    rw [List.mem_singleton.mp member]
    exact Nat.le_refl _
  exact ⟨_, _, since.trans built⟩

theorem nativeBuild_recorded (source : Path) :
    Triple (· = start) (nativeBuild project source) (fun _ => Recorded source true start)
      fun _ _ => True := by
  refine .through (fun _ world => Ensued start world []) ?_ fun layout => .through
    (fun _ world => Ensued start world []) ?_ fun _ => .through
    (fun _ world => Ensued start world []) ?_ fun tick => .through
    (fun _ world => Ensued start world []) (fun _ since => since) fun cancelled => ?_
  · rintro _ rfl
    exact .refl _
  · exact (Triple.ofExcept _).weaken (fun _ holds => holds) (fun _ _ holds => holds.1)
      fun _ _ _ => trivial
  · exact tick_idle.kept fun _ _ idle since => since.meanwhile idle.toMeanwhile
  · dsimp only
    generalize tick.build.result (cancelled && tick.interrupted) = result
    refine .through (fun _ => Recorded source result.isOk start)
      (fun _ since => runBuild_recorded source tick _ since) fun _ => .through
      (fun _ => Recorded source result.isOk start) (fun _ recorded => recorded) fun copied => .through
      (fun _ => Recorded source result.isOk start) ?_ fun _ => ?_
    · exact (noteWhen_idle _ _).kept fun _ _ idle recorded => recorded.meanwhile idle.toMeanwhile
    · cases result with
      | ok _ => exact fun _ recorded => recorded
      | error error => exact fun _ _ => trivial

theorem nativeBuild_records (path source : Path) :
    Triple (· = start) (nativeBuild project source)
      (fun _ world => Attends path start world ∧ Recorded source true start world)
      fun _ _ => True := by
  have attends : Stays (Attends path) (nativeBuild project source) :=
    .of_stays (nativeBuild_idle project source) (nativeBuild_watched project source)
  exact (Triple.both attends.started (nativeBuild_recorded source)).weaken
    (fun _ holds => ⟨holds, holds⟩) (fun _ _ holds => holds) fun _ _ _ => trivial

/-- A check of the digest has read these bytes. -/
def Read (path : Path) (expected : Digest) (world : World) : Prop :=
  ∃ bytes, world.sources path = some bytes ∧ world.digest bytes = expected

theorem readOr_read (message : String) :
    Triple (fun _ => True) (Engine.readOr path message)
      (fun bytes world => world.sources path = some bytes) fun _ _ => True := by
  refine .through (fun content world => ∀ bytes, content = some bytes →
    world.sources path = some bytes) ?_ fun content => ?_
  · refine .bind .trivial fun tick => .bind (.gets _) fun content => .pure ?_
    rintro world ⟨-, rfl⟩ bytes same
    split at same
    · cases same
    · exact same
  · cases content with
    | some bytes => exact .pure fun _ holds => holds bytes rfl
    | none => exact .throw fun _ _ => trivial

theorem requireDigest_read (expected : Digest) :
    Triple (fun _ => True) (Writeback.requireDigest path expected)
      (fun _ => Read path expected) fun _ _ => True := by
  refine .bind (readOr_read _) fun bytes => .bind (.gets _) fun digest => ?_
  refine .ensure ?_ fun _ _ _ => trivial
  rintro same world ⟨found, rfl⟩
  exact ⟨bytes, found, of_decide_eq_true same⟩

theorem validateTarget_read (target : DeclarationTarget) :
    Triple (fun _ => True) (Engine.validateTarget project target)
      (fun _ => Read target.anchor.source target.anchor.digest) fun _ _ => True := by
  refine .bind .trivial fun selected => .through (fun _ _ => selected = target.anchor.source)
    (.ensure (fun same _ _ => of_decide_eq_true same) fun _ _ _ => trivial) fun _ => ?_
  refine .each_state fun _ same => ?_
  subst same
  refine .bind ((readOr_read _).weaken (fun _ _ => trivial) (fun _ _ holds => holds)
    fun _ _ holds => holds) fun bytes => .bind (.gets _) fun digest => ?_
  refine .ensure ?_ fun _ _ _ => trivial
  rintro same world ⟨found, rfl⟩
  exact ⟨bytes, found, of_decide_eq_true same⟩

theorem Read.same (read : Read path digest last) (expected : first.digest bytes = digest)
    (environment : last.environment = first.environment)
    (distinguishes : last.Distinguishes path bytes) : last.sources path = some bytes := by
  obtain ⟨found, now, same⟩ := read
  rw [now]
  refine congrArg some (distinguishes found (now ▸ last.sources_mem_history path) ?_)
  rw [same, ← expected, World.digest, World.digest, environment]

/-- The bytes of a build are known from a check of the digest after it. -/
theorem Watched.built (watched : Watched path first last) (then' : first.sources path = some bytes)
    (expected : first.digest bytes = digest) (recorded : Recorded path true first last)
    (read : Read path digest last) : Built path bytes first last := by
  obtain ⟨began, contents, since⟩ := recorded
  exact ⟨began, contents, since,
    watched.intact then' since (read.same expected watched.environment)⟩

/-- After the build, the installed process was refreshed, in its present epoch. -/
def Refreshes (project : ProjectId) (path : Path) (known : List (Option Bytes) → World → Prop)
    (before after : World) : Prop :=
  ∃ process ∈ after.process project, ∃ began contents, Ensued before after
    [.refreshed project process.epoch, .built path began contents true] ∧ known contents after

theorem Refreshes.idle {known : List (Option Bytes) → World → Prop}
    (refreshes : Refreshes project path known first middle) (idle : Idle middle last)
    (kept : ∀ contents, known contents middle → known contents last) :
    Refreshes project path known first last := by
  obtain ⟨process, running, began, contents, since, holds⟩ := refreshes
  exact ⟨process, by rw [idle.process]; exact running, began, contents,
    since.meanwhile idle.toMeanwhile, kept contents holds⟩

/-- The same, where the check comes after a refresh. -/
theorem Refreshes.read (refreshes : Refreshes project path (fun _ => Watched path first) first last)
    (then' : first.sources path = some bytes) (expected : first.digest bytes = digest)
    (read : Read path digest last) : Refreshes project path (Intact path bytes) first last := by
  obtain ⟨process, running, began, contents, since, watched⟩ := refreshes
  have built := since.fewer (.cons _ (.refl [ChainEvent.built path began contents true]))
  exact ⟨process, running, began, contents, since,
    watched.intact then' built (read.same expected watched.environment)⟩

/-- A validation in the epoch of the refresh. -/
theorem Refreshes.certified
    (refreshes : Refreshes project path (Intact path bytes) first middle)
    (later : Holding project middle true [] last)
    (validated : Engine.Validated project middle true identity last) :
    Certified project path bytes identity [] first last := by
  obtain ⟨process, running, began, contents, since, intact⟩ := refreshes
  obtain ⟨late, early, grown⟩ := validated rfl process running
  have passed : Ensued middle last [.audited identity true process.epoch,
      .resolved identity true process.epoch] := by
    refine .of_meanwhile later.calm.toMeanwhile
      ⟨_ :: (late ++ .resolved identity true process.epoch :: early), by simp [grown],
        List.Sublist.cons_cons _ ?_⟩ ?_
    · exact (List.singleton_sublist.mpr List.mem_cons_self).trans (List.sublist_append_right _ _)
    · simp [ChainEvent.After]
  exact ⟨process.epoch, began, contents, since.trans passed, intact.later later.calm.toMeanwhile⟩

variable {frame : World → Prop}

/-- A refresh after a build on record. -/
theorem refresh_refreshes {workspace : PetWorkspace} {known : List (Option Bytes) → World → Prop}
    (calmed : Calmed project frame) (translate : PetError → Error)
    (kept : ∀ world after contents, Meanwhile world after → Watched path world after →
      known contents world → known contents after) :
    Triple (fun world => Vacant project frame left world ∧
        workspace = (world.layout project).petWorkspace ∧
        ∃ began contents, Ensued start world [.built path began contents true] ∧ known contents world)
      (Act.mapError translate (PetActor.refreshWorkspace project workspace))
      (fun _ world => Vacant project frame [] world ∧ Refreshes project path known start world)
      fun _ _ => True := by
  refine .mapError (.each_state fun middle ⟨vacant, current, began, contents, since, holds⟩ => ?_)
  have refreshed : Triple (Holding project middle false left)
      (PetActor.refreshWorkspace project workspace) _ _ :=
    PetActor.refreshWorkspace_holding current
  have watched : Triple (· = middle) (PetActor.refreshWorkspace project workspace)
      (fun _ => Watched path middle) _ :=
    (PetActor.refreshWorkspace_watched project workspace).started
  refine (Triple.both refreshed watched).weaken ?_ ?_ fun _ _ _ => trivial
  · rintro _ rfl
    exact ⟨vacant.holding false, rfl⟩
  · rintro _ world ⟨⟨later, process, running, _, events, grown⟩, watched⟩
    refine ⟨vacant.calm calmed later, process, running, began, contents, since.trans
      (.of_meanwhile later.calm.toMeanwhile ⟨_ :: events, grown,
        List.singleton_sublist.mpr List.mem_cons_self⟩ ?_), ?_⟩
    · simp [ChainEvent.After]
    · exact kept _ _ _ later.calm.toMeanwhile watched holds

namespace Writeback

variable {publication : PreparedPublication} {target : DeclarationTarget}

theorem always_frame : Frame project fun _ => True where
  calmed _ _ _ _ := trivial
  written _ _ _ _ := trivial

/-- The replacement is built, refreshed and validated. -/
theorem buildAndValidate_certified
    (vacant : Vacant project (Prepared project publication fun _ => True) left start)
    (source : start.sources publication.path = some publication.replacement)
    (expected : start.digest publication.replacement = publication.replacementDigest) :
    Triple (· = start)
      (buildAndValidate project publication (Engine.validateWritten project target))
      (fun _ => Certified project publication.path publication.replacement
        target.info.identity [] start)
      fun _ _ => True := by
  let refreshes (world : World) : Prop := Refreshes project publication.path
    (Intact publication.path publication.replacement) start world
  have calmed : Calmed project (Prepared project publication fun _ => True) :=
    Prepared.calmed always_frame.calmed
  have checked : Stays (Attends publication.path)
      (requireDigest publication.path publication.replacementDigest) :=
    .of_stays (requireDigest_idle _ _) (requireDigest_watched _ _)
  refine .bind (nativeBuild_records publication.path publication.path) fun _ => .through
    (fun _ world => Attends publication.path start world ∧
      Built publication.path publication.replacement start world) ?_ fun _ => ?_
  · refine .each_state fun middle ⟨attends, recorded⟩ => ?_
    refine (Triple.both checked.started (requireDigest_read _)).weaken
      (fun _ holds => ⟨holds, trivial⟩) ?_ fun _ _ _ => trivial
    rintro _ world ⟨late, read⟩
    have whole := attends.trans late
    exact ⟨whole, whole.2.built source expected (recorded.meanwhile late.1.toMeanwhile) read⟩
  refine .through (fun _ world => Vacant project (Prepared project publication fun _ => True) [] world ∧
    refreshes world) ?_ fun _ => ?_
  · have refreshed : Triple (fun world =>
        Vacant project (Prepared project publication fun _ => True) left world ∧
          publication.workspace = (world.layout project).petWorkspace ∧
            ∃ began contents, Ensued start world [.built publication.path began contents true] ∧
              Intact publication.path publication.replacement contents world) _ _ _ :=
      refresh_refreshes calmed refreshError fun _ _ _ meanwhile _ intact => intact.later meanwhile
    refine refreshed.weaken ?_ (fun _ _ holds => holds) fun _ _ holds => holds
    rintro world ⟨attends, began, contents, since, intact⟩
    have later := vacant.idle calmed attends.1
    exact ⟨later, later.framed.current, began, contents, since, intact⟩
  refine .through (fun _ world => Vacant project (Prepared project publication fun _ => True) [] world ∧
    refreshes world) ?_ fun _ => .through (fun _ => Certified project publication.path
      publication.replacement target.info.identity [] start) ?_ fun _ => ?_
  · refine (requireDigest_idle _ _).kept fun _ _ idle holds => ?_
    exact ⟨holds.1.idle calmed idle,
      holds.2.idle idle fun _ intact => intact.later idle.toMeanwhile⟩
  · refine .each_state fun middle (⟨vacant, refreshed⟩ : _ ∧ refreshes middle) => ?_
    have validated : Triple (Holding project middle true []) _ _ _ :=
      Engine.validateWritten_holding target
    refine validated.weaken ?_ ?_ fun _ _ _ => trivial
    · rintro _ rfl
      exact vacant.holding true
    · rintro _ world ⟨later, passed, -⟩
      exact refreshed.certified later passed
  · exact .bind ((requireDigest_idle _ _).kept fun _ _ idle certified =>
      certified.later idle.toMeanwhile) fun _ => .pure fun _ holds => holds

/-- The bytes are on disk. -/
theorem atomicWrite_written (path : Path) (bytes : Bytes) :
    Triple (fun world => Ensued start world []) (atomicWrite path bytes)
      (fun _ world => world.sources path = some bytes ∧ ∃ at', Ensued start world [.wrote path at'])
      fun _ _ => True := by
  refine .bind (tick_idle.kept fun _ _ idle since => since.meanwhile idle.toMeanwhile) fun tick =>
    .through (fun _ world => Ensued start world []) (fun _ since => since) fun present => ?_
  refine .ite (fun _ => .throw fun _ _ => trivial) fun _ => .through
    (fun _ world => Ensued start world []) ?_ fun _ => .through
    (fun _ world => world.sources path = some bytes ∧ ∃ at', Ensued start world [.wrote path at'])
    ?_ fun _ => .ensure (fun _ _ holds => holds) fun _ _ _ => trivial
  · exact (noteWhen_idle _ _).kept fun _ _ idle since => since.meanwhile idle.toMeanwhile
  · intro world since
    have wrote : Ensued world (overwrite world path bytes) [.wrote path world.now] := by
      refine { environment := rfl
               began := rfl
               now := Nat.le_refl _
               noted := fun _ noted => noted
               recalled := fun other content member => ?_
               chain := ⟨[.wrote path world.now], rfl, .refl _⟩
               timely := fun event member => ?_ }
      · have written : (overwrite world path bytes).history other = _ :=
          world.history_writeSource .server path (some bytes)
        rw [written]
        split
        · exact List.mem_cons_of_mem _ member
        · exact member
      · rw [List.mem_singleton.mp member]
        exact Nat.le_refl _
    refine ⟨?_, world.now, since.trans wrote⟩
    have now : (world.writeSource .server path (some bytes)).sources path = some bytes := by
      rw [World.sources_writeSource, if_pos rfl]
    exact now

theorem rollback_throws (mark : Nat) (error : Error) :
    Triple (fun _ => True) (rollback project mark publication error : EngineM α) (fun _ _ => False)
      fun _ _ => True :=
  .bind .trivial fun _ => .ite (fun _ => .throw fun _ _ => trivial) fun _ => .throw fun _ _ => trivial

theorem atomicWrite_environment (path : Path) (bytes : Bytes) :
    Stays (fun before after : World => after.environment = before.environment)
      (atomicWrite path bytes) := by
  have : IsPreorder World fun before after : World => after.environment = before.environment :=
    { refl := fun _ => rfl, trans := fun _ _ _ first second => Eq.trans second first }
  have idle {β : Type} {action : EngineM β} (stays : Stays Idle action) :
      Stays (fun before after : World => after.environment = before.environment) action :=
    stays.weaken fun _ _ idle => idle.environment
  exact .bind (idle tick_idle) fun _ => .bind (.gets _) fun _ => .ite (fun _ => .throw _) fun _ =>
    .bind (idle (noteWhen_idle _ _)) fun _ => .bind (.modify fun _ => rfl) fun _ => .ensure _ _

/-- The digest of a publication is the one of its replacement. -/
def Digested (publication : PreparedPublication) (world : World) : Prop :=
  publication.replacementDigest = world.digest publication.replacement

theorem Digested.later (digested : Digested publication start)
    (environment : after.environment = start.environment) : Digested publication after := by
  rw [Digested, digested, World.digest, World.digest, environment]

/-- A publication that succeeds has written the replacement, and then built,
refreshed and validated it. -/
theorem publish_certified :
    Triple (fun world => Vacant project (Prepared project publication fun _ => True) left world ∧
        Ensued start world [] ∧ Digested publication world)
      (publish project publication (Engine.validateWritten project target))
      (fun _ world => ∃ at', Certified project publication.path publication.replacement
        target.info.identity [.wrote publication.path at'] start world)
      fun _ _ => True := by
  have kept : Frame project (Prepared project publication fun _ => True) := always_frame.prepared
  let ready (world : World) : Prop :=
    Vacant project (Prepared project publication fun _ => True) left world ∧ Ensued start world [] ∧
      Digested publication world
  let wrote (world : World) : Prop :=
    Vacant project (Prepared project publication fun _ => True) left world ∧
      Digested publication world ∧ world.sources publication.path = some publication.replacement ∧
      ∃ at', Ensued start world [.wrote publication.path at']
  refine .through (fun _ => ready) (fun _ holds => holds) fun mark => .through (fun _ => ready)
    (fun _ holds => holds) fun digest => .through (fun _ => ready) ?_ fun owned =>
    .ite (fun _ => .bind .trivial fun _ => .throw fun _ _ => trivial) fun _ => ?_
  · refine (owns_idle _ _).kept fun _ _ idle ⟨vacant, since, digested⟩ => ?_
    exact ⟨vacant.idle kept.calmed idle, since.meanwhile idle.toMeanwhile,
      digested.later idle.environment⟩
  have written : Triple ready (atomicWrite publication.path publication.replacement)
      (fun _ => wrote) fun _ _ => True := by
    have digested : Triple (Digested publication)
        (atomicWrite publication.path publication.replacement) (fun _ => Digested publication) _ :=
      (atomicWrite_environment _ _).kept fun _ _ same digested => digested.later same
    have vacates : Triple (Vacant project (Prepared project publication fun _ => True) left)
        (atomicWrite publication.path publication.replacement) _ _ :=
      atomicWrite_vacant kept _ _
    have writes : Triple (fun world => Ensued start world [])
        (atomicWrite publication.path publication.replacement) _ _ :=
      atomicWrite_written _ _
    refine (Triple.both vacates (Triple.both digested writes)).weaken ?_ ?_ fun _ _ _ => trivial
    · rintro world ⟨vacant, since, digested⟩
      exact ⟨vacant, digested, since⟩
    · rintro _ world ⟨vacant, digested, source, since⟩
      exact ⟨vacant, digested, source, since⟩
  refine .bind (.attempt written) fun result => ?_
  cases result with
  | error error => exact .bind .trivial fun _ => .throw fun _ _ => trivial
  | ok _ =>
    refine .each_state fun middle ⟨vacant, digested, source, at', since⟩ => ?_
    refine .bind (.attempt (buildAndValidate_certified vacant source digested.symm)) fun result => ?_
    cases result with
    | ok value => exact .pure fun _ certified => ⟨at', certified.earlier since⟩
    | error error =>
      exact (rollback_throws mark error).weaken (fun _ _ => trivial) (fun _ _ impossible =>
        impossible.elim) fun _ _ _ => trivial

theorem resolveBuilt_holding {live : Bool} (target : DeclarationTarget) (unfinished gone : String) :
    Triple (Holding project start live [])
      (do let current ← Engine.resolveFinished project target unfinished gone
          Engine.auditTarget project current
          return completedState current.info)
      (fun _ world => Holding project start live [] world ∧
        Engine.Validated project start live target.info.identity world)
      fun _ _ => True := by
  refine .bind ((Engine.resolveFinished_holding target _ _).weaken (fun _ holds => holds)
    (fun _ _ holds => holds) fun _ _ _ => trivial) fun current => ?_
  have audited : Triple (fun world => Holding project start live [] world ∧
      Logged project start live (.resolved current.info.identity true) world) _ _ _ :=
    Engine.auditResolved_holding current
  intro world ⟨holding, logged, named⟩
  rw [← named] at logged ⊢
  exact audited.weaken (fun _ holds => holds) (fun _ _ holds => ⟨holds.1, holds.2.1⟩)
    (fun _ _ _ => trivial) world ⟨holding, logged⟩

/-- The validation of a build epoch. -/
theorem validateBuilt_certified (calmed : Calmed project frame)
    (then' : start.sources target.anchor.source = some bytes)
    (expected : start.digest bytes = target.anchor.digest) :
    Triple (fun world => Vacant project frame [] world ∧ Refreshes project target.anchor.source
        (fun _ => Watched target.anchor.source start) start world)
      (Engine.validateBuilt project target)
      (fun _ => Certified project target.anchor.source bytes target.info.identity [] start)
      fun _ _ => True := by
  have checked : Stays (Attends target.anchor.source) (Engine.validateTarget project target) :=
    .of_stays (Engine.validateTarget_idle project target) (validateTarget_watched project target)
  refine .through (fun _ world => Vacant project frame [] world ∧ Refreshes project
    target.anchor.source (Intact target.anchor.source bytes) start world) ?_ fun _ => ?_
  · refine .each_state fun middle ⟨vacant, refreshes⟩ => ?_
    refine (Triple.both checked.started (validateTarget_read target)).weaken
      (fun _ holds => ⟨holds, trivial⟩) ?_ fun _ _ _ => trivial
    rintro _ world ⟨⟨idle, watched⟩, read⟩
    refine ⟨vacant.idle calmed idle, Refreshes.read ?_ then' expected read⟩
    exact refreshes.idle idle fun _ early => trans_of (Watched target.anchor.source) early watched
  · refine .each_state fun middle ⟨vacant, refreshes⟩ => ?_
    have validated : Triple (Holding project middle true []) _ _ _ :=
      resolveBuilt_holding target "built declaration is not a completed proof"
        "built declaration disappeared"
    refine validated.weaken ?_ ?_ fun _ _ _ => trivial
    · rintro _ rfl
      exact vacant.holding true
    · rintro _ world ⟨later, validated⟩
      exact refreshes.certified later validated

/-- The target is checked before a build epoch, and after it. -/
theorem buildAndRefresh_certified (vacant : Vacant project frame left start)
    (calmed : Calmed project frame) (then' : start.sources target.anchor.source = some bytes)
    (expected : start.digest bytes = target.anchor.digest) :
    Triple (· = start)
      (buildAndRefresh project target.anchor.source (Engine.validateBuilt project target))
      (fun _ => Certified project target.anchor.source bytes target.info.identity [] start)
      fun _ _ => True := by
  let watching : List (Option Bytes) → World → Prop :=
    fun _ => Watched target.anchor.source start
  refine .through (fun workspace world => world = start ∧
    workspace = (start.layout project).petWorkspace) ?_ fun workspace => ?_
  · have read : Triple (· = start) (DuneProject.petWorkspace project target.anchor.source)
        (fun workspace world => world = start ∧ workspace = (start.layout project).petWorkspace)
        fun _ _ => True := by
      refine .bind (.gets _) fun layout => ?_
      rintro world ⟨rfl, rfl⟩
      by_cases selected : (world.layout project).containsFile target.anchor.source
      · simp only [Layout.petWorkspaceOf, selected, if_true]
        exact ⟨rfl, rfl⟩
      · simp only [Layout.petWorkspaceOf, selected]
        exact trivial
    refine .bind (.attempt read) fun result => ?_
    cases result with
    | ok workspace => exact .pure fun _ holds => holds
    | error error => exact .bind .trivial fun _ => .throw fun _ _ => trivial
  refine .assume fun current => .bind (.attempt
    (nativeBuild_records target.anchor.source target.anchor.source)) fun build => ?_
  cases build with
  | error error => exact .bind .trivial fun _ => .throw fun _ _ => trivial
  | ok _ =>
    have refreshed : Triple (fun world => Vacant project frame left world ∧
        workspace = (world.layout project).petWorkspace ∧ ∃ began contents,
          Ensued start world [.built target.anchor.source began contents true] ∧
            watching contents world) _ _ _ :=
      refresh_refreshes calmed refreshError fun _ _ _ _ late early =>
        trans_of (Watched target.anchor.source) early late
    refine .bind (refreshed.weaken ?_ (fun _ _ holds => holds) fun _ _ holds => holds) fun _ => ?_
    · rintro world ⟨⟨idle, watched⟩, began, contents, since⟩
      refine ⟨vacant.idle calmed idle, ?_, began, contents, since, watched⟩
      rw [current, (idle.calm project).layout]
    exact fun world holds => validateBuilt_certified calmed then' expected world holds

end Writeback

end

end RocqMcp
