import RocqMcp.Writeback

/-! What the operations of the engine leave alone. `Meanwhile` is what every one
of them may do, `Idle` operations touch no project runtime, and `Calm` ones
only the PET actor of one project. -/

namespace RocqMcp

open Library

/-- Time passes, cancellations arrive, other programs write, and records grow. -/
structure Meanwhile (before after : World) : Prop where
  environment : after.environment = before.environment
  initialSources : after.initialSources = before.initialSources
  connections : after.connections = before.connections
  selections : after.selections = before.selections
  now : before.now ≤ after.now
  committed : before.signal = .committed → after.signal = .committed
  journal : ∃ writes, after.journal = writes ++ before.journal ∧
    ∀ write ∈ writes, write.author = .external
  noted : ∃ mishaps, after.ghost.mishaps = mishaps ++ before.ghost.mishaps
  chain : ∃ events, after.ghost.chain = events ++ before.ghost.chain ∧
    ∀ source at', .wrote source at' ∉ events
  splices : after.ghost.splices = before.ghost.splices
  turns : ∃ turns, after.ghost.turns = turns ++ before.ghost.turns
  submissions : after.ghost.submissions = before.ghost.submissions
  began : after.ghost.began = before.ghost.began
  changed : after.ghost.changed = before.ghost.changed

theorem Meanwhile.refl (world : World) : Meanwhile world world where
  environment := rfl
  initialSources := rfl
  connections := rfl
  selections := rfl
  now := Nat.le_refl _
  committed same := same
  journal := ⟨[], rfl, by simp⟩
  noted := ⟨[], rfl⟩
  chain := ⟨[], rfl, by simp⟩
  splices := rfl
  turns := ⟨[], rfl⟩
  submissions := rfl
  began := rfl
  changed := rfl

theorem Meanwhile.trans (first : Meanwhile a b) (second : Meanwhile b c) : Meanwhile a c where
  environment := second.environment.trans first.environment
  initialSources := second.initialSources.trans first.initialSources
  connections := second.connections.trans first.connections
  selections := second.selections.trans first.selections
  now := Nat.le_trans first.now second.now
  committed same := second.committed (first.committed same)
  journal := by
    obtain ⟨early, grown, external⟩ := first.journal
    obtain ⟨late, grown', external'⟩ := second.journal
    refine ⟨late ++ early, by rw [grown', grown, List.append_assoc], ?_⟩
    intro write member
    rcases List.mem_append.mp member with new | old
    · exact external' write new
    · exact external write old
  noted := by
    obtain ⟨early, grown⟩ := first.noted
    obtain ⟨late, grown'⟩ := second.noted
    exact ⟨late ++ early, by rw [grown', grown, List.append_assoc]⟩
  chain := by
    obtain ⟨early, grown, unwritten⟩ := first.chain
    obtain ⟨late, grown', unwritten'⟩ := second.chain
    refine ⟨late ++ early, by rw [grown', grown, List.append_assoc], ?_⟩
    intro source at' member
    exact (List.mem_append.mp member).elim (unwritten' source at') (unwritten source at')
  splices := second.splices.trans first.splices
  turns := by
    obtain ⟨early, grown⟩ := first.turns
    obtain ⟨late, grown'⟩ := second.turns
    exact ⟨late ++ early, by rw [grown', grown, List.append_assoc]⟩
  submissions := second.submissions.trans first.submissions
  began := second.began.trans first.began
  changed := second.changed.trans first.changed

theorem Meanwhile.mishaps (meanwhile : Meanwhile before after) (mishap : Mishap)
    (suffered : before.Suffered mishap) : after.Suffered mishap := by
  obtain ⟨mishaps, grown⟩ := meanwhile.noted
  rw [World.Suffered, grown]
  exact List.mem_append_right _ suffered

/-- No project runtime is touched. -/
structure Idle (before after : World) : Prop extends Meanwhile before after where
  projects : after.projects = before.projects

instance : IsPreorder World Idle where
  refl world := { Meanwhile.refl world with projects := rfl }
  trans _ _ _ first second :=
    { first.toMeanwhile.trans second.toMeanwhile with
      projects := second.projects.trans first.projects }

/-- The kind ends the PET epoch, if at all, because of a cancellation. -/
def Error.Mild (error : Error) : Prop :=
  error.kind.invalidatesPetEpoch = true → error.kind = .requestCancelled

theorem Error.Mild.of_kind {error : Error} (mild : error.kind.invalidatesPetEpoch = false) :
    error.Mild := by
  simp [Error.Mild, mild]

/-- A pure check whose errors are mild. -/
def MildResult (result : Except Error α) : Prop := ∀ error, result = .error error → error.Mild

namespace MildResult

theorem ok (value : α) : MildResult (.ok value) := nofun

theorem error {error : Error} (mild : error.Mild) : MildResult (.error error : Except Error α) := by
  rintro _ ⟨⟩
  exact mild

theorem ite {condition : Prop} [Decidable condition] {yes no : Except Error α}
    (positive : MildResult yes) (negative : MildResult no) :
    MildResult (if condition then yes else no) := by
  split
  · exact positive
  · exact negative

theorem bind {result : Except Error α} {next : α → Except Error β} (first : MildResult result)
    (second : ∀ value, MildResult (next value)) : MildResult (result >>= next) := by
  cases result with
  | ok value => exact second value
  | error error => exact .error (first error rfl)

theorem mapM {check : α → Except Error β} (mild : ∀ value, MildResult (check value))
    (list : List α) : MildResult (list.mapM check) := by
  induction list with
  | nil => exact .ok []
  | cons head rest ih =>
    rw [List.mapM_cons]
    exact .bind (mild head) fun _ => .bind ih fun _ => .ok _

end MildResult

/-- At most the PET actor of the project is touched. -/
structure Calm (project : ProjectId) (before after : World) : Prop
    extends Meanwhile before after where
  others : ∀ other, other ≠ project → after.projects other = before.projects other
  view : (after.projects project).project = (before.projects project).project
  artifacts : (after.projects project).artifacts = (before.projects project).artifacts
  epoch : ∀ process ∈ after.process project,
    before.now ≤ process.epoch ∨
      ∃ earlier ∈ before.process project, earlier.epoch ≤ process.epoch

instance (project : ProjectId) : IsPreorder World (Calm project) where
  refl world :=
    { Meanwhile.refl world with
      others := fun _ _ => rfl
      view := rfl
      artifacts := rfl
      epoch := fun process installed => .inr ⟨process, installed, Nat.le_refl _⟩ }
  trans _ _ _ first second :=
    { first.toMeanwhile.trans second.toMeanwhile with
      others := fun other different =>
        (second.others other different).trans (first.others other different)
      view := second.view.trans first.view
      artifacts := second.artifacts.trans first.artifacts
      epoch := by
        intro process installed
        rcases second.epoch process installed with late | ⟨middle, installed', older⟩
        · exact .inl (Nat.le_trans first.now late)
        · rcases first.epoch middle installed' with late | ⟨earlier, installed'', older'⟩
          · exact .inl (Nat.le_trans late older)
          · exact .inr ⟨earlier, installed'', Nat.le_trans older' older⟩ }

theorem Idle.process (idle : Idle before after) (project : ProjectId) :
    after.process project = before.process project := by
  simp only [World.process, World.actor, idle.projects]

theorem Idle.calm (idle : Idle before after) (project : ProjectId) : Calm project before after where
  toMeanwhile := idle.toMeanwhile
  others _ _ := by rw [idle.projects]
  view := by rw [idle.projects]
  artifacts := by rw [idle.projects]
  epoch process installed := .inr ⟨process, idle.process project ▸ installed, Nat.le_refl _⟩

theorem Calm.layout (calm : Calm project before after) :
    after.layout project = before.layout project := by
  simp only [World.layout, calm.view]

namespace World

theorem note_meanwhile (world : World) (mishap : Mishap) : Meanwhile world (world.note mishap) :=
  { Meanwhile.refl world with
    noted := ⟨[mishap], rfl⟩ }

theorem record_meanwhile (world : World) (event : ChainEvent)
    (unwritten : ∀ source at', .wrote source at' ≠ event) : Meanwhile world (world.record event) :=
  { Meanwhile.refl world with chain := ⟨[event], rfl, by simpa using unwritten⟩ }

theorem recordTurn_idle (world : World) (turn : PetTurn) : Idle world (world.recordTurn turn) :=
  { Meanwhile.refl world with
    turns := ⟨[turn], rfl⟩
    projects := rfl }

theorem edit_idle (world : World) (edit : Edit) : Idle world (world.edit edit) := by
  have written : Idle world (world.writeSource .external edit.path edit.content) :=
    { Meanwhile.refl world with
      journal := ⟨[_], rfl, by simp⟩
      projects := rfl }
  unfold World.edit
  dsimp only
  split
  · exact { written.toMeanwhile.trans (note_meanwhile _ _) with projects := rfl }
  · exact written

theorem edits_idle (world : World) (list : List Edit) : Idle world (world.edits list) := by
  induction list generalizing world with
  | nil => exact refl_of Idle world
  | cons edit rest ih => exact trans_of Idle (edit_idle world edit) (ih (world.edit edit))

end World

theorem noteWhen_idle (condition : Bool) (mishap : Mishap) :
    Stays Idle (noteWhen condition mishap : Act World ε Unit) :=
  .when condition (.modify fun world => { world.note_meanwhile mishap with projects := rfl })

/-- Recording cannot fail. -/
theorem noteWhen_keeps {condition : Bool} {mishap : Mishap} {before after : World → Prop}
    {failed : ε → World → Prop}
    (kept : ∀ world world', Idle world world' → before world → after world') :
    Triple before (noteWhen condition mishap) (fun _ => after) failed := by
  intro world holds
  have idle := @noteWhen_idle ε condition mishap world
  cases condition with
  | true => exact kept _ _ idle holds
  | false => exact kept _ _ idle holds

theorem tick_idle : Stays Idle (tick : Act World ε Tick) := by
  intro world
  refine trans_of Idle ?_ (World.edits_idle _ _)
  exact
    { Meanwhile.refl world with
      now := Nat.le_succ _
      committed := by
        intro committed
        simp only [committed]
        cases (world.environment.tick world.now).arrival with
        | none => rfl
        | some arrival => cases arrival <;> rfl
      projects := rfl }

theorem readSource_idle (path : Path) : Stays Idle (readSource path : Act World ε (Option Bytes)) :=
  .bind tick_idle fun _ => .bind (.gets _) fun _ => .pure _

theorem requestCancelled_idle : Stays Idle (requestCancelled : Act World ε Bool) :=
  .bind tick_idle fun _ => .gets _

theorem rejectCancelled_idle : Stays Idle rejectCancelled :=
  .bind requestCancelled_idle fun _ => .ensure _ _

theorem commitRequest_idle : Stays Idle (commitRequest : Act World ε Bool) := by
  refine .bind tick_idle fun _ => .bind (.gets _) fun _ => .bind (.when _ ?_) fun _ => .pure _
  exact .modify fun world =>
    { Meanwhile.refl world with
      committed := fun _ => rfl
      projects := rfl }

theorem commitOrCancelled_idle : Stays Idle commitOrCancelled :=
  .bind commitRequest_idle fun _ => .ensure _ _

section

variable {allowed : ε → Prop}

theorem tick_throws : Throws allowed (tick : Act World ε Tick) := nofun

theorem readSource_throws (path : Path) : Throws allowed (readSource path) :=
  .bind tick_throws fun _ => .bind (.gets _) fun _ => .pure _

theorem requestCancelled_throws : Throws allowed requestCancelled :=
  .bind tick_throws fun _ => .gets _

theorem commitRequest_throws : Throws allowed commitRequest :=
  .bind tick_throws fun _ => .bind (.gets _) fun _ => .bind (.when _ (.modify _)) fun _ => .pure _

end

theorem rejectCancelled_throws : Throws Error.Mild rejectCancelled :=
  .bind requestCancelled_throws fun _ => .ensure fun _ => rfl

theorem Layout.library_mild (layout : Layout) (file : Path) : MildResult (layout.library file) := by
  unfold Layout.library
  split
  · exact .ok _
  · exact .error (.of_kind rfl)

theorem Layout.buildTarget_mild (layout : Layout) (file : Path) :
    MildResult (layout.buildTarget file) := by
  unfold Layout.buildTarget
  split
  · exact .ok _
  · exact .error (.of_kind rfl)

theorem World.artifactPath_mild (world : World) (project : ProjectId) (source : Path) :
    MildResult (world.artifactPath project source) :=
  .bind (Layout.buildTarget_mild _ _) fun _ => .ok _

theorem validateFileId_mild (file : FileId) : MildResult (validateFileId file) :=
  .ite (.ok _) (.error (.of_kind rfl))

theorem Engine.fileIdOf_mild (project : ProjectId) (source : Path) :
    MildResult (fileIdOf project source) := by
  unfold fileIdOf
  split
  · exact .ok _
  · exact .error (.of_kind rfl)

theorem BuildOutcome.result_mild (interrupted : Bool) (outcome : BuildOutcome) :
    MildResult (outcome.result interrupted) := by
  cases interrupted with
  | true => exact .error fun _ => rfl
  | false =>
    cases outcome with
    | succeeded => exact .ok ()
    | _ => exact .error (.of_kind rfl)

namespace DuneProject

variable (project : ProjectId)

theorem source_idle (file : FileId) : Stays Idle (source project file) :=
  .bind (.ofExcept _) fun _ => .bind tick_idle fun _ => .bind (.gets _) fun _ =>
    .bind (.gets _) fun _ => .bind (.ensure _ _) fun _ => .bind (.gets _) fun _ =>
      .bind (.ensure _ _) fun _ => .pure _

theorem petWorkspace_idle (source : Path) : Stays Idle (petWorkspace project source) :=
  .bind (.gets _) fun _ => .ofExcept _

theorem library_idle (source : Path) : Stays Idle (library project source) :=
  .bind (.gets _) fun _ => .ofExcept _

theorem artifactPath_idle (source : Path) : Stays Idle (artifactPath project source) :=
  .bind (.gets _) fun _ => .ofExcept _

theorem petSource_idle (source : Path) : Stays Idle (petSource project source) :=
  .bind (artifactPath_idle project source) fun _ => .bind tick_idle fun _ =>
    .bind (.gets _) fun _ => .pure _

theorem source_throws (file : FileId) : Throws Error.Mild (source project file) :=
  .bind (.ofExcept (validateFileId_mild file)) fun _ => .bind tick_throws fun _ =>
    .bind (.gets _) fun _ => .bind (.gets _) fun _ => .bind (.ensure (.of_kind rfl)) fun _ =>
      .bind (.gets _) fun _ => .bind (.ensure (.of_kind rfl)) fun _ => .pure _

theorem library_throws (source : Path) : Throws Error.Mild (library project source) :=
  .bind (.gets _) fun layout => .ofExcept (layout.library_mild source)

theorem artifactPath_throws (source : Path) : Throws Error.Mild (artifactPath project source) :=
  fun world error failed => world.artifactPath_mild project source error failed

theorem petSource_throws (source : Path) : Throws Error.Mild (petSource project source) :=
  .bind (artifactPath_throws project source) fun _ => .bind tick_throws fun _ =>
    .bind (.gets _) fun _ => .pure _

end DuneProject

theorem layoutProbe_idle : Stays Idle layoutProbe := by
  refine .bind tick_idle fun tick => ?_
  cases tick.probe with
  | none => exact .throw _
  | some probe => exact .pure probe

theorem loadLayout_idle : Stays Idle loadLayout := by
  refine .bind tick_idle fun tick => .bind (.gets _) fun cancelled => .ite (fun _ => .throw _) ?_
  intro _
  cases tick.layout with
  | loaded root layout => exact .pure _
  | _ => exact .throw _

theorem layoutProbe_throws : Throws Error.Mild layoutProbe := by
  refine .bind tick_throws fun tick => ?_
  cases tick.probe with
  | none => exact .throw (.of_kind rfl)
  | some probe => exact .pure probe

theorem loadLayout_throws : Throws Error.Mild loadLayout := by
  refine .bind tick_throws fun tick => .bind (.gets _) fun _ => .ite (fun _ => .throw fun _ => rfl) ?_
  intro _
  cases tick.layout with
  | loaded root layout => exact .pure _
  | _ => exact .throw (.of_kind rfl)

theorem World.runBuild_idle (world : World) (source : Path) (tick : Tick) (succeeded : Bool) :
    Idle world (world.runBuild source tick succeeded) := by
  have edited := world.edits_idle tick.during
  obtain ⟨events, grown, unwritten⟩ := edited.chain
  exact
    { edited.toMeanwhile with
      chain := ⟨_ :: events, congrArg (List.cons _) grown, by simpa using unwritten⟩
      projects := edited.projects }

theorem nativeBuild_idle (project : ProjectId) (source : Path) :
    Stays Idle (nativeBuild project source) :=
  .bind (.gets _) fun _ => .bind (.ofExcept _) fun _ => .bind tick_idle fun tick =>
    .bind (.gets _) fun _ => .bind (.modify fun world => world.runBuild_idle source tick _)
      fun _ => .bind (.gets _) fun _ => .bind (noteWhen_idle _ _) fun _ => .ofExcept _

theorem nativeBuild_throws (project : ProjectId) (source : Path) :
    Throws Error.Mild (nativeBuild project source) :=
  .bind (.gets _) fun layout => .bind (.ofExcept (layout.buildTarget_mild source)) fun _ =>
    .bind tick_throws fun tick => .bind (.gets _) fun _ => .bind (.modify _) fun _ =>
      .bind (.gets _) fun _ => .bind (.when _ (.modify _)) fun _ =>
        .ofExcept (tick.build.result_mild _)

namespace Engine

variable (project : ProjectId)

theorem attach_idle : Stays Idle attach :=
  .bind tick_idle fun _ => .bind (.ensure _ _) fun _ => .bind loadLayout_idle fun _ =>
    .bind layoutProbe_idle fun _ => .pure _

theorem listFiles_idle : Stays Idle (listFiles project) :=
  .bind (.gets _) fun _ => .ofExcept _

theorem digestIfPresent_idle (path : Path) : Stays Idle (digestIfPresent path) :=
  .bind tick_idle fun _ => .bind (.ensure _ _) fun _ => .gets _

theorem readOr_idle (path : Path) (message : String) : Stays Idle (readOr path message) := by
  refine .bind (readSource_idle path) fun content => ?_
  cases content with
  | none => exact .throw _
  | some bytes => exact .pure bytes

theorem readOr_throws (path : Path) (message : String) : Throws Error.Mild (readOr path message) := by
  refine .bind (readSource_throws path) fun content => ?_
  cases content with
  | none => exact .throw (.of_kind rfl)
  | some bytes => exact .pure bytes

theorem digestIfPresent_throws (path : Path) : Throws Error.Mild (digestIfPresent path) :=
  .bind tick_throws fun _ => .bind (.ensure (.of_kind rfl)) fun _ => .gets _

theorem listFiles_throws : Throws Error.Mild (listFiles project) :=
  .bind (.gets _) fun files => .ofExcept (MildResult.mapM (fileIdOf_mild project) files)

theorem artifactFingerprint_throws (file : FileId) :
    Throws Error.Mild (artifactFingerprint project file) :=
  .bind (DuneProject.source_throws project file) fun _ => .bind (readOr_throws _ _) fun _ =>
    .bind (DuneProject.artifactPath_throws project _) fun _ =>
      .bind (digestIfPresent_throws _) fun _ => .bind (digestIfPresent_throws _) fun _ =>
        .bind (.gets _) fun _ => .pure _

theorem reconcileSource_throws (file : FileId) : Throws Error.Mild (reconcileSource project file) :=
  .bind (DuneProject.source_throws project file) fun _ =>
    .bind (nativeBuild_throws project _) fun _ => artifactFingerprint_throws project file

theorem artifactFingerprint_idle (file : FileId) : Stays Idle (artifactFingerprint project file) :=
  .bind (DuneProject.source_idle project file) fun _ => .bind (readOr_idle _ _) fun _ =>
    .bind (DuneProject.artifactPath_idle project _) fun _ =>
      .bind (digestIfPresent_idle _) fun _ => .bind (digestIfPresent_idle _) fun _ =>
        .bind (.gets _) fun _ => .pure _

theorem reconcileSource_idle (file : FileId) : Stays Idle (reconcileSource project file) :=
  .bind (DuneProject.source_idle project file) fun _ => .bind (nativeBuild_idle project _) fun _ =>
    artifactFingerprint_idle project file

theorem validateTarget_idle (target : DeclarationTarget) :
    Stays Idle (validateTarget project target) :=
  .bind (.mapError (DuneProject.source_idle project _)) fun _ => .bind (.ensure _ _) fun _ =>
    .bind (readOr_idle _ _) fun _ => .bind (.gets _) fun _ => .ensure _ _

theorem validateTarget_throws (target : DeclarationTarget) :
    Throws Error.Mild (validateTarget project target) := by
  refine .bind (.mapError ((DuneProject.source_throws project _).weaken ?_)) fun _ =>
    .bind (.ensure (.of_kind rfl)) fun _ => .bind (readOr_throws _ _) fun _ =>
      .bind (.gets _) fun _ => .ensure (.of_kind rfl)
  intro error mild
  split
  · exact .of_kind rfl
  · exact mild

theorem filterCandidates_idle (files : List FileId) : Stays Idle (filterCandidates project files) := by
  induction files with
  | nil => exact .pure _
  | cons file rest ih =>
    exact .bind requestCancelled_idle fun _ => .bind (.ensure _ _) fun _ =>
      .bind (DuneProject.source_idle project file) fun _ => .bind tick_idle fun _ =>
        .bind (.ensure _ _) fun _ => .bind ih fun _ => .pure _

theorem filterCandidates_throws (files : List FileId) :
    Throws Error.Mild (filterCandidates project files) := by
  induction files with
  | nil => exact .pure _
  | cons file rest ih =>
    exact .bind requestCancelled_throws fun _ => .bind (.ensure fun _ => rfl) fun _ =>
      .bind (DuneProject.source_throws project file) fun _ => .bind tick_throws fun _ =>
        .bind (.ensure (.of_kind rfl)) fun _ => .bind ih fun _ => .pure _

theorem locateSymbolCandidates_throws (symbol : String) :
    Throws Error.Mild (locateSymbolCandidates project symbol) := by
  refine .bind (.ensure (.of_kind rfl)) fun _ => .bind (listFiles_throws project) fun files =>
    .bind (.gets _) fun unit => ?_
  cases unit with
  | none => exact filterCandidates_throws project files
  | some source =>
    exact .ite (fun _ => .bind (.ofExcept (fileIdOf_mild project _)) fun _ => .pure _) fun _ =>
      filterCandidates_throws project files

theorem locateSymbolCandidates_idle (symbol : String) :
    Stays Idle (locateSymbolCandidates project symbol) := by
  refine .bind (.ensure _ _) fun _ => .bind (listFiles_idle project) fun files =>
    .bind (.gets _) fun unit => ?_
  cases unit with
  | none => exact filterCandidates_idle project files
  | some source =>
    exact .ite (fun _ => .bind (.ofExcept _) fun _ => .pure _) fun _ =>
      filterCandidates_idle project files

end Engine

namespace Writeback

theorem owns_idle (path : Path) (expected : Digest) : Stays Idle (owns path expected) :=
  .bind (readSource_idle path) fun _ => .gets _

theorem requireDigest_idle (path : Path) (expected : Digest) :
    Stays Idle (requireDigest path expected) :=
  .bind (Engine.readOr_idle _ _) fun _ => .bind (.gets _) fun _ => .ensure _ _

end Writeback

end RocqMcp
