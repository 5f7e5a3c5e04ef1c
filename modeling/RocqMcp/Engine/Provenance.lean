import RocqMcp.Engine.Ownership
import RocqMcp.Pet.Provenance

/-! Where the states of a proof come from: its root is opened at a position of
the document, and every other state is run from an earlier one. -/

namespace RocqMcp

open Library

variable {world before after : World} {target : DeclarationTarget} {state : PetStateId}
  {finished : Bool}

/-- The state is a root of the proof: opened in the document, with the header of
a new declaration run after it. -/
def DeclarationTarget.RootAt (target : DeclarationTarget) (world : World) (state : PetStateId)
    (finished : Bool) : Prop :=
  match target.newHeader with
  | none => world.Opened state finished
  | some header => ∃ base opened, world.Opened base opened ∧
    world.Ran base (header ++ ".") state finished

theorem DeclarationTarget.RootAt.later (rooted : target.RootAt before state finished)
    (remembers : Remembers before after) : target.RootAt after state finished := by
  unfold RootAt at rooted ⊢
  split at rooted
  · exact rooted.later remembers
  · obtain ⟨base, opened, first, ran⟩ := rooted
    exact ⟨base, opened, first.later remembers, ran.later remembers⟩

/-- The goals of the view are goals that PET has reported for the state. -/
structure ProofState.Shows (view : ProofState) (world : World) (state : PetStateId) : Prop where
  focus : ∃ goals, world.Showed state goals ∧ view.goalFocus = goals.focus
  structured : ∀ structured ∈ view.structuredGoals,
    ∃ goals, world.Showed state goals ∧ structured = goals.structured

theorem ProofState.Shows.later {view : ProofState} (shows : view.Shows before state)
    (remembers : Remembers before after) : view.Shows after state where
  focus := by
    obtain ⟨goals, showed, same⟩ := shows.focus
    exact ⟨goals, showed.later remembers, same⟩
  structured structured member := by
    obtain ⟨goals, showed, same⟩ := shows.structured structured member
    exact ⟨goals, showed.later remembers, same⟩

theorem proofState_shows {goals : PetGoals} (info : DeclarationInfo)
    (showed : world.Showed state goals) : (proofState info goals).Shows world state :=
  ⟨⟨goals, showed, rfl⟩, nofun⟩

theorem proofStateStructured_shows {goals : PetGoals} (info : DeclarationInfo)
    (showed : world.Showed state goals) : (proofStateStructured info goals).Shows world state := by
  refine ⟨⟨goals, showed, rfl⟩, fun structured member => ⟨goals, showed, ?_⟩⟩
  exact (Option.some.inj member).symm

theorem Meanwhile.remembers (meanwhile : Meanwhile before after) : Remembers before after :=
  meanwhile.turns

namespace Engine

variable {project : ProjectId} {start : World → Prop}

/-- The rows of a document are declarations that are in it already: only a new
declaration has a header of its own. -/
def Written (rows : List ResolvedDeclaration) : Prop :=
  ∀ row ∈ rows, ∀ target ∈ row.target, target.newHeader = none

theorem declarations_written (file : FileId) :
    Triple start (declarations project file) (fun rows _ => Written rows) fun _ _ => True := by
  refine (declarations_resolved project file).weaken (fun _ holds => holds) ?_ fun _ _ _ => trivial
  rintro resolved world ⟨context, rows, length, _, accepted⟩ row member target found
  obtain ⟨read, replaceable, rfl⟩ := (DocumentContext.resolveDocument_ok _ accepted).1 row member
  simp only [DocumentContext.resolveRow, Option.mem_def, Option.map_eq_some_iff] at found
  obtain ⟨kind, _, rfl⟩ := found
  rfl

theorem resolve_written (identity : DeclarationIdentity) :
    Triple start (resolve project identity)
      (fun resolved _ => ∀ target ∈ resolved.target, target.newHeader = none) fun _ _ => True := by
  refine .bind (declarations_written identity.file) fun rows => ?_
  split
  · exact .throw fun _ _ => trivial
  · rename_i resolved found
    refine .through (fun _ _ => Written rows) (fun _ written => written) fun _ => .pure ?_
    exact fun _ written => written resolved (List.mem_of_find?_eq_some found)

/-- An open proof starts at a root of its target. -/
def Rooted (opened : OpenedProof) (world : World) : Prop :=
  opened.target.RootAt world opened.state opened.finished

theorem requireOpenProof_safe {known : World → Prop} (execution : PetExecution) :
    Triple known (requireOpenProof project execution) (fun _ => known) fun _ _ => True :=
  .ite (fun _ => .bind (Triple.trivial) fun _ => .throw fun _ _ => trivial) fun _ =>
    .pure fun _ holds => holds

theorem openTarget_rooted (written : target.newHeader = none) :
    Triple start (openTarget project target)
      (fun opened world => opened.target = target ∧ Rooted opened world ∧
        opened.view.Shows world opened.state) fun _ _ => True := by
  refine .bind .trivial fun workspace => .bind .trivial fun petSource =>
    .bind (.mapError (PetActor.stateAt_opened workspace petSource _)) fun opened =>
      .bind (requireOpenProof_safe opened) fun _ => .pure ?_
  rintro world ⟨first, showed⟩
  refine ⟨rfl, ?_, proofState_shows target.info showed⟩
  simp only [Rooted, DeclarationTarget.RootAt, written]
  exact first

theorem openDeclaration_rooted (identity : DeclarationIdentity) :
    Triple start (openDeclaration project identity)
      (fun result world => ∀ opened, result = .open' opened →
        Rooted opened world ∧ opened.view.Shows world opened.state) fun _ _ => True := by
  refine .bind .trivial fun _ => .bind (resolve_written identity) fun resolved => ?_
  split
  · exact .throw fun _ _ => trivial
  · rename_i target known
    refine .ite (fun _ => .pure fun _ _ _ => nofun) fun _ => .ite (fun _ => .throw fun _ _ => trivial)
      fun _ => .given fun written => .bind (openTarget_rooted (written target known)) fun opened =>
        .pure ?_
    rintro _ ⟨_, rooted⟩ _ ⟨⟩
    exact rooted

theorem releaseState_remembers (projection : PetError → Error) (state : PetStateId) :
    Stays Remembers (releaseState project projection state) :=
  .mapError (PetActor.releaseStates_remembers project [state])

/-- The header of a new declaration, run after the base of its module. -/
theorem openHeader_ran (workspace : PetWorkspace) (petSource : PetSource) (insertion : Nat)
    (header : String) :
    Triple start (openHeader project workspace petSource insertion header)
      (fun result world => ∀ execution, result = .ok execution → ∃ base opened,
        world.Opened base opened ∧
          world.Ran base (header ++ ".") execution.state execution.proofFinished ∧
            world.Showed execution.state execution.goals)
      fun _ _ => True := by
  refine .bind (.mapError (PetActor.stateAt_opened workspace petSource insertion)) fun base => ?_
  let opened : World → Prop := fun world => world.Opened base.state base.proofFinished
  let ended : PetExecution → World → Prop := fun execution world => opened world ∧
    world.Ran base.state (header ++ ".") execution.state execution.proofFinished ∧
      world.Showed execution.state execution.goals
  have lasting : ∀ before after, Remembers before after → opened before → opened after :=
    fun _ _ remembers holds => holds.later remembers
  have first : Triple opened (Act.mapError declarationPetError
      (PetActor.run project base.state (header ++ ".") none)) ended fun _ _ => True :=
    .mapError ((Triple.both (PetActor.run_ran base.state (header ++ ".") none)
      ((PetActor.run_remembers project _ _ _).keeps lasting)).weaken (fun _ holds => ⟨holds, holds⟩)
        (fun _ _ ⟨ran, kept⟩ => ⟨kept, ran⟩) fun _ _ _ => trivial)
  refine .bind ((Triple.attempt first).weaken (fun _ holds => holds.1) (fun _ _ holds => holds)
    fun _ _ holds => holds) fun result => ?_
  cases result with
  | error error =>
    have failing : Triple (fun _ => True) (releaseAfter project base.state (.error error :
        Except Error PetExecution)) (fun _ _ => False) fun _ _ => True :=
      .bind .trivial fun _ => .throw fun _ _ => trivial
    refine (Triple.attempt failing).weaken (fun _ _ => trivial) ?_ fun _ _ holds => holds
    intro result world ended execution same
    subst same
    exact ended.elim
  | ok execution =>
    have released : Triple (ended execution) (releaseAfter project base.state (.ok execution))
        (fun value world => value = execution ∧ ended execution world) fun _ _ => True :=
      .bind ((releaseState_remembers declarationPetError base.state).kept
        fun _ _ remembers ⟨first, ran, showed⟩ =>
          ⟨lasting _ _ remembers first, ran.later remembers, showed.later remembers⟩)
          fun _ => fun _ holds => ⟨rfl, holds⟩
    refine (Triple.attempt (released.weaken (fun _ holds => holds) (fun _ _ holds => holds)
      fun _ _ _ => trivial)).weaken (fun _ holds => holds) ?_ fun _ _ holds => holds
    rintro result world finished value same
    subst same
    obtain ⟨rfl, first, ran⟩ := finished
    exact ⟨_, _, first, ran⟩

theorem declare_rooted (kind : DeclarationKind) (file : FileId) (name statement : String) :
    Triple start (declare project kind file name statement)
      (fun opened world => Rooted opened world ∧ opened.view.Shows world opened.state)
      fun _ _ => True := by
  rw [declare_eq]
  refine .last fun site => .bind (openHeader_ran site.workspace site.petSource site.insertion _)
    fun result => ?_
  cases result with
  | error error => exact .bind .trivial fun _ => .throw fun _ _ => trivial
  | ok opened =>
    refine .bind (requireOpenProof_safe opened) fun _ => .bind (.gets _) fun digest => .pure ?_
    rintro world ⟨holds, _⟩
    obtain ⟨base, finished, first, ran, showed⟩ := holds opened rfl
    exact ⟨⟨base, finished, first, ran⟩, proofState_shows _ showed⟩

theorem replayNewRoot_rooted {header : String} (own : target.newHeader = some header) :
    Triple start (replayNewRoot project target header)
      (fun opened world => target.RootAt world opened.state opened.finished ∧
        opened.view.Shows world opened.state) fun _ _ => True := by
  refine .bind .trivial fun workspace => .bind .trivial fun petSource =>
    .bind (openHeader_ran workspace petSource _ header) fun result => ?_
  cases result with
  | error error => exact .throw fun _ _ => trivial
  | ok opened =>
    refine .bind (requireOpenProof_safe opened) fun _ => .pure fun world holds => ?_
    obtain ⟨base, finished, first, ran, showed⟩ := holds opened rfl
    simp only [DeclarationTarget.RootAt, own]
    exact ⟨⟨base, finished, first, ran⟩, proofState_shows target.info showed⟩

theorem replayRoot_rooted (target : DeclarationTarget) :
    Triple start (replayRoot project target)
      (fun opened world => target.RootAt world opened.state opened.finished ∧
        opened.view.Shows world opened.state) fun _ _ => True := by
  refine .bind .trivial fun _ => ?_
  split
  · exact replayNewRoot_rooted ‹_›
  · rename_i own
    refine .bind (.mapError (resolve_written target.info.identity)) fun resolved => ?_
    split
    · exact .throw fun _ _ => trivial
    · rename_i current known
      refine .ite (fun _ => .throw fun _ _ => trivial) fun _ => .given fun written =>
        (openTarget_rooted (written current known)).weaken (fun _ holds => holds) ?_
          fun _ _ holds => holds
      rintro opened world ⟨same, rooted, shows⟩
      refine ⟨?_, shows⟩
      simp only [DeclarationTarget.RootAt, own]
      simpa only [Rooted, DeclarationTarget.RootAt, same, written current known] using rooted

theorem checkedStep_safe {known : World → Prop} (target : DeclarationTarget)
    (execution : PetExecution) :
    Triple known (checkedStep project target execution)
      (fun step world => known world ∧ step.state = execution.state ∧
        step.finished = execution.proofFinished ∧
        step.view = proofStateStructured target.info execution.goals) fun _ _ => True :=
  .ite (fun _ => .bind .trivial fun _ => .throw fun _ _ => trivial) fun _ =>
    .pure fun _ holds => ⟨holds, rfl, rfl, rfl⟩

/-- A step is run from the given state, and viewed as PET shows it. -/
theorem run_ran (target : DeclarationTarget) (state : PetStateId) (fragment : String)
    (timeoutMs : Option Nat) :
    Triple start (run project target state fragment timeoutMs)
      (fun step world => world.Ran state fragment step.state step.finished ∧
        step.view.Shows world step.state) fun _ _ => True := by
  refine .bind .trivial fun _ => .bind .trivial fun _ =>
    .bind (.mapError (PetActor.run_ran state fragment timeoutMs)) fun execution => ?_
  refine (checkedStep_safe target execution).weaken (fun _ holds => holds) ?_ fun _ _ _ => trivial
  rintro step world ⟨⟨ran, showed⟩, same, ended, viewed⟩
  rw [same, ended, viewed]
  exact ⟨ran, proofStateStructured_shows target.info showed⟩

theorem run_remembers (target : DeclarationTarget) (state : PetStateId) (fragment : String)
    (timeoutMs : Option Nat) : Stays Remembers (run project target state fragment timeoutMs) :=
  .bind (remembered (validateTarget_idle project target)) fun _ => .bind (.ofExcept _) fun _ =>
    .bind (.mapError (PetActor.run_remembers project state fragment timeoutMs)) fun _ =>
      .ite (fun _ => .bind (releaseState_remembers _ _) fun _ => .throw _) fun _ => .pure _

/-- The outcome of a traced step is what PET has answered to it. -/
def Stepped (target : DeclarationTarget) (state : PetStateId) (fragment : String)
    (includeTrace : Bool) (outcome : TracedProofStep) (world : World) : Prop :=
  match outcome with
  | .success step => ∃ goals,
    world.Told (.runTrace state fragment includeTrace)
      (.ok (.traceSuccess step.state step.finished)) ∧
      world.Showed step.state goals ∧ step.view = proofStateStructured target.info goals
  | .failure failure => ∃ failed,
    PetActor.Traced state fragment includeTrace (.failure failed) world ∧
      failure = failed.project target.info

theorem Stepped.shows {fragment : String} {includeTrace : Bool} {step : ProofStep}
    (stepped : Stepped target state fragment includeTrace (.success step) world) :
    step.view.Shows world step.state := by
  obtain ⟨goals, _, showed, viewed⟩ := stepped
  rw [viewed]
  exact proofStateStructured_shows target.info showed

theorem PetTraced.later {outcome : PetTraceOutcome} {fragment : String} {includeTrace : Bool}
    (traced : PetActor.Traced state fragment includeTrace outcome before)
    (remembers : Remembers before after) :
    PetActor.Traced state fragment includeTrace outcome after := by
  cases outcome with
  | success execution => exact ⟨traced.1.later remembers, traced.2.later remembers⟩
  | failure failed =>
    obtain ⟨source, failure, diagnostic, goals, told, showed, rest⟩ := traced
    exact ⟨source, failure, diagnostic, goals, told.later remembers, showed.later remembers, rest⟩

theorem runTraced_stepped (target : DeclarationTarget) (state : PetStateId) (fragment : String)
    (includeTrace : Bool) (timeoutMs : Option Nat) :
    Triple start (runTraced project target state fragment includeTrace timeoutMs)
      (Stepped target state fragment includeTrace) fun _ _ => True := by
  have traced : Triple (fun _ => True)
      (PetActor.runTraced project state fragment includeTrace timeoutMs) _ _ :=
    PetActor.runTraced_traced state fragment includeTrace timeoutMs
  refine .bind .trivial fun _ => .bind .trivial fun _ => .bind (.mapError (traced.weaken
    (fun _ _ => trivial) (fun _ _ holds => holds) fun _ _ _ => trivial)) fun outcome => ?_
  cases outcome with
  | success execution =>
    refine .bind (checkedStep_safe target execution) fun step => .pure ?_
    rintro world ⟨⟨told, showed⟩, same, ended, viewed⟩
    exact ⟨execution.goals, by rw [same, ended]; exact told, by rw [same]; exact showed, viewed⟩
  | failure failed =>
    refine .bind ((releaseState_remembers stepPetError failed.beforeState).kept
      fun _ _ remembers traced => PetTraced.later traced remembers) fun _ => .pure ?_
    exact fun world traced => ⟨failed, traced, rfl⟩

theorem runTraced_ran (target : DeclarationTarget) (state : PetStateId) (fragment : String)
    (includeTrace : Bool) (timeoutMs : Option Nat) :
    Triple start (runTraced project target state fragment includeTrace timeoutMs)
      (fun outcome world => ∀ step, outcome = .success step →
        world.Ran state fragment step.state step.finished) fun _ _ => True := by
  refine (runTraced_stepped target state fragment includeTrace timeoutMs).weaken
    (fun _ holds => holds) ?_ fun _ _ holds => holds
  rintro outcome world stepped step rfl
  obtain ⟨goals, told, _⟩ := stepped
  exact .inr ⟨includeTrace, told⟩

/-- A fresh view is what PET has just reported, whatever its scope. -/
theorem goals_shows (target : DeclarationTarget) (state : PetStateId) (scope : GoalScope)
    (goalId : Option Evar) :
    Triple start (goals project target state scope goalId)
      (fun view world => view.Shows world state) fun _ _ => True := by
  have reported : Triple (fun _ => True) (PetActor.goals project state) _ _ :=
    PetActor.goals_showed Lasting.true state
  refine .bind .trivial fun _ => .bind (.mapError (reported.weaken (fun _ _ => trivial)
    (fun _ _ holds => holds.2) fun _ _ _ => trivial)) fun goals => ?_
  refine .through (fun _ world => world.Showed state goals)
    (.ensure (fun _ _ showed => showed) fun _ _ _ => trivial) fun _ => ?_
  split
  · exact .throw fun _ _ => trivial
  · rename_i rendered _
    refine .pure fun world showed => ⟨⟨goals, showed, rfl⟩, fun structured member => ?_⟩
    exact ⟨goals, showed, (Option.some.inj member).symm⟩

end Engine

end RocqMcp
