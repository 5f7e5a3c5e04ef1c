import RocqMcp.Adapter.Attachment
import RocqMcp.Adapter.Lineage
import RocqMcp.Adapter.Standing

/-! Every result of a tool is explained by a few actions on the proof of its
session: the tools refine the machine of proof trees, and a view that names a
checkpoint names the selected one. -/

namespace RocqMcp

open Library

namespace Adapter

def readTools : List String := ["list_files", "list_decls", "try", "query"]

/-- The tools that only report. -/
def reportTools : List String := ["list_files", "list_decls", "query"]

def Response.view? : Response → Option StateView
  | .state view | .goals view _ _ | .selected _ view _ _ | .selectedError _ view _ _
  | .unselected view _ => some view
  | _ => none

def AttemptView.view? : AttemptView → Option StateView
  | .evaluated _ view _ => some view
  | .rejected _ => none

/-- What the result of a tool says about the actions that took place, and how the
signal of the request has ended. -/
inductive Explains (before : Standing) (args : Value) (signal : Signal) :
    String → Except Error Response → List ProofAction → Prop where
  | failed (error : Error) : Explains before args signal name (.error error) []
  | reported (reports : name ∈ reportTools) : Explains before args signal name (.ok response) []
  /-- Nothing is selected by an attempt that is only tried. -/
  | tried {trials : List AttemptView} (unnamed : ∀ trial ∈ trials, ∀ view,
      trial.view? = some view → view.checkpoint = none) :
      Explains before args signal "try" (.ok (.attempts trials)) []
  /-- The declaration is finished in its file. -/
  | validated (view : StateView) (free : before.tree = none) :
      Explains before args signal "prove" (.ok (.state view)) []
  | opened (view : StateView) (requested : requiredTarget args = .ok target.identity) :
      Explains before args signal "prove" (.ok (.state view)) [.open' target finished]
  | declared (view : StateView) (fresh : target.isNew = true) :
      Explains before args signal "declare" (.ok (.state view)) [.open' target finished]
  | abandoned (active : before.tree = some tree)
      (requested : requiredTarget args = .ok tree.target.identity) :
      Explains before args signal "abandon" (.ok .done) [.retire]
  /-- All attempts were rejected. -/
  | unselected (view : StateView) (attempted : attempts args = .ok fragments)
      (all : rejected.length = fragments.length) :
      Explains before args signal "check" (.ok (.unselected view rejected)) []
  /-- The first attempt that was not rejected leaves goals. -/
  | selected (view : StateView) (attempted : attempts args = .ok fragments)
      (won : fragments[index]? = some fragment) (earlier : rejected.length = index) :
      Explains before args signal "check" (.ok (.selected index view rejected diff))
        [.grow fragment false]
  | published (view : StateView) (attempted : attempts args = .ok fragments)
      (won : fragments[index]? = some fragment) (earlier : rejected.length = index) :
      Explains before args signal "check" (.ok (.selected index view rejected diff))
        [.grow fragment true, .retire]
  /-- The proof is finished, but could not be closed or published. -/
  | kept (view : StateView) (attempted : attempts args = .ok fragments)
      (won : fragments[index]? = some fragment) (earlier : rejected.length = index) :
      Explains before args signal "check" (.ok (.selectedError index view rejected error))
        [.grow fragment true]
  | lost (view : StateView) (attempted : attempts args = .ok fragments)
      (won : fragments[index]? = some fragment) (earlier : rejected.length = index)
      (changed : error.kind = .declarationChanged) :
      Explains before args signal "check" (.ok (.selectedError index view rejected error))
        [.grow fragment true, .retire]
  | rewound {id : CheckpointId} (view : StateView)
      (requested : ∀ value, args.get? "checkpoint" = some value → value.asNat = some id) :
      Explains before args signal "rewind" (.ok (.state view)) [.move id]
  | entered (free : before.project = none) :
      Explains before args signal "start" (.ok .done) [.attach project]
  | restarted (same : before.project = some project) :
      Explains before args signal "start" (.ok .done) [.retire, .attach project]
  | moved (left : before.project = some previous) (other : previous ≠ project) :
      Explains before args signal "start" (.ok .done) [.retire, .leave, .attach project]
  /-- A `start` that fails after it has committed. -/
  | interrupted (error : Error) (left : before.project = some previous)
      (committed : signal = .committed) :
      Explains before args signal "start" (.error error) [.retire]
  | stranded (error : Error) (left : before.project = some previous)
      (committed : signal = .committed) :
      Explains before args signal "start" (.error error) [.retire, .leave]

/-- A view of its session that the result shows names the selected checkpoint. -/
def Displays (result : Except Error Response) (standing : Standing) : Prop :=
  ∀ response view, result = .ok response → response.view? = some view →
    view.checkpoint = standing.current

/-- A result, and how its session stands after it. -/
structure Accounts (base : SessionId → Standing) (session : SessionId) (name : String)
    (args : Value) (result : Except Error Response) (world : World) : Prop where
  explained : ∃ actions next, Explains (base session) args world.signal name result actions ∧
    (base session).run actions = some next ∧ Displays result next ∧
      world.standing = Function.update base session next

end Adapter

/-- The sessions stand as given. -/
def At (base : SessionId → Standing) (world : World) : Prop := world.standing = base

section

variable {base : SessionId → Standing} {session : SessionId} {world after : World}

theorem Still.at' {action : Act World ε α} (stays : Stays Still action) :
    Triple (At base) action (fun _ => At base) fun _ => At base :=
  stays.keeps fun _ _ still holds => Eq.trans still holds

theorem At.last (holds : At base world) :
    (world.selections session).checkpoints.next = (base session).last := by
  rw [← show world.standing = base from holds]
  rfl

theorem At.tree (holds : At base world) :
    (world.selections session).checkpoints.tree = (base session).tree := by
  rw [← show world.standing = base from holds]
  rfl

theorem At.project (holds : At base world) :
    (world.selections session).project = (base session).project := by
  rw [← show world.standing = base from holds]
  rfl

theorem At.proof (holds : At base world) {tree : ProofTree} (active : (base session).tree = some tree) :
    ∃ proof, (world.selections session).checkpoints.proof = some proof ∧ proof.tree = tree :=
  Option.map_eq_some_iff.mp (holds.tree.trans active)

theorem At.free (holds : At base world)
    (free : (world.selections session).checkpoints.proof = none) : (base session).tree = none := by
  rw [← holds.tree, CheckpointBook.tree, free]
  rfl

theorem At.setCheckpoints (holds : At base world) (session : SessionId) (book : CheckpointBook) :
    At (Function.update base session
        { base session with last := book.next, tree := book.tree })
      (world.setCheckpoints session book) := by
  rw [At, World.standing_setCheckpoints, show world.standing = base from holds, holds.project]

end

namespace CheckpointBook

variable {book next : CheckpointBook} {id : CheckpointId}

theorem begin_standing {target : DeclarationTarget} {state : PetStateId} {finished : Bool}
    {view : ProofState} {offset : Option Nat}
    (begun : book.begin target state finished view offset = (.ok id, next)) :
    id = book.next + 1 ∧ next.next = id ∧ next.tree = some (.root target id finished) := by
  obtain ⟨_, active⟩ := begin_ok begun
  unfold CheckpointBook.begin at begun
  split at begun
  · cases begun
  · split at begun
    · cases begun
    · rename_i allocated
      obtain ⟨same, rfl⟩ := Prod.mk.inj begun
      obtain rfl := Except.ok.inj same
      exact ⟨book.allocate_ok allocated, rfl, rfl⟩

theorem commit_standing {proof : ProofSession} {state : PetStateId} {input : String}
    {finished : Bool} {view : ProofState} {offset : Option Nat}
    (done : book.commit state input finished view offset = (.ok id, next))
    (active : book.proof = some proof) :
    id = book.next + 1 ∧ next.next = id ∧ next.tree = some (proof.tree.grow id input finished) := by
  unfold CheckpointBook.commit at done
  split at done
  · cases done
  · rename_i allocated
    split at done
    · cases done
    · rename_i proof' active'
      obtain rfl := Option.some.inj (active.symm.trans active')
      obtain ⟨same, rfl⟩ := Prod.mk.inj done
      obtain rfl := Except.ok.inj same
      refine ⟨book.allocate_ok allocated, rfl, ?_⟩
      simp [CheckpointBook.tree, ProofSession.tree, ProofSession.extend, ProofTree.grow,
        Checkpoint.edge]

theorem select_standing (selected : book.select id = .ok next) :
    ∃ tree, book.tree = some tree ∧ id ∈ tree.ids ∧ next.next = book.next ∧
      next.tree = some { tree with current := id } := by
  unfold CheckpointBook.select at selected
  split at selected
  · cases selected
  · rename_i proof active
    split at selected
    · rename_i known
      obtain rfl := Except.ok.inj selected
      refine ⟨proof.tree, by rw [CheckpointBook.tree, active]; rfl, ?_, rfl, rfl⟩
      rw [proof.tree_ids]
      exact known
    · cases selected

theorem current_standing {node : Checkpoint} (read : book.current = .ok (id, node)) :
    book.tree.map ProofTree.current = some id := by
  unfold CheckpointBook.current at read
  split at read
  · cases read
  · rename_i proof active
    split at read
    · cases read
    · obtain ⟨rfl, rfl⟩ := Prod.mk.inj (Except.ok.inj read)
      rw [CheckpointBook.tree, active]
      rfl

end CheckpointBook

namespace Adapter

section

variable {project : ProjectId} {session : SessionId} {base : SessionId → Standing}
  {name : String} {args : Value}

/-- A success is explained, and an error has left every session where it was. -/
def Tells (base : SessionId → Standing) (session : SessionId) (name : String) (args : Value)
    (action : EngineM Response) : Prop :=
  Triple (At base) action (fun response => Accounts base session name args (.ok response))
    fun _ => At base

theorem Accounts.still {result : Except Error Response} {world : World} (holds : At base world)
    (explains : Explains (base session) args world.signal name result [])
    (shows : Displays result (base session)) :
    Accounts base session name args result world :=
  ⟨[], base session, explains, rfl, shows, by rw [Function.update_eq_self]; exact holds⟩

theorem Displays.done {standing : Standing} : Displays (.ok .done) standing := by
  rintro _ view ⟨⟩ ⟨⟩

theorem Displays.error {error : Error} {standing : Standing} : Displays (.error error) standing := by
  rintro _ view ⟨⟩

theorem Accounts.failed {world : World} (holds : At base world) (error : Error) :
    Accounts base session name args (.error error) world :=
  .still holds (.failed error) .error

theorem Accounts.reported {response : Response} {world : World} (holds : At base world)
    (reports : name ∈ reportTools)
    (shows : ∀ view, response.view? = some view → view.checkpoint = (base session).current) :
    Accounts base session name args (.ok response) world := by
  refine .still holds (.reported reports) ?_
  rintro _ view ⟨⟩ shown
  exact shows view shown

/-- Begin with a step that moves no session. -/
theorem Tells.after {action : EngineM α} {next : α → EngineM Response} (still : Stays Still action)
    (then' : ∀ value, Tells base session name args (next value)) :
    Tells base session name args (action >>= next) :=
  .bind (Still.at' still) then'

theorem Tells.done {response : Response} (reports : name ∈ reportTools)
    (shows : ∀ view, response.view? = some view → view.checkpoint = (base session).current) :
    Tells base session name args (pure response) :=
  .pure fun _ holds => .reported holds reports shows

/-- The result shows no view. -/
theorem Tells.silent {response : Response} (reports : name ∈ reportTools)
    (silent : response.view? = none) : Tells base session name args (pure response) :=
  .done reports fun view shown => by
    rw [silent] at shown
    cases shown

theorem Tells.throw (error : Error) : Tells base session name args (.throw error) :=
  Triple.throw fun _ holds => holds

/-! ### Tools that only read -/

theorem ensureCurrentState_at :
    Triple (At base) (ensureCurrentState project session)
      (fun current world => At base world ∧ some current.1 = (base session).current)
      fun _ => At base := by
  refine .bind (.gets _) fun book => .through
    (fun current world => At base world ∧ some current.1 = (base session).current) ?_ fun current => ?_
  · rintro world ⟨holds, rfl⟩
    cases read : (world.selections session).checkpoints.current with
    | error error => exact holds
    | ok current =>
      refine ⟨holds, ?_⟩
      rw [Standing.current, ← At.tree holds]
      exact (CheckpointBook.current_standing read).symm
  · refine .assume fun selected => ?_
    split
    · exact .pure fun _ holds => ⟨holds, selected⟩
    · exact .bind (Still.at' (replayCheckpoint_cached project session _)) fun _ =>
        .pure fun _ holds => ⟨holds, selected⟩

theorem listFiles_tells : Tells base session "list_files" args (listFiles project args) :=
  .after (.ofExcept _) fun _ => .after (framed (Engine.listFiles_idle project)) fun _ =>
    .silent (by decide) rfl

theorem listDecls_tells : Tells base session "list_decls" args (listDecls project session args) :=
  .after (.ofExcept _) fun _ => .after (.ofExcept _) fun _ =>
    .after (reconcileArtifact_cached project session _) fun _ =>
    .after (Engine.listDecls_framed project _) fun _ => .silent (by decide) rfl

/-- The attempts of `try` do not become checkpoints. -/
theorem tryEach_unnamed (context : CheckContext) (fragments : List String) :
    Triple (fun _ => True) (tryEach project session context fragments)
      (fun attempts _ => ∀ attempt ∈ attempts, ∀ view, attempt.view? = some view →
        view.checkpoint = none) fun _ _ => True := by
  induction fragments with
  | nil => exact .pure fun _ _ _ member => absurd member List.not_mem_nil
  | cons fragment rest ih =>
    have first : Triple (fun _ => True) (tryFragment project session context fragment)
        (fun attempt _ => ∀ view, attempt.view? = some view → view.checkpoint = none)
        fun _ _ => True := by
      refine .bind .trivial fun result => ?_
      split
      · refine .bind .trivial fun _ => .bind .trivial fun _ => .pure fun _ _ view shown => ?_
        obtain rfl := Option.some.inj shown
        rfl
      · exact .pure fun _ _ view => nofun
      · exact .pure fun _ _ view => nofun
    exact .bind first fun attempt => .given fun unnamed => .bind ih fun attempts =>
      .pure fun _ others => List.forall_mem_cons.mpr ⟨unnamed, others⟩

theorem tryFragments_tells : Tells base session "try" args (tryFragments project session args) := by
  refine .after (.ofExcept _) fun _ => .after (enterProof_cached project session _) fun context => ?_
  refine .bind ((Still.at' (tryEach_cached project session context _)).also
    (tryEach_unnamed context _)) fun attempts => .pure ?_
  rintro world ⟨holds, unnamed⟩
  refine .still holds (.tried unnamed) ?_
  rintro _ view ⟨⟩ ⟨⟩

theorem queryReports : "query" ∈ reportTools := by decide

theorem locateSymbol_tells : Tells base session "query" args (locateSymbol project session args) :=
  .after (.ofExcept _) fun _ => .after (.ofExcept _) fun _ => .after (.ensure _ _) fun _ =>
    .after (.ofExcept _) fun _ => .after (framed (Engine.locateSymbolCandidates_idle project _))
    fun _ => .after (reconcileArtifacts_cached project session _) fun _ =>
    .after (Engine.resolveSymbolCandidates_framed project _ _ _) fun _ =>
    .silent queryReports rfl

/-- The goals are those of the selected checkpoint. -/
theorem queryGoals_tells : Tells base session "query" args (queryGoals project session args) := by
  refine .after (.ofExcept _) fun arguments => .after (activeProof_cached session) fun proof =>
    .after (framed (Engine.validateTarget_idle project proof.target)) fun _ =>
    .after (reconcileArtifact_cached project session _) fun _ =>
    .bind ensureCurrentState_at fun current => .assume fun selected => ?_
  refine Tells.after (activeProof_cached session) fun _ =>
    .after (Engine.goals_framed project _ _ _ _) fun _ => .after (.ofExcept _) fun _ =>
    .after (.gets _) fun _ => .done queryReports ?_
  rintro view ⟨⟩
  exact selected

theorem querySelected_tells (query : PetQuery) (offset : Nat) :
    Tells base session "query" args (querySelected project session query offset) :=
  .after (ensureCurrentState_cached project session) fun _ => .after (activeProof_cached session)
    fun _ => .after (Engine.queryState_framed project _ _ query) fun _ =>
    .after (.ofExcept _) fun _ => .silent queryReports rfl

theorem queryContext_tells (identity : DeclarationIdentity) (query : PetQuery) (offset : Nat) :
    Tells base session "query" args (queryContext project identity query offset) :=
  .after (Engine.queryAt_framed project identity query) fun _ =>
    .after (.ofExcept _) fun _ => .silent queryReports rfl

theorem queryDeclaration_tells (query : String → PetQuery) :
    Tells base session "query" args (queryDeclaration project session args query) :=
  .after (.ofExcept _) fun _ => .after (.ofExcept _) fun _ => .after (.ofExcept _) fun _ =>
    .after (reconcileArtifact_cached project session _) fun _ => .after (.gets _) fun _ =>
    Triple.ite (fun _ => querySelected_tells _ _) fun _ => queryContext_tells _ _ _

theorem queryText_tells (field : String) (query : String → PetQuery) :
    Tells base session "query" args (queryText project session args field query) := by
  refine .after (.ofExcept _) fun _ => .after (.ofExcept _) fun _ => .after (.ofExcept _) fun _ => ?_
  split
  · exact .after (.ofExcept _) fun _ => .after (reconcileArtifact_cached project session _) fun _ =>
      queryContext_tells _ _ _
  · refine .after (.gets _) fun book => ?_
    split
    · exact .after (reconcileArtifact_cached project session _) fun _ => querySelected_tells _ _
    · exact .throw _

theorem query_tells : Tells base session "query" args (query project session args) :=
  .after (.ofExcept _) fun _ =>
    Triple.ite (fun _ => locateSymbol_tells) fun _ => Triple.ite (fun _ => queryGoals_tells) fun _ =>
    Triple.ite (fun _ => queryDeclaration_tells _) fun _ =>
    Triple.ite (fun _ => queryDeclaration_tells _) fun _ =>
    Triple.ite (fun _ => queryDeclaration_tells _) fun _ =>
    Triple.ite (fun _ => queryDeclaration_tells _) fun _ =>
    Triple.ite (fun _ => queryText_tells _ _) fun _ => Triple.ite (fun _ => queryText_tells _ _)
    fun _ => Triple.ite (fun _ => queryText_tells _ _) fun _ => Tells.throw _

/-! ### Tools that open or retire a proof -/

/-- Begin with a check of the arguments. -/
theorem Tells.check {result : Except Error α} {next : α → EngineM Response}
    (then' : ∀ value, result = .ok value → Tells base session name args (next value)) :
    Tells base session name args (Act.ofExcept result >>= next) :=
  .bind ((Triple.ofExcept result).weaken (fun _ holds => holds) (fun _ _ holds => holds)
    fun _ _ holds => holds.1) fun value => .assume (then' value)

theorem beginProof_tells (opened : OpenedProof)
    (explains : ∀ signal view, Explains (base session) args signal name (.ok (.state view))
      [.open' opened.target opened.finished]) :
    Tells base session name args (beginProof project session opened) := by
  refine .after (framed commitOrCancelled_idle) fun _ => .bind (.gets _) fun book => ?_
  rcases begun : book.begin opened.target opened.state opened.finished
    (boundedCheckpointView opened.view).1 (boundedCheckpointView opened.view).2 with
    ⟨error | checkpoint, next⟩
  · refine .bind ((Still.at' (release_cached project _)).weaken (fun _ holds => holds.1)
      (fun _ _ holds => holds) fun _ _ holds => holds) fun _ => .throw fun _ holds => holds
  · rintro world ⟨holds, rfl⟩
    obtain ⟨bare, active⟩ := CheckpointBook.begin_ok begun
    obtain ⟨rfl, last, tree⟩ := CheckpointBook.begin_standing begun
    have free := At.free holds bare
    have moved := At.setCheckpoints holds session next
    obtain ⟨node, found⟩ :=
      CheckpointBook.lookup_active active (List.mem_singleton_self _)
    simp only [setBook, Act.modify, bind, Act.bind, ofBook, found, pure, Act.pure]
    refine ⟨_, _, explains _ _, ?_, ?_, moved⟩
    · simp [Standing.run, Standing.act, free, last, tree, At.last holds]
    · rintro _ view ⟨⟩ ⟨⟩
      simp [Standing.current, tree, ProofTree.root]

theorem rejectActiveProof_at (operation : String) :
    Triple (At base) (rejectActiveProof session operation)
      (fun _ world => At base world ∧ (base session).tree = none) fun _ => At base := by
  refine .bind (.gets _) fun book => .ensure (fun free world holds => ?_) fun _ _ holds => holds.1
  obtain ⟨holds, rfl⟩ := holds
  exact ⟨holds, At.free holds (Option.isNone_iff_eq_none.mp free)⟩

end

end Adapter

namespace Engine

section

variable {project : ProjectId}

theorem resolve_named (identity : DeclarationIdentity) :
    Triple (fun _ => True) (resolve project identity)
      (fun resolved _ => ∀ target ∈ resolved.target, target.identity = identity) fun _ _ => True := by
  refine .through (fun rows _ => ∀ row ∈ rows, ∀ target ∈ row.target,
    target.identity = row.identity) ?_ fun rows => ?_
  · refine (declarations_resolved project _).weaken (fun _ holds => holds) ?_ fun _ _ _ => trivial
    rintro resolved _ ⟨context, rows, length, _, accepted⟩ row member target found
    exact (context.resolveDocument_anchored rows length accepted row member target found).1
  · split
    · exact .throw fun _ _ => trivial
    · rename_i resolved found
      refine .through (fun _ _ => ∀ target ∈ resolved.target, target.identity = identity) ?_
        fun _ => .pure fun _ holds => holds
      intro world named target isTarget
      have same : resolved.identity = identity := by simpa using List.find?_some found
      exact (named resolved (List.mem_of_find?_eq_some found) target isTarget).trans same

/-- The declaration that an operation opens. -/
def OpenResult.target : OpenResult → DeclarationTarget
  | .published target => target
  | .open' opened => opened.target

theorem openTarget_target (target : DeclarationTarget) :
    Triple (fun _ => True) (openTarget project target) (fun opened _ => opened.target = target)
      fun _ _ => True := by
  unfold openTarget
  repeat refine .last fun _ => ?_
  exact .pure fun _ _ => rfl

theorem openDeclaration_named (identity : DeclarationIdentity) :
    Triple (fun _ => True) (openDeclaration project identity)
      (fun result _ => (OpenResult.target result).identity = identity) fun _ _ => True := by
  refine .last fun _ => .bind (resolve_named identity) fun resolved => ?_
  split
  · exact .throw fun _ _ => trivial
  · rename_i target isTarget
    refine .ite (fun _ => .pure fun _ named => named target isTarget) fun _ =>
      .ite (fun _ => .throw fun _ _ => trivial) fun _ => ?_
    refine .given fun named => .bind (openTarget_target target) fun opened => .pure ?_
    rintro _ rfl
    exact named _ isTarget

theorem declare_fresh (kind : DeclarationKind) (file : FileId) (name statement : String) :
    Triple (fun _ => True) (declare project kind file name statement)
      (fun opened _ => opened.target.isNew = true) fun _ _ => True := by
  rw [declare_eq]
  refine .last fun site => .last fun result => ?_
  cases result with
  | error error => exact .last fun _ => .throw fun _ _ => trivial
  | ok opened => exact .last fun _ => .last fun _ => .pure fun _ _ => rfl

end

end Engine

namespace Adapter

section

variable {project : ProjectId} {session : SessionId} {base : SessionId → Standing} {args : Value}

theorem validatePublished_tells (target : DeclarationTarget) (free : (base session).tree = none) :
    Tells base session "prove" args (validatePublished project session target) := by
  refine .after (invalidateProjectStates_cached project session) fun _ =>
    .after (Engine.validatePublished_framed project target) fun _ => .after ?_ fun _ => ?_
  · refine .bind (.attempt (framed (Engine.artifactFingerprint_idle project _))) fun result => ?_
    cases result with
    | ok fingerprint => exact recordArtifact_cached project _ fingerprint
    | error error => exact .pure ()
  · refine .pure fun _ holds => .still holds (.validated _ free) ?_
    rintro _ view ⟨⟩ ⟨⟩
    simp [Standing.current, free]

theorem prove_tells : Tells base session "prove" args (prove project session args) := by
  refine .after (.ofExcept _) fun _ => .check fun identity requested =>
    .bind (rejectActiveProof_at "prove") fun _ => .assume fun free =>
    Tells.after (reconcileArtifact_cached project session _) fun _ => ?_
  refine .bind ((Still.at' (Engine.openDeclaration_framed project identity)).also
    (Engine.openDeclaration_named identity)) fun result => .assume fun named => ?_
  cases result with
  | published target => exact validatePublished_tells target free
  | open' opened =>
    refine beginProof_tells opened fun _ view => .opened view ?_
    rw [requested]
    exact congrArg Except.ok named.symm

theorem declare_tells : Tells base session "declare" args (declare project session args) := by
  refine .after (.ofExcept _) fun _ => .after (.ofExcept _) fun _ => .after (.ofExcept _) fun _ =>
    .after (.ofExcept _) fun _ => .after (.ofExcept _) fun _ =>
    .bind (rejectActiveProof_at "declare") fun _ => .assume fun _ =>
    Tells.after (reconcileArtifact_cached project session _) fun _ => ?_
  refine .bind ((Still.at' (Engine.declare_framed project _ _ _ _)).also
    (Engine.declare_fresh _ _ _ _)) fun opened => .assume fun fresh => ?_
  exact beginProof_tells opened fun _ view => .declared view fresh

theorem forgetArtifact_at (file : FileId) {failed : ε → World → Prop} :
    Triple (At base) (forgetArtifact project file) (fun _ => At base) failed :=
  fun _ holds => holds

theorem recordArtifact_at (file : FileId) (fingerprint : ArtifactFingerprint)
    {failed : ε → World → Prop} :
    Triple (At base) (recordArtifact project file fingerprint) (fun _ => At base) failed := by
  intro world holds
  have still : Stays Still (recordArtifact project file fingerprint : Act World ε Unit) :=
    recordArtifact_cached project file fingerprint
  exact Eq.trans (still world) holds

theorem recordSubmission_at (submission : Submission) {failed : ε → World → Prop} :
    Triple (At base) (recordSubmission submission) (fun _ => At base) failed :=
  fun _ holds => holds

theorem noteWhen_at (condition : Bool) (mishap : Mishap) {failed : ε → World → Prop} :
    Triple (At base) (noteWhen condition mishap) (fun _ => At base) failed := by
  cases condition <;> exact fun _ holds => holds

theorem invalidateWhen_at (condition : Bool) {failed : ε → World → Prop} :
    Triple (At base) (Act.when condition (invalidateProjectStates project session))
      (fun _ => At base) failed := by
  cases condition with
  | true => exact fun world holds => Eq.trans (world.still_invalidated project session) holds
  | false => exact fun _ holds => holds

/-- The session stands where its proof is retired. -/
def Cleared (base : SessionId → Standing) (session : SessionId) (world : World) : Prop :=
  At (Function.update base session { base session with tree := none }) world

theorem clearBook_cleared {failed : ε → World → Prop} :
    Triple (At base) (clearBook session) (fun _ => Cleared base session) failed := by
  intro world holds
  have moved := At.setCheckpoints holds session
    (world.selections session).checkpoints.clear
  rw [show (world.selections session).checkpoints.clear.next = (base session).last from
    At.last holds] at moved
  exact moved

theorem retireProof_cleared :
    Triple (At base) (retireProof project session) (fun _ => Cleared base session)
      fun _ => At base := by
  refine .bind (.gets _) fun book => .through (fun _ => At base) ?_ fun result => ?_
  · exact (Still.at' (.attempt (PetActor.releaseStates_framed project _))).weaken
      (fun _ holds => holds.1) (fun _ _ holds => holds) fun _ _ holds => holds
  · cases result with
    | ok _ => exact .bind clearBook_cleared fun _ => .pure fun _ holds => holds
    | error error =>
      exact .ite (fun _ => .bind clearBook_cleared fun _ => .pure fun _ holds => holds)
        fun _ => .throw fun _ holds => holds

theorem abandon_tells : Tells base session "abandon" args (abandon project session args) := by
  refine .after (.ofExcept _) fun _ => .check fun identity requested =>
    .through (fun proof world => At base world ∧ (base session).tree = some proof.tree) ?_
      fun proof => .assume fun active => ?_
  · refine .bind (.gets _) fun book => ?_
    rintro world ⟨holds, rfl⟩
    cases active : (world.selections session).checkpoints.proof with
    | none => exact holds
    | some proof =>
      refine ⟨holds, ?_⟩
      rw [← At.tree holds, CheckpointBook.tree, active]
      rfl
  · refine .through (fun _ world => At base world ∧ proof.target.identity = identity)
      (.ensure (fun same _ holds => ⟨holds, of_decide_eq_true same⟩) fun _ _ holds => holds)
      fun _ => .assume fun same => .bind (Still.at' (framed commitOrCancelled_idle)) fun _ =>
      .bind retireProof_cleared fun lost => .bind (invalidateWhen_at lost) fun _ =>
      .pure fun world holds => ⟨[.retire], _, .abandoned active ?_, rfl, .done, holds⟩
    rw [requested]
    exact congrArg Except.ok same.symm

/-! ### Attempts -/

/-- An accepted alternative is the first one of the request that was not rejected. -/
structure Accepted.Wins (accepted : Accepted) (args : Value) : Prop where
  attempted : ∃ fragments, attempts args = .ok fragments ∧
    fragments[accepted.index]? = some accepted.fragment
  earlier : accepted.rejected.length = accepted.index

theorem attemptArguments_attempts {arguments : AttemptArguments}
    (accepted : attemptArguments args = .ok arguments) : attempts args = .ok arguments.fragments := by
  unfold attemptArguments at accepted
  obtain ⟨_, _, accepted⟩ := bind_ok accepted
  obtain ⟨fragments, read, accepted⟩ := bind_ok accepted
  obtain ⟨_, _, accepted⟩ := bind_ok accepted
  obtain ⟨_, _, accepted⟩ := bind_ok accepted
  obtain ⟨_, _, accepted⟩ := bind_ok accepted
  rw [read, ← Except.ok.inj accepted]

/-- The tree with the checkpoint of an accepted alternative. -/
def grown (base : SessionId → Standing) (session : SessionId) (tree : ProofTree)
    (accepted : Accepted) : SessionId → Standing :=
  Function.update base session
    { base session with
      last := (base session).last + 1
      tree := some (tree.grow ((base session).last + 1) accepted.fragment accepted.step.finished) }

theorem attempt_at {action : Act World ε α} (still : Stays Still action)
    {failed : ε' → World → Prop} :
    Triple (At base) (Act.attempt action : Act World ε' (Except ε α)) (fun _ => At base) failed :=
  fun world holds => Eq.trans (still world) holds

section

variable {tree : ProofTree} {accepted : Accepted} {context : CheckContext}
  {failed : Error → World → Prop}

theorem Accepted.Wins.explains (wins : accepted.Wins args) {signal : Signal} {response : Response}
    {actions : List ProofAction}
    (explains : ∀ fragments, attempts args = .ok fragments →
      fragments[accepted.index]? = some accepted.fragment →
        Explains (base session) args signal "check" (.ok response) actions) :
    Explains (base session) args signal "check" (.ok response) actions := by
  obtain ⟨fragments, attempted, won⟩ := wins.attempted
  exact explains fragments attempted won

theorem Accounts.grown {response : Response} {world : World}
    (active : (base session).tree = some tree)
    (explains : Explains (base session) args world.signal "check" (.ok response)
      [.grow accepted.fragment accepted.step.finished])
    (shown : ∀ view, response.view? = some view →
      view.checkpoint = some ((base session).last + 1))
    (holds : At (grown base session tree accepted) world) :
    Accounts base session "check" args (.ok response) world := by
  refine ⟨_, _, explains, ?_, ?_, holds⟩
  · simp [Standing.run, Standing.act, active]
  · rintro _ view ⟨⟩ found
    simp [shown view found, Standing.current, ProofTree.grow]

theorem Accounts.retired {response : Response} {world : World}
    (active : (base session).tree = some tree)
    (explains : Explains (base session) args world.signal "check" (.ok response)
      [.grow accepted.fragment accepted.step.finished, .retire])
    (shown : ∀ view, response.view? = some view → view.checkpoint = none)
    (holds : Cleared (Adapter.grown base session tree accepted) session world) :
    Accounts base session "check" args (.ok response) world := by
  rw [Cleared, Adapter.grown, Function.update_self, Function.update_idem] at holds
  refine ⟨_, _, explains, ?_, ?_, holds⟩
  · simp [Standing.run, Standing.act, active]
  · rintro _ view ⟨⟩ found
    simp [shown view found, Standing.current]

theorem settlePublication_tells (active : (base session).tree = some tree)
    (finished : accepted.step.finished = true) (wins : accepted.Wins args) {checkpoint : CheckpointId}
    (newest : checkpoint = (base session).last + 1) (result : Except Error ProofState) :
    Triple (At (grown base session tree accepted))
      (settlePublication project session context accepted checkpoint result)
      (fun response => Accounts base session "check" args (.ok response)) failed := by
  cases result with
  | ok state =>
    refine .through (fun _ => At (grown base session tree accepted)) ?_ fun _ =>
      .bind clearBook_cleared fun _ => .pure fun _ holds =>
        Accounts.retired active (wins.explains fun fragments attempted won => ?_) ?_ holds
    · refine .bind (attempt_at (framed (Engine.artifactFingerprint_idle project _))) fun result => ?_
      cases result with
      | ok fingerprint => exact recordArtifact_at _ fingerprint
      | error error => exact forgetArtifact_at _
    · rw [finished]
      exact .published _ attempted won wins.earlier
    · rintro view ⟨⟩
      rfl
  | error error =>
    refine .bind (forgetArtifact_at _) fun _ => .ite (fun _ => ?_) fun gone => ?_
    · refine .pure fun _ holds =>
        Accounts.grown active (wins.explains fun fragments attempted won => ?_) ?_ holds
      · rw [finished]
        exact .kept _ attempted won wins.earlier
      · rintro view ⟨⟩
        exact congrArg some newest
    · have changed : error.kind = .declarationChanged := by
        simpa [retainsProof] using gone
      refine .through (fun _ => At (grown base session tree accepted))
        (fun _ holds => holds) fun retired => .through (fun _ => At (grown base session tree accepted))
        (noteWhen_at _ _) fun _ => .bind clearBook_cleared fun _ => .pure fun _ holds =>
          Accounts.retired active (wins.explains fun fragments attempted won => ?_) ?_ holds
      · rw [finished]
        exact .lost _ attempted won wins.earlier changed
      · rintro view ⟨⟩
        rfl

theorem publishAccepted_tells (active : (base session).tree = some tree)
    (finished : accepted.step.finished = true) (wins : accepted.Wins args) {checkpoint : CheckpointId}
    (newest : checkpoint = (base session).last + 1) :
    Triple (At (grown base session tree accepted))
      (publishAccepted project session context accepted checkpoint)
      (fun response => Accounts base session "check" args (.ok response)) failed := by
  refine .bind (.gets _) fun book => .through
    (fun _ => At (grown base session tree accepted)) ?_ fun path => ?_
  · rintro world ⟨holds, rfl⟩
    have standing : (grown base session tree accepted session).tree =
        some (tree.grow ((base session).last + 1) accepted.fragment accepted.step.finished) := by
      rw [grown, Function.update_self]
    obtain ⟨proof, present, same⟩ := At.proof holds standing
    have known : checkpoint ∈ proof.ids := by
      rw [← proof.tree_ids, same, newest]
      simp [ProofTree.ids, ProofTree.grow]
    obtain ⟨records, _, read⟩ := CheckpointBook.fragments_ok present known
    rw [read]
    exact holds
  · refine .bind (recordSubmission_at _) fun _ => .bind (attempt_at ?_) fun result =>
      settlePublication_tells active finished wins newest result
    exact Engine.publish_framed project _ _ (still_writes _)
      (invalidateProjectStates_cached project session)

theorem finishAccepted_tells (active : (base session).tree = some tree) (closeError : Option Error)
    (closed : closeError.isSome → accepted.step.finished = true) (wins : accepted.Wins args)
    {checkpoint : CheckpointId} (newest : checkpoint = (base session).last + 1) :
    Triple (At (grown base session tree accepted))
      (finishAccepted project session context accepted closeError checkpoint)
      (fun response => Accounts base session "check" args (.ok response)) failed := by
  cases closeError with
  | some error =>
    refine .bind (invalidateWhen_at _) fun _ => .pure fun _ holds =>
      Accounts.grown active (wins.explains fun fragments attempted won => ?_) ?_ holds
    · rw [closed rfl]
      exact .kept _ attempted won wins.earlier
    · rintro view ⟨⟩
      exact congrArg some newest
  | none =>
    refine .ite (fun finished => publishAccepted_tells active finished wins newest) fun open' => ?_
    refine .pure fun _ holds =>
      Accounts.grown active (wins.explains fun fragments attempted won => ?_) ?_ holds
    · rw [eq_false_of_ne_true open']
      exact .selected _ attempted won wins.earlier
    · rintro view ⟨⟩
      exact congrArg some newest

theorem closeAccepted_at :
    Triple (At base) (closeAccepted project context accepted)
      (fun closeError world => At base world ∧ (closeError.isSome → accepted.step.finished = true))
      fun _ => At base := by
  refine .ite (fun finished => .bind (attempt_at (Engine.closeProof_framed project _ _))
    fun result => ?_) fun _ => .pure fun _ holds => ⟨holds, nofun⟩
  cases result with
  | ok _ => exact .pure fun _ holds => ⟨holds, nofun⟩
  | error error =>
    exact .ite (fun _ => .throw fun _ holds => holds) fun _ => .pure fun _ holds =>
      ⟨holds, fun _ => finished⟩

/-- A commit makes the accepted alternative the newest checkpoint. -/
theorem accept_tells (active : (base session).tree = some tree) (wins : accepted.Wins args) :
    Tells base session "check" args (accept project session context accepted) := by
  refine .bind closeAccepted_at fun closeError => .assume fun closed =>
    Tells.after (framed commitOrCancelled_idle) fun _ => .bind (.gets _) fun book => ?_
  rcases done : book.commit accepted.step.state accepted.fragment accepted.step.finished
    (if context.arguments.structured then accepted.step.view
      else { accepted.step.view with structuredGoals := none }) accepted.goalsNextOffset with
    ⟨error | checkpoint, next⟩
  · refine .through (fun _ => At base) ?_ fun _ => .bind (Still.at' (release_cached project _))
      fun _ => .throw fun _ holds => holds
    rintro world ⟨holds, rfl⟩
    obtain ⟨proof, present, _⟩ := At.proof holds active
    have same := CheckpointBook.commit_error done present
    rw [same]
    exact Eq.trans (world.still_setCheckpoints session rfl rfl) holds
  · refine .through (fun _ world => At (grown base session tree accepted) world ∧
      checkpoint = (base session).last + 1) ?_ fun _ => .assume fun newest =>
        finishAccepted_tells active closeError closed wins newest
    rintro world ⟨holds, rfl⟩
    obtain ⟨proof, present, same⟩ := At.proof holds active
    obtain ⟨rfl, last, tree'⟩ := CheckpointBook.commit_standing done present
    have moved := At.setCheckpoints holds session next
    rw [last, tree', same, At.last holds] at moved
    exact ⟨moved, congrArg (· + 1) (At.last holds)⟩

end

theorem unselected_tells {context : CheckContext} {rejected : List Rejection}
    (selected : some context.baseId = (base session).current) {fragments : List String}
    (attempted : attempts args = .ok fragments) (all : rejected.length = fragments.length) :
    Tells base session "check" args (unselected session context rejected) := by
  refine .after (.gets _) fun book => .after (ofBook_cached _) fun checkpoint => ?_
  refine .pure fun _ holds => .still holds (.unselected _ attempted all) ?_
  rintro _ view ⟨⟩ ⟨⟩
  exact selected

theorem checkFragments_tells {context : CheckContext} {tree : ProofTree}
    (active : (base session).tree = some tree)
    (selected : some context.baseId = (base session).current) {fragments : List String}
    (attempted : attempts args = .ok fragments) (rest earlier : List String) (index : Nat)
    (rejected : List Rejection) (split' : earlier ++ rest = fragments)
    (reached : earlier.length = index) (counted : rejected.length = index) :
    Tells base session "check" args
      (checkFragments project session context index rejected rest) := by
  induction rest generalizing earlier index rejected with
  | nil =>
    refine unselected_tells selected attempted ?_
    rw [counted, ← reached, ← split', List.append_nil]
  | cons fragment rest ih =>
    have next (rejection : Rejection) : Tells base session "check" args
        (checkFragments project session context (index + 1) (rejected ++ [rejection]) rest) := by
      apply ih (earlier ++ [fragment])
      · rw [← split', List.append_assoc, List.singleton_append]
      · rw [List.length_append, reached, List.length_singleton]
      · rw [List.length_append, counted, List.length_singleton]
    refine .after (evaluate_cached project session context fragment) fun result => ?_
    split
    · refine accept_tells active ⟨⟨fragments, attempted, ?_⟩, counted⟩
      simp [Accepted.of, ← split', ← reached]
    · exact next _
    · exact next _

theorem enterProof_at (arguments : AttemptArguments) :
    Triple (At base) (enterProof project session arguments)
      (fun context world => At base world ∧ some context.baseId = (base session).current)
      fun _ => At base := by
  refine .bind (Still.at' (activeProof_cached session)) fun proof =>
    .bind (Still.at' (framed (Engine.validateTarget_idle project proof.target))) fun _ =>
    .bind (Still.at' (reconcileArtifact_cached project session _)) fun _ =>
    .bind ensureCurrentState_at fun current => .assume fun selected => ?_
  exact .bind (Still.at' (activeProof_cached session)) fun _ =>
    .bind (Still.at' (Engine.goals_framed project _ _ _ _)) fun _ =>
    .pure fun _ holds => ⟨holds, selected⟩

theorem check_tells : Tells base session "check" args (check project session args) := by
  refine .check fun arguments accepted => .bind (enterProof_at arguments) fun context =>
    .assume fun selected => ?_
  obtain ⟨tree, active, _⟩ := Option.map_eq_some_iff.mp selected.symm
  exact checkFragments_tells active selected (attemptArguments_attempts accepted)
    arguments.fragments [] 0 [] rfl rfl rfl

/-! ### The other tools, and the dispatch -/

theorem rewindTarget_at :
    Triple (At base) (rewindTarget session args)
      (fun target world => At base world ∧
        ∀ value, args.get? "checkpoint" = some value → value.asNat = some target)
      fun _ => At base := by
  refine .bind (Still.at' (.gets _)) fun book => ?_
  split
  · rename_i checkpoint given
    refine (Triple.ofExcept _).weaken (fun _ holds => holds) ?_ fun _ _ holds => holds.1
    rintro target world ⟨holds, read⟩
    refine ⟨holds, fun value same => ?_⟩
    obtain rfl := Option.some.inj (given.symm.trans same)
    unfold positive require at read
    split at read
    · rename_i number found
      obtain rfl := Except.ok.inj read
      exact (Option.filter_eq_some_iff.mp found).1
    · cases read
  · rename_i absent _
    refine .bind (Still.at' (.ofExcept _)) fun steps => ?_
    refine (Still.at' (ofBook_cached _)).weaken (fun _ holds => holds) ?_ fun _ _ holds => holds
    exact fun _ _ holds => ⟨holds, fun _ same => by rw [absent] at same; cases same⟩
  · rename_i absent _
    refine (Still.at' (ofBook_cached _)).weaken (fun _ holds => holds) ?_ fun _ _ holds => holds
    exact fun _ _ holds => ⟨holds, fun _ same => by rw [absent] at same; cases same⟩

theorem rewind_tells : Tells base session "rewind" args (rewind project session args) := by
  refine .after (.ofExcept _) fun _ => .after (.ensure _ _) fun _ => .bind rewindTarget_at
    fun target => .assume fun requested => Tells.after (activeProof_cached session) fun proof =>
    .after (framed (Engine.validateTarget_idle project proof.target)) fun _ =>
    .after (reconcileArtifact_cached project session _) fun _ =>
    .after (restoreCheckpoint_cached project session target) fun _ => .after (framed commitOrCancelled_idle)
    fun _ => .bind (.gets _) fun before => ?_
  cases selected : before.select target with
  | error error => exact fun _ holds => holds.1
  | ok next =>
    rintro world ⟨holds, rfl⟩
    obtain ⟨tree, active, known, last, tree'⟩ := CheckpointBook.select_standing selected
    obtain ⟨proof, inside, _, active'⟩ := CheckpointBook.select_ok selected
    obtain ⟨node, found⟩ := CheckpointBook.lookup_active active' (show target ∈ proof.ids from inside)
    have moved := At.setCheckpoints holds session next
    rw [last, tree', At.last holds] at moved
    rw [At.tree holds] at active
    simp only [setBook, Act.modify, bind, Act.bind, ofBook, found, pure, Act.pure]
    refine ⟨_, _, .rewound _ requested, ?_, ?_, moved⟩
    · simp [Standing.run, Standing.act, active, known]
    · rintro _ view ⟨⟩ ⟨⟩
      rfl

theorem dispatchAttached_tells :
    Tells base session name args (dispatchAttached project session name args) := by
  have named {tool : String} {action : EngineM Response} (same : name = tool)
      (tells : Tells base session tool args action) : Tells base session name args action :=
    same ▸ tells
  exact Triple.ite (fun same => named same listFiles_tells) fun _ =>
    Triple.ite (fun same => named same listDecls_tells) fun _ =>
    Triple.ite (fun same => named same prove_tells) fun _ =>
    Triple.ite (fun same => named same declare_tells) fun _ =>
    Triple.ite (fun same => named same abandon_tells) fun _ =>
    Triple.ite (fun same => named same check_tells) fun _ =>
    Triple.ite (fun same => named same tryFragments_tells) fun _ =>
    Triple.ite (fun same => named same rewind_tells) fun _ =>
    Triple.ite (fun same => named same query_tells) fun _ => Tells.throw _

theorem admitLayout_at (changed : Bool) {failed : Error → World → Prop} :
    Triple (At base) (admitLayout project session changed) (fun _ => At base) failed := by
  cases changed with
  | true => exact fun world holds => Eq.trans (World.still_invalidated _ project session) holds
  | false => exact fun _ holds => holds

theorem dispatchProject_tells :
    Tells base session name args (dispatchProject project session name args) := by
  refine .after (framed rejectCancelled_idle) fun _ =>
    .after (Engine.refreshProject_framed project) fun changed =>
    .bind (admitLayout_at changed) fun _ => Tells.after (framed rejectCancelled_idle) fun _ =>
    .bind (.attempt dispatchAttached_tells) fun result => ?_
  cases result with
  | ok response => exact .pure fun _ holds => holds
  | error error =>
    refine .bind (Still.at' (.when _ (PetActor.restart_framed project))) fun _ =>
      .bind (invalidateWhen_at _) fun _ => .throw fun _ holds => holds

theorem retireProof_staysCommitted : Stays StaysCommitted (retireProof project session) := by
  refine .bind (.gets _) fun book => .bind (.attempt (PetActor.releaseStates_framed project _))
    fun result => ?_
  have cleared : Stays StaysCommitted (clearBook session : EngineM Unit) :=
    .bind (.gets _) fun _ => .modify fun _ => id
  cases result with
  | ok _ => exact .bind cleared fun _ => .pure _
  | error error => exact .ite (fun _ => .bind cleared fun _ => .pure _) fun _ => .throw _

/-- A retirement that succeeds has committed. -/
theorem retireForStart_cleared :
    Triple (At base) (retireForStart project session)
      (fun _ world => Cleared base session world ∧ world.signal = .committed) fun _ => At base := by
  have committed : Triple (At base) (commitOrCancelled : EngineM Unit)
      (fun _ world => At base world ∧ world.signal = .committed) fun _ => At base :=
    ((Still.at' (framed commitOrCancelled_idle)).both commitOrCancelled_committed).weaken
      (fun _ holds => ⟨holds, holds⟩) (fun _ _ holds => holds) fun _ _ holds => holds.1
  have retired : Triple (fun world => At base world ∧ world.signal = .committed)
      (retireProof project session)
      (fun _ world => Cleared base session world ∧ world.signal = .committed) fun _ => At base :=
    (retireProof_cleared.both (retireProof_staysCommitted.keeps fun _ _ => id)).weaken
      (fun _ holds => holds) (fun _ _ holds => holds) fun _ _ holds => holds.1
  have invalidated (lost : Bool) : Stays StaysCommitted
      (Act.when lost (invalidateProjectStates project session) : EngineM Unit) :=
    .when lost (invalidateProjectStates_cached project session)
  exact .bind (Still.at' (framed rejectCancelled_idle)) fun _ => .bind committed fun _ =>
    .bind retired fun lost => ((invalidateWhen_at lost).both ((invalidated lost).keeps
      fun _ _ => id)).weaken (fun _ holds => holds) (fun _ _ holds => holds) fun _ _ holds => holds.1

/-- The sessions stand where one of them is attached elsewhere. -/
def placed (base : SessionId → Standing) (session : SessionId) (project : Option ProjectId) :
    SessionId → Standing :=
  Function.update base session { base session with project := project }

theorem setSelection_placed {world : World} (holds : At base world) (project : Option ProjectId) :
    At (placed base session project)
      (world.setSelection session { world.selections session with project := project }) := by
  have same : world.standing = base := holds
  rw [At, placed, ← same]
  funext other
  by_cases own : other = session
  · subst own
    simp [World.standing, Selection.standing, World.setSelection]
  · simp [World.standing, World.setSelection, own]

theorem installStartView_placed :
    Triple (At base) (installStartView project session)
      (fun _ => At (placed base session (some project))) fun _ => At base := by
  refine .bind (Still.at' (Engine.refreshProject_framed project)) fun changed =>
    .through (fun _ => At (placed base session (some project))) ?_ fun _ => admitLayout_at changed
  exact fun _ holds => setSelection_placed holds _

theorem enterProject_placed :
    Triple (At base) (enterProject project session)
      (fun _ => At (placed base session (some project))) fun _ => At base :=
  .bind (Still.at' (framed rejectCancelled_idle)) fun _ =>
    .bind (Still.at' (framed commitOrCancelled_idle)) fun _ => installStartView_placed

theorem installStartView_staysCommitted : Stays StaysCommitted (installStartView project session) :=
  .bind (Engine.refreshProject_framed project) fun changed => .bind (.modify fun _ => id) fun _ =>
    admitLayout_cached changed

theorem enterProject_staysCommitted : Stays StaysCommitted (enterProject project session) :=
  .bind (framed rejectCancelled_idle) fun _ => .bind (framed commitOrCancelled_idle) fun _ =>
    installStartView_staysCommitted

/-- A `start` may fail after it has retired the proof, or left the project, but
then it has committed. -/
theorem start_accounts :
    Triple (At base) (start session args)
      (fun response => Accounts base session "start" args (.ok response))
      fun error => Accounts base session "start" args (.error error) := by
  have steady {α : Type} {action : EngineM α} (still : Stays Still action) :
      Triple (At base) action (fun _ => At base)
        fun error => Accounts base session "start" args (.error error) :=
    (Still.at' still).weaken (fun _ holds => holds) (fun _ _ holds => holds)
      fun error _ holds => .failed holds error
  -- After the commit, a failure leaves the retired session where it is.
  have late {base' : SessionId → Standing} {after : World → Prop} {action : EngineM Unit}
      (places : Triple (At base') action (fun _ => after) fun _ => At base')
      (stays : Stays StaysCommitted action) :
      Triple (fun world => At base' world ∧ world.signal = .committed) action (fun _ => after)
        fun _ world => At base' world ∧ world.signal = .committed :=
    (places.both (stays.keeps fun _ _ => id)).weaken (fun _ holds => holds)
      (fun _ _ holds => holds.1) fun _ _ holds => holds
  refine .bind (steady (.ofExcept _)) fun _ => .bind (steady (.ofExcept _)) fun _ =>
    .bind (steady (framed Engine.attach_idle)) fun attached =>
    .bind (steady (openRuntime_cached attached)) fun _ =>
    .through (fun found world => At base world ∧ found = (base session).project) ?_
      fun found => .assume fun stands => ?_
  · exact fun world holds => ⟨holds, At.project holds⟩
  cases found with
  | none =>
    refine .bind (enterProject_placed.weaken (fun _ holds => holds) (fun _ _ holds => holds)
      fun error _ holds => .failed holds error) fun _ => .pure fun _ holds =>
        ⟨_, _, .entered stands.symm, rfl, .done, holds⟩
  | some previous =>
    have retired : Triple (At base) (retireForStart previous session)
        (fun _ world => Cleared base session world ∧ world.signal = .committed)
        fun error => Accounts base session "start" args (.error error) :=
      retireForStart_cleared.weaken (fun _ holds => holds) (fun _ _ holds => holds)
        fun error _ holds => .failed holds error
    refine .ite (fun same => ?_) fun other => ?_
    · refine .bind retired fun _ => .bind
        ((late installStartView_placed installStartView_staysCommitted).weaken
          (fun _ holds => holds) (fun _ _ holds => holds) fun error _ holds =>
            ⟨_, _, .interrupted error stands.symm holds.2, rfl, .error, holds.1⟩) fun _ => .pure ?_
      intro world holds
      refine ⟨_, _, .restarted (stands.symm.trans (congrArg some same)), rfl, .done, ?_⟩
      rw [At, placed, Function.update_self, Function.update_idem] at holds
      exact holds
    · refine .through (fun _ world => At (placed (Function.update base session
        { base session with tree := none }) session none) world ∧ world.signal = .committed) ?_
          fun _ => ?_
      · refine .bind retired fun _ => ?_
        exact fun _ holds => ⟨setSelection_placed holds.1 none, holds.2⟩
      · refine .bind ((late enterProject_placed enterProject_staysCommitted).weaken
          (fun _ holds => holds) (fun _ _ holds => holds) fun error _ holds => ?_) fun _ =>
          .pure fun _ holds => ?_
        · obtain ⟨holds, committed⟩ := holds
          rw [At, placed, Function.update_self, Function.update_idem] at holds
          exact ⟨_, _, .stranded error stands.symm committed, rfl, .error, holds⟩
        · rw [At, placed, placed, Function.update_idem, Function.update_idem, Function.update_self,
            Function.update_self] at holds
          exact ⟨_, _, .moved stands.symm other, rfl, .done, holds⟩

theorem dispatch_accounts :
    Triple (At base) (dispatch session name args)
      (fun response => Accounts base session name args (.ok response))
      fun error => Accounts base session name args (.error error) := by
  have told {action : EngineM Response} (tells : Tells base session name args action) :
      Triple (At base) action (fun response => Accounts base session name args (.ok response))
        fun error => Accounts base session name args (.error error) :=
    Triple.weaken tells (fun _ holds => holds) (fun _ _ holds => holds)
      fun error _ holds => .failed holds error
  refine .bind ((Still.at' (framed rejectCancelled_idle)).weaken (fun _ holds => holds)
    (fun _ _ holds => holds) fun error _ holds => .failed holds error) fun _ =>
    .ite (fun asked => told ?_) fun _ => .ite (fun same => ?_) fun _ => ?_
  · simp only [Bool.and_eq_true, decide_eq_true_eq] at asked
    rw [asked.1]
    exact .after (.ofExcept _) fun _ => .after (.ofExcept _) fun _ => .silent queryReports rfl
  · rw [same]
    exact start_accounts
  · refine .through (fun _ => At base) (fun _ holds => holds) fun found => ?_
    cases found with
    | none => exact .throw fun _ holds => .failed holds _
    | some project => exact told dispatchProject_tells

end

end Adapter

/-- Whatever a request returns, a few actions on the proof of its session
explain it, no other session moves, and the checkpoint it shows is selected. -/
theorem World.request_explained (world : World) (session : SessionId) (name : String)
    (args : Value) :
    Adapter.Accounts world.standing session name args (world.request session name args).1
      (world.request session name args).2 := by
  have ended := @Adapter.dispatch_accounts session world.standing args name (world.begin .active) rfl
  unfold World.request
  rcases ran : Adapter.dispatch session name args (world.begin .active) with ⟨result, after⟩
  rw [ran] at ended
  cases result with
  | ok response => exact ended
  | error error => exact ended

end RocqMcp
