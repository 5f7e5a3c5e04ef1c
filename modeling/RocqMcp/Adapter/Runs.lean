import RocqMcp.Adapter.Events

/-! What holds in all runs of the server: a failed request leaves no trace, an
event touches its own projects only, and the history of a proof is kept until
the proof is retired. -/

namespace RocqMcp

open Library

section

variable {session : SessionId} {world after : World} {event : Event}

/-! ### Failed requests -/

/-- A request that fails leaves every attachment, every graph of checkpoints and
every source file as it was. A `start` may fail after it has committed, but then
its error is not the cancellation. -/
theorem World.failure_untouched (reached : World.Reached world) (used : session < world.connections)
    {name : String} {args : Value} {error : Error}
    (failed : (world.request session name args).1 = .error error)
    (silent : name ≠ "start" ∨ error.kind = .requestCancelled) :
    Untouched world (world.request session name args).2 :=
  reached.lawful.untouched used failed silent

/-- The cancellation arrives after PET has run the attempt. -/
def Sharing.unwanted (world : World) : Bool :=
  let ended := world.request 0 "check" (fragment "idtac.")
  0 < world.connections &&
    (match ended.1 with
      | .error error => error.kind = .requestCancelled
      | .ok _ => false) &&
    ended.2.ghost.turns.length = world.ghost.turns.length + 3

@[irreducible]
def Sharing.cancelledRun : { world : World // World.Reached world ∧ Sharing.unwanted world = true } :=
  World.reaching (environment (some 126)) sources sharing _ (by decide +kernel)

def Sharing.cancelled : World := Sharing.cancelledRun.val

theorem World.failure_untouched_cancelled :
    (Sharing.cancelled.request 0 "check" (Sharing.fragment "idtac.")).2.ghost.turns.length =
        Sharing.cancelled.ghost.turns.length + 3 ∧
      Untouched Sharing.cancelled
        (Sharing.cancelled.request 0 "check" (Sharing.fragment "idtac.")).2 := by
  obtain ⟨reached, facts⟩ := Sharing.cancelledRun.property
  simp only [Sharing.unwanted, Bool.and_eq_true, decide_eq_true_eq] at facts
  obtain ⟨⟨used, failed⟩, asked⟩ := facts
  refine ⟨asked, ?_⟩
  rcases ran : (Sharing.cancelled.request 0 "check" (Sharing.fragment "idtac.")).1 with
    error | response
  · exact World.failure_untouched reached used ran (.inl (by decide))
  · rw [show (Sharing.cancelledRun.val.request 0 "check" (Sharing.fragment "idtac.")).1 = _ from
      ran] at failed
    cases failed

/-! ### Other sessions and projects -/

/-- An event leaves the other projects alone, and of the other sessions of its
own projects everything but the PET states. -/
theorem World.step_isolated (reached : World.Reached world) (spoken : event ≠ .connect)
    (moved : world.step event = some after) :
    Apart (world.Touches event) (world.speaker event) world after :=
  (reached.lawful.step moved).2 spoken

/-- In the step, PET dies and the sessions of its project lose their states. -/
def Sharing.bereaves (world : World) : Bool :=
  let states (world : World) (session : SessionId) : List PetStateId :=
    (world.selections session).checkpoints.states
  (world.step (attempt 0 "die.")).any fun after =>
    states world 1 ≠ [] && states after 1 = [] && states world 2 ≠ [] &&
      (world.selections 0).project = some Sample.root &&
      (world.selections 1).project = some Sample.root && (world.selections 2).project = some other

@[irreducible]
def Sharing.sharedRun : { world : World // World.Reached world ∧ Sharing.bereaves world = true } :=
  World.reaching (environment none) sources sharing _ (by decide +kernel)

def Sharing.shared : World := Sharing.sharedRun.val

theorem World.step_isolated_died :
    ∃ after, Sharing.shared.step (Sharing.attempt 0 "die.") = some after ∧
      Apart (Sharing.shared.Touches (Sharing.attempt 0 "die.")) 0 Sharing.shared after ∧
      (Sharing.shared.selections 1).checkpoints.states ≠ [] ∧
      (after.selections 1).checkpoints.states = [] ∧
      (after.selections 1).checkpoints = (Sharing.shared.selections 1).checkpoints.invalidateStates ∧
      (Sharing.shared.selections 2).checkpoints.states ≠ [] ∧
      (after.selections 2).checkpoints = (Sharing.shared.selections 2).checkpoints ∧
      after.projects Sharing.other = Sharing.shared.projects Sharing.other := by
  obtain ⟨reached, facts⟩ := Sharing.sharedRun.property
  obtain ⟨after, moved, facts⟩ := (Option.any_eq_true _ _).mp facts
  simp only [Bool.and_eq_true, decide_eq_true_eq] at facts
  obtain ⟨⟨⟨⟨⟨held, lost⟩, kept⟩, own⟩, sibling⟩, away⟩ := facts
  have spoken : Sharing.attempt 0 "die." ≠ .connect := by
    unfold Sharing.attempt
    exact nofun
  have apart := World.step_isolated reached spoken moved
  have untouched : ∀ project, project ≠ Sample.root →
      ¬ Sharing.shared.Touches (Sharing.attempt 0 "die.") project := by
    rintro project different (selected | ⟨started, -⟩)
    · exact different (Option.some.inj (selected.symm.trans own))
    · exact absurd started (by decide)
  have touches : ∀ project, Sharing.shared.Touches (Sharing.attempt 0 "die.") project →
      Sharing.shared.attachedTo project 2 = false := by
    intro project touched
    have same : project = Sample.root := by
      by_contra different
      exact untouched project different touched
    simp [World.attachedTo, same, show (Sharing.shared.selections 2).project = _ from away,
      Sharing.other, Sample.root]
  refine ⟨after, moved, apart, held, lost, ?_, kept, apart.elsewhere 2 (by decide) touches,
    apart.projects _ (untouched _ (by decide))⟩
  rcases apart.siblings 1 (by decide) with same | invalidated
  · exact absurd (lost.symm.trans (congrArg _ same)).symm held
  · exact invalidated

/-! ### The history of a proof -/

theorem CheckpointBook.Forgets.grows {before after : CheckpointBook}
    (forgets : before.Forgets after) : before.Grows after := by
  rcases forgets with rfl | rfl
  · exact .refl after
  · exact .invalidateStates before

/-- Until its cell is dropped, the book of a session keeps its history. -/
theorem Lawful.step_grows (lawful : Lawful world) (moved : world.step event = some after)
    (stays : event ≠ .drop session) :
    (world.selections session).checkpoints.Grows (after.selections session).checkpoints := by
  have others (spoken : event ≠ .connect) (other : session ≠ world.speaker event) :
      (world.selections session).checkpoints.Grows (after.selections session).checkpoints :=
    (((lawful.step moved).2 spoken).siblings session other).grows
  cases event with
  | connect =>
    obtain rfl := Option.some.inj moved
    exact .refl _
  | request speaker name args =>
    by_cases own : session = speaker
    · subst own
      simp only [World.step] at moved
      split at moved
      · rename_i isOpen
        obtain rfl := Option.some.inj moved
        exact (lawful.request (World.isOpen_used isOpen) name args).grown
      · cases moved
    · exact others (by simp) own
  | detach speaker =>
    by_cases own : session = speaker
    · subst own
      simp only [World.step] at moved
      split at moved
      · rename_i project selected
        split at moved
        · rename_i isOpen
          obtain rfl := Option.some.inj moved
          exact (lawful.detach (World.isOpen_used isOpen) selected).grown
        · cases moved
      · cases moved
    · exact others (by simp) own
  | enter speaker committed =>
    by_cases own : session = speaker
    · subst own
      simp only [World.step] at moved
      split at moved
      · rename_i possible
        simp only [Bool.and_eq_true, Option.isNone_iff_eq_none] at possible
        obtain rfl := Option.some.inj moved
        exact (lawful.enter (World.isOpen_used possible.1) possible.2 committed).grown
      · cases moved
    · exact others (by simp) own
  | disconnect speaker =>
    simp only [World.step] at moved
    split at moved
    · obtain rfl := Option.some.inj moved
      exact .refl _
    · cases moved
  | drop speaker =>
    by_cases own : session = speaker
    · exact absurd (congrArg Event.drop own.symm) stays
    · exact others (by simp) own

theorem Lawful.run_grows (lawful : Lawful world)
    (run : Reachable World.step (fun _ event => event ≠ .drop session) world after) :
    Lawful after ∧
      (world.selections session).checkpoints.Grows (after.selections session).checkpoints :=
  run.invariant (fun after => Lawful after ∧
      (world.selections session).checkpoints.Grows (after.selections session).checkpoints)
    ⟨lawful, .refl _⟩ fun _ _ _ held stays moved =>
      ⟨(held.1.step moved).1, held.2.trans (held.1.step_grows moved stays)⟩

end

section

variable {id : CheckpointId} {book later : CheckpointBook} {proof proof' : ProofSession}

/-- The way to a surviving checkpoint is the same. -/
theorem ProofSession.Survives.ancestors (survives : proof.Survives proof') {fuel : Nat}
    (known : id ∈ proof.ids) : proof'.ancestors fuel id = proof.ancestors fuel id := by
  induction fuel generalizing id with
  | zero => rfl
  | succ fuel ih =>
    obtain ⟨node, found⟩ := Option.isSome_iff_exists.mp (proof.get?_isSome known)
    obtain ⟨node', found', alike⟩ := survives id node found
    have same : node'.parent = node.parent := congrArg Prod.fst alike.1
    simp only [ProofSession.ancestors, found, found', same]
    cases isParent : node.parent with
    | none => rfl
    | some parent =>
      have present := (proof.rooted _ (proof.mem_of_get? found) parent (by simp [isParent])).2
      simp only [ih present]

/-- The accepted inputs along a list of checkpoints. -/
theorem ProofSession.Survives.inputs (survives : proof.Survives proof')
    (active : book.proof = some proof) (active' : later.proof = some proof')
    (path : List CheckpointId) (known : ∀ step ∈ path, step ∈ proof.ids) :
    ∃ records records',
      (path.mapM fun id => do return (id, ← book.lookup id)) = Except.ok records ∧
        (path.mapM fun id => do return (id, ← later.lookup id)) = Except.ok records' ∧
          records'.filterMap (fun record => record.2.acceptedInput) =
            records.filterMap fun record => record.2.acceptedInput := by
  induction path with
  | nil => exact ⟨[], [], rfl, rfl, rfl⟩
  | cons head rest ih =>
    obtain ⟨node, found⟩ :=
      Option.isSome_iff_exists.mp (proof.get?_isSome (known head List.mem_cons_self))
    obtain ⟨node', found', alike⟩ := survives head node found
    obtain ⟨records, records', read, read', same⟩ :=
      ih fun step member => known step (List.mem_cons_of_mem _ member)
    refine ⟨(head, node) :: records, (head, node') :: records', ?_, ?_, ?_⟩
    · rw [List.mapM_cons, ProofSession.lookup_of_get? active found, read]
      rfl
    · rw [List.mapM_cons, ProofSession.lookup_of_get? active' found', read']
      rfl
    · have input : node'.acceptedInput = node.acceptedInput := congrArg Prod.snd alike.1
      rw [List.filterMap_cons, List.filterMap_cons, input, same]

theorem ProofSession.Survives.fragments (survives : proof.Survives proof')
    (active : book.proof = some proof) (active' : later.proof = some proof')
    (known : id ∈ proof.ids) : later.fragments id = book.fragments id := by
  obtain ⟨path, walked, _, inside⟩ := proof.ancestors_ok known (Nat.lt_succ_self id)
  obtain ⟨records, records', read, read', same⟩ :=
    survives.inputs active active' path.reverse fun step member =>
      inside step (List.mem_reverse.mp member)
  have records_eq : book.records id = .ok records := by
    simp only [CheckpointBook.records, CheckpointBook.path, active, walked]
    exact read
  have records_eq' : later.records id = .ok records' := by
    simp only [CheckpointBook.records, CheckpointBook.path, active', survives.ancestors known, walked]
    exact read'
  rw [CheckpointBook.fragments, CheckpointBook.fragments, records_eq, records_eq']
  exact congrArg Except.ok same

/-- The checkpoint is where it was, with the same way to it, and can be selected. -/
structure CheckpointBook.Keeps (before after : CheckpointBook) (id : CheckpointId)
    (node : Checkpoint) : Prop where
  alike : ∃ node', after.lookup id = .ok node' ∧ node.Alike node'
  fragments : after.fragments id = before.fragments id
  selectable : ∃ selected, after.select id = .ok selected

theorem ProofSession.Survives.keeps (survives : proof.Survives proof')
    (active : book.proof = some proof) (active' : later.proof = some proof') {node : Checkpoint}
    (found : proof.get? id = some node) : book.Keeps later id node := by
  obtain ⟨node', found', alike⟩ := survives id node found
  have known' : id ∈ proof'.ids := CheckpointBook.get?_known found'
  refine ⟨⟨node', ProofSession.lookup_of_get? active' found', alike⟩,
    survives.fragments active active' (CheckpointBook.get?_known found), ?_⟩
  unfold CheckpointBook.select
  split
  · rename_i inactive
    rw [active'] at inactive
    cases inactive
  · rename_i other active''
    obtain rfl := Option.some.inj (active'.symm.trans active'')
    rw [dif_pos known']
    exact ⟨_, rfl⟩

end

/-- As long as a proof is not retired, all of its checkpoints stay, and what is
handed to publication is one branch. -/
theorem World.history_kept {session : SessionId} {world after : World}
    (reached : World.Reached world)
    (run : Reachable World.step (fun _ event => event ≠ .drop session) world after) :
    (∀ proof ∈ (world.selections session).checkpoints.proof,
      ∀ proof' ∈ (after.selections session).checkpoints.proof,
        (∃ id ∈ proof.ids, id ∈ proof'.ids) →
          proof'.target = proof.target ∧ ∀ id node, proof.get? id = some node →
            (world.selections session).checkpoints.Keeps (after.selections session).checkpoints id
              node) ∧
      ∀ submission ∈ after.ghost.submissions, submission.Linear := by
  obtain ⟨lawful, grows⟩ := reached.lawful.run_grows run
  refine ⟨?_, lawful.consistent.submitted⟩
  rintro proof active proof' active' ⟨shared, known, known'⟩
  have old := (world.selections session).checkpoints.bounded proof active shared known
  obtain ⟨node', found'⟩ := Option.isSome_iff_exists.mp (proof'.get?_isSome known')
  obtain ⟨same, active'', target, _⟩ := grows.old proof' active' shared old node' found'
  obtain rfl := Option.some.inj (active.symm.trans active'')
  exact ⟨target.symm, fun id node found =>
    (grows.kept proof' active' shared known' old proof active).keeps active active' found⟩

/-- A step of the first connection fails to be published, PET dies under the
second one, and the first one goes on from the root. -/
def Sharing.resuming : List Event :=
  [attempt 0 "exact I.", attempt 1 "die.",
    .request 0 "rewind" (.object [("checkpoint", .number 1)]), attempt 0 "idtac."]

def Event.isRequest : Event → Bool
  | .request .. => true
  | _ => false

/-- The proof goes on with its two checkpoints and two others. -/
def Sharing.continues (world after : World) : Bool :=
  (world.selections 0).checkpoints.proof.any fun proof =>
    (after.selections 0).checkpoints.proof.any fun proof' =>
      proof.ids = [1, 2] && proof'.ids = [1, 2, 3, 4] && after.ghost.submissions ≠ []

/-- The run goes through. -/
def Sharing.resumes (world : World) : Bool :=
  (execute World.step (fun _ event => event.isRequest = true) world resuming).any (continues world)

@[irreducible]
def Sharing.steppedRun : { world : World // World.Reached world ∧ Sharing.resumes world = true } :=
  World.reaching (environment none) sources (sharing ++ [attempt 0 "idtac."]) _
    (by decide +kernel)

def Sharing.stepped : World := Sharing.steppedRun.val

theorem World.history_kept_resumed : ∃ (after : World) (proof proof' : ProofSession),
    Reachable World.step (fun _ event => event ≠ .drop 0) Sharing.stepped after ∧
      (Sharing.stepped.selections 0).checkpoints.proof = some proof ∧ proof.ids = [1, 2] ∧
      (after.selections 0).checkpoints.proof = some proof' ∧ proof'.ids = [1, 2, 3, 4] ∧
      proof'.target = proof.target ∧
      (∀ id node, proof.get? id = some node →
        (Sharing.stepped.selections 0).checkpoints.Keeps (after.selections 0).checkpoints id node) ∧
      after.ghost.submissions ≠ [] ∧ ∀ submission ∈ after.ghost.submissions, submission.Linear := by
  obtain ⟨reached, facts⟩ := Sharing.steppedRun.property
  let last := Reachable.run Sharing.resuming _ facts
  obtain ⟨ran, facts⟩ := last.property
  have run : Reachable World.step (fun _ event => event ≠ .drop 0) Sharing.stepped last.val := by
    refine ran.weaken fun _ event asked dropped => ?_
    rw [dropped] at asked
    cases asked
  obtain ⟨proof, active, facts⟩ := (Option.any_eq_true _ _).mp facts
  obtain ⟨proof', active', facts⟩ := (Option.any_eq_true _ _).mp facts
  simp only [Bool.and_eq_true, decide_eq_true_eq] at facts
  obtain ⟨⟨ids, ids'⟩, submitted⟩ := facts
  obtain ⟨kept, linear⟩ := World.history_kept reached run
  obtain ⟨target, keeps⟩ := kept proof active proof' active'
    ⟨1, ids ▸ List.mem_cons_self, ids' ▸ List.mem_cons_self⟩
  exact ⟨last.val, proof, proof', run, active, ids, active', ids', target, keeps, submitted, linear⟩

end RocqMcp
