import Mathlib.Data.List.TakeWhile
import RocqMcp.Adapter.Boundary

/-! The lazy replay of a proof: the states that it makes are temporary until
they are installed in the book, and the ones they replace are released. -/

namespace RocqMcp

open Library

variable {id target : CheckpointId}

namespace Adapter

theorem Staged.install_other {staged : List Staged} (missing : id ∉ staged.map Staged.id)
    (node : Checkpoint) : Staged.install staged id node = node := by
  have absent : staged.find? (fun entry => entry.id = id) = none := by
    rw [List.find?_eq_none]
    intro entry member same
    exact missing (List.mem_map.mpr ⟨entry, member, by simpa using same⟩)
  simp [Staged.install, absent]

theorem Staged.install_cons {entry : Staged} {rest : List Staged}
    (missing : entry.id ∉ rest.map Staged.id) (id : CheckpointId) (node : Checkpoint) :
    Staged.install rest id (Staged.install [entry] id node) =
      Staged.install (entry :: rest) id node := by
  by_cases here : entry.id = id
  · subst here
    rw [Staged.install_other missing]
    simp [Staged.install]
  · have elsewhere : id ∉ [entry].map Staged.id := by simpa using Ne.symm here
    rw [Staged.install_other elsewhere]
    simp [Staged.install, here]

/-- The PET states of a list of checkpoints. -/
def statesOf (entries : List (CheckpointId × Checkpoint)) : List PetStateId :=
  entries.filterMap fun entry => entry.2.petState

def installAll (staged : List Staged) (entries : List (CheckpointId × Checkpoint)) :
    List (CheckpointId × Checkpoint) :=
  entries.map fun entry => (entry.1, Staged.install staged entry.1 entry.2)

/-- One replayed state takes the place of an old one. -/
theorem installAll_one (entry : Staged) {entries : List (CheckpointId × Checkpoint)}
    {node : Checkpoint} (distinct : (entries.map Prod.fst).Nodup)
    (known : (entry.id, node) ∈ entries) :
    (entry.state :: statesOf entries).Perm
      (node.petState.toList ++ statesOf (installAll [entry] entries)) := by
  induction entries with
  | nil => cases known
  | cons head rest ih =>
    obtain ⟨fresh, distinct'⟩ := List.nodup_cons.mp distinct
    by_cases here : head.1 = entry.id
    · have same : head = (entry.id, node) := by
        rcases List.mem_cons.mp known with same | later
        · exact same.symm
        · exact absurd (List.mem_map.mpr ⟨_, later, rfl⟩) (here ▸ fresh)
      subst same
      have kept : installAll [entry] rest = rest := by
        unfold installAll
        refine (List.map_congr_left fun other member => ?_).trans (List.map_id rest)
        rw [Staged.install_other]
        · rfl
        · simp only [List.map_cons, List.map_nil, List.mem_singleton]
          intro same
          exact fresh (List.mem_map.mpr ⟨other, member, same⟩)
      have replaced : statesOf (installAll [entry] ((entry.id, node) :: rest)) =
          entry.state :: statesOf rest := by
        rw [installAll, List.map_cons, ← installAll, kept]
        simp [statesOf, Staged.install]
      rw [replaced]
      have split : statesOf ((entry.id, node) :: rest) = node.petState.toList ++ statesOf rest := by
        cases held : node.petState <;> simp [statesOf, held]
      rw [split]
      exact List.perm_middle.symm
    · have later : (entry.id, node) ∈ rest := by
        rcases List.mem_cons.mp known with same | later
        · exact absurd (congrArg Prod.fst same).symm here
        · exact later
      have kept : Staged.install [entry] head.1 head.2 = head.2 :=
        Staged.install_other (by simpa using here) head.2
      have split : ∀ others, statesOf (head :: others) = head.2.petState.toList ++ statesOf others := by
        intro others
        cases held : head.2.petState <;> simp [statesOf, held]
      have mapped : installAll [entry] (head :: rest) = head :: installAll [entry] rest := by
        rw [installAll, List.map_cons, ← installAll, kept]
      rw [mapped, split, split]
      refine (List.perm_middle.symm.trans ((ih distinct' later).append_left _)).trans ?_
      rw [← List.append_assoc, ← List.append_assoc]
      exact List.perm_append_comm.append_right _

/-- The replayed states take the place of the old ones. -/
theorem installAll_states (old : Staged → Option PetStateId) {staged : List Staged}
    {entries : List (CheckpointId × Checkpoint)} (distinct : (entries.map Prod.fst).Nodup)
    (fresh : (staged.map Staged.id).Nodup)
    (known : ∀ entry ∈ staged, ∃ node, (entry.id, node) ∈ entries ∧ old entry = node.petState) :
    (staged.map Staged.state ++ statesOf entries).Perm
      (staged.filterMap old ++ statesOf (installAll staged entries)) := by
  induction staged generalizing entries with
  | nil =>
    have kept : installAll [] entries = entries := List.map_id entries
    simp [kept]
  | cons head rest ih =>
    obtain ⟨missing, fresh'⟩ := List.nodup_cons.mp fresh
    obtain ⟨node, present, held⟩ := known head List.mem_cons_self
    have first := installAll_one head distinct present
    have later : ∀ entry ∈ rest, ∃ node, (entry.id, node) ∈ installAll [head] entries ∧
        old entry = node.petState := by
      intro entry member
      obtain ⟨node, present, held⟩ := known entry (List.mem_cons_of_mem _ member)
      have different : entry.id ≠ head.id := by
        intro same
        exact missing (List.mem_map.mpr ⟨entry, member, same⟩)
      refine ⟨node, List.mem_map.mpr ⟨_, present, ?_⟩, held⟩
      rw [Staged.install_other (by simpa using different)]
    have rested := ih (by simpa [installAll, Function.comp_def] using distinct) fresh' later
    have both : installAll rest (installAll [head] entries) = installAll (head :: rest) entries := by
      simp only [installAll, List.map_map]
      exact List.map_congr_left fun entry _ => by simp [Staged.install_cons missing]
    rw [both] at rested
    have split : (head :: rest).filterMap old = (old head).toList ++ rest.filterMap old := by
      cases found : old head <;> simp [found]
    rw [split, held, List.map_cons, List.cons_append]
    refine List.perm_middle.symm.trans ((first.append_left _).trans ?_)
    rw [← List.append_assoc]
    refine (List.perm_append_comm.append_right _).trans ?_
    rw [List.append_assoc, List.append_assoc]
    exact rested.append_left _

theorem boundedCheckpointView_lifecycle (state : ProofState) :
    (boundedCheckpointView state).1.lifecycle = state.lifecycle := by
  unfold boundedCheckpointView
  split <;> rfl

/-- The book of the session is a given one. -/
def Kept (session : SessionId) (book : CheckpointBook) (world : World) : Prop :=
  (world.selections session).checkpoints = book

section

variable {project : ProjectId} {session : SessionId} {start : World} {temps : List PetStateId}
  {known : CheckpointBook}

theorem Kept.meanwhile (world world' : World) (meanwhile : Meanwhile world world')
    (kept : Kept session known world) : Kept session known world' := by
  rw [Kept, meanwhile.selections]
  exact kept

/-- A failure that has left the book alone. -/
def Undone (project : ProjectId) (session : SessionId) (start : World) (known : CheckpointBook)
    (temps : List PetStateId) (error : Error) (world : World) : Prop :=
  Failing project session start temps error world ∧ Kept session known world

theorem release_kept (states : List PetStateId) :
    Triple (fun world => Clean project session start (states ++ temps) world ∧
        Kept session known world) (release project states)
      (fun _ world => Clean project session start temps world ∧ Kept session known world)
      (Undone project session start known temps) := by
  refine Clean.keeping _ (fun _ => temps) Kept.meanwhile fun middle _ _ => ?_
  rw [List.append_assoc]
  exact Holding.projected petReleaseError_telling (PetActor.releaseStates_holding states)

theorem release_clean (states : List PetStateId) :
    Triple (Clean project session start (states ++ temps)) (release project states)
      (fun _ => Clean project session start temps) (Failing project session start temps) := by
  refine (Clean.step fun middle _ => ?_ :
    Triple _ _ (fun _ => Clean project session start temps) _)
  rw [List.append_assoc]
  exact Holding.projected petReleaseError_telling (PetActor.releaseStates_holding states)

theorem Clean.undone {error : Error} {world : World}
    (holds : Clean project session start temps world ∧ Kept session known world)
    (mild : error.Mild) : Undone project session start known temps error world :=
  ⟨⟨holds.1.toUnseen, .inl ⟨holds.1.toServing, mild⟩⟩, holds.2⟩

/-- After a failed step: an error that ends the epoch has discarded all states. -/
theorem releaseFailed_undone (states : List PetStateId) (error : Error) :
    Triple (Undone project session start known states error)
      (Act.when (!error.kind.invalidatesPetEpoch) (release project states))
      (fun _ => Undone project session start known [] error)
      (Undone project session start known []) := by
  cases ends : error.kind.invalidatesPetEpoch with
  | true =>
    rintro world ⟨⟨unseen, ⟨serving, mild⟩ | stranded⟩, kept⟩
    · exact ⟨⟨unseen, .inr ⟨serving.toAdrift, .inl (mild ends)⟩⟩, kept⟩
    · exact ⟨⟨unseen, .inr stranded⟩, kept⟩
  | false =>
    have mild : error.Mild := .of_kind ends
    have released : Triple (fun world => Clean project session start (states ++ []) world ∧
        Kept session known world) _ _ _ := release_kept states
    rw [List.append_nil] at released
    refine released.weaken ?_ (fun _ _ holds => Clean.undone holds mild) fun _ _ fails => fails
    rintro world ⟨⟨unseen, ⟨serving, _⟩ | ⟨_, cancelled | ⟨told, _⟩⟩⟩, kept⟩
    · exact ⟨⟨serving, unseen⟩, kept⟩
    · rw [cancelled] at ends
      cases ends
    · rw [ends] at told
      cases told

/-- What a step of the replay adds. -/
def Replayed (id : CheckpointId) (step : Staged) : Prop :=
  step.id = id ∧ step.view.lifecycle = .open'

theorem replayStep_clean (target : DeclarationTarget) {state : PetStateId} {staged : List Staged}
    (member : state ∈ staged.map Staged.state ++ known.states) (id : CheckpointId)
    {checkpoint : Checkpoint} (replayable : checkpoint.acceptedInput.isSome) :
    Triple (fun world => Clean project session start (staged.map Staged.state) world ∧
        Kept session known world) (replayStep project target state staged id checkpoint)
      (fun step world => (Clean project session start (step.state :: staged.map Staged.state) world ∧
        Kept session known world) ∧ Replayed id step)
      (Undone project session start known []) := by
  obtain ⟨input, accepted⟩ := Option.isSome_iff_exists.mp replayable
  unfold replayStep
  rw [accepted]
  refine .through (fun value world => (Clean project session start (staged.map Staged.state) world ∧
    Kept session known world) ∧ value = input) (fun _ holds => ⟨holds, rfl⟩) fun _ =>
      .assume fun same => ?_
  subst same
  refine .bind (.attempt (Clean.engine _ (fun step => step.state :: staged.map Staged.state)
    (fun step _ => step.view.lifecycle = .open') Kept.meanwhile fun middle kept own =>
      Engine.run_holding ?_ target _ none)) fun result => ?_
  · rcases List.mem_append.mp member with replayed | held
    · exact List.mem_append_left _ replayed
    · exact List.mem_append_right _ (own.mem_held (kept ▸ held))
  cases result with
  | error error =>
    exact .bind (releaseFailed_undone _ error) fun _ => .throw fun _ fails => fails
  | ok step =>
    refine .ite (fun _ => ?_) fun _ => .pure fun world ⟨clean, opened, kept⟩ => ⟨⟨clean, kept⟩, rfl, ?_⟩
    · refine .bind ((release_kept _).weaken ?_ (fun _ _ holds => holds) fun _ _ fails => fails)
        fun _ => .throw fun _ holds => Clean.undone holds (.of_kind rfl)
      intro world ⟨clean, _, kept⟩
      rw [List.append_nil]
      exact ⟨clean.perm (List.perm_append_singleton _ _).symm, kept⟩
    · simp only [Staged.of, boundedCheckpointView_lifecycle]
      split <;> exact opened

/-- The replayed part of a path, and the state at its end: of the last replayed
checkpoint, or of the last one that has kept its own. -/
structure Suffix (retained : Option PetStateId) (ids : List CheckpointId) (state : PetStateId)
    (staged : List Staged) : Prop where
  ids : staged.map Staged.id = ids
  views : ∀ entry ∈ staged, entry.view.lifecycle = .open'
  last : (staged.getLast?.map Staged.state).or retained = some state

theorem Suffix.extend {retained : Option PetStateId} {ids : List CheckpointId} {state : PetStateId}
    {staged : List Staged} (replayed : Suffix retained ids state staged) {id : CheckpointId}
    {step : Staged} (added : Replayed id step) :
    Suffix retained (ids ++ [id]) step.state (staged ++ [step]) where
  ids := by rw [List.map_append, replayed.ids]; simp [added.1]
  views := by
    intro entry member
    rcases List.mem_append.mp member with old | new
    · exact replayed.views entry old
    · rw [List.mem_singleton.mp new]
      exact added.2
  last := by simp

theorem Suffix.member {retained : Option PetStateId} {ids : List CheckpointId} {state : PetStateId}
    {staged : List Staged} (replayed : Suffix retained ids state staged)
    (held : ∀ state ∈ retained, state ∈ known.states) :
    state ∈ staged.map Staged.state ++ known.states := by
  have last := replayed.last
  cases ended : staged.getLast? with
  | none =>
    rw [ended] at last
    exact List.mem_append_right _ (held state last)
  | some entry =>
    rw [ended] at last
    obtain rfl := Option.some.inj last
    exact List.mem_append_left _ (List.mem_map_of_mem (List.mem_of_getLast? ended))

theorem replaySteps_clean (target : DeclarationTarget) {retained : Option PetStateId}
    (held : ∀ state ∈ retained, state ∈ known.states) {ids : List CheckpointId}
    {state : PetStateId} {staged : List Staged} (replayed : Suffix retained ids state staged)
    {missing : List (CheckpointId × Checkpoint)}
    (replayable : ∀ record ∈ missing, record.2.acceptedInput.isSome) :
    Triple (fun world => Clean project session start (staged.map Staged.state) world ∧
        Kept session known world) (replaySteps project target state staged missing)
      (fun result world => (Clean project session start (result.2.map Staged.state) world ∧
        Kept session known world) ∧ Suffix retained (ids ++ missing.map Prod.fst) result.1 result.2)
      (Undone project session start known []) := by
  induction missing generalizing ids state staged with
  | nil => exact .pure fun _ holds => ⟨holds, by simpa using replayed⟩
  | cons record rest ih =>
    refine .bind (replayStep_clean target (replayed.member held) record.1
      (replayable record List.mem_cons_self)) fun step => .assume fun added => ?_
    refine (ih (replayed.extend added) fun record member =>
      replayable record (List.mem_cons_of_mem _ member)).weaken ?_ ?_ fun _ _ fails => fails
    · rintro world ⟨clean, kept⟩
      refine ⟨clean.perm ?_, kept⟩
      rw [List.map_append]
      exact (List.perm_append_singleton _ _).symm
    · rintro result world ⟨clean, ended⟩
      exact ⟨clean, by simpa using ended⟩

theorem replayRoot_clean (target : DeclarationTarget) (id : CheckpointId) (root : Checkpoint) :
    Triple (fun world => Clean project session start [] world ∧ Kept session known world)
      (replayRoot project target id root)
      (fun step world => (Clean project session start [step.state] world ∧
        Kept session known world) ∧ Replayed id step)
      (Undone project session start known []) := by
  refine .bind (Clean.engine _ (fun opened => [opened.state])
    (fun opened _ => opened.view.lifecycle = .open') Kept.meanwhile fun middle _ _ =>
      Engine.replayRoot_holding target) fun opened => ?_
  refine .ite (fun _ => ?_) fun _ => .pure fun world ⟨clean, viewed, kept⟩ => ⟨⟨clean, kept⟩, rfl, ?_⟩
  · exact .bind ((release_kept [opened.state]).weaken (fun _ holds => ⟨holds.1, holds.2.2⟩)
      (fun _ _ holds => holds) fun _ _ fails => fails) fun _ => .throw fun _ holds =>
        Clean.undone holds (.of_kind rfl)
  · simpa only [Staged.of, boundedCheckpointView_lifecycle] using viewed

/-- The replay of the records of a path from the first one without a state. -/
theorem replayMissing_clean (target : DeclarationTarget) {retained : Option PetStateId}
    {missing : List (CheckpointId × Checkpoint)} (held : ∀ state ∈ retained, state ∈ known.states)
    (replayable : ∀ record ∈ missing, retained.isSome → record.2.acceptedInput.isSome)
    (later : ∀ record ∈ missing.tail, record.2.acceptedInput.isSome) :
    Triple (fun world => Clean project session start [] world ∧ Kept session known world)
      (replayMissing project target retained missing)
      (fun result world => (Clean project session start (result.2.map Staged.state) world ∧
        Kept session known world) ∧ Suffix retained (missing.map Prod.fst) result.1 result.2)
      (Undone project session start known []) := by
  cases retained with
  | some state =>
    have begun : Suffix (some state) [] state [] := ⟨rfl, by simp, rfl⟩
    exact replaySteps_clean target held begun fun record member => replayable record member rfl
  | none =>
    cases missing with
    | nil => exact .throw fun _ holds => Clean.undone holds (.of_kind rfl)
    | cons record rest =>
      refine .bind (replayRoot_clean target record.1 record.2) fun opened => .assume fun added => ?_
      have begun : Suffix none [record.1] opened.state [opened] :=
        ⟨by simp [added.1], by simp [added.2], rfl⟩
      exact replaySteps_clean target held begun later

/-- The entries replay the records, each one from the state before it. -/
inductive Restored (world : World) :
    PetStateId → List (CheckpointId × Checkpoint) → List Staged → Prop
  | nil : Restored world state [] []
  | cons {record : CheckpointId × Checkpoint} {entry : Staged} {input : String} :
      entry.id = record.1 → record.2.acceptedInput = some input →
      world.Ran state input entry.state record.2.finished →
      Restored world entry.state records staged →
      Restored world state (record :: records) (entry :: staged)

/-- The missing records are replayed after the last state that is left, or from
a new root. -/
def Restores (world : World) (target : DeclarationTarget) (retained : Option PetStateId)
    (missing : List (CheckpointId × Checkpoint)) (staged : List Staged) : Prop :=
  match retained, missing, staged with
  | some state, missing, staged => Restored world state missing staged
  | none, record :: missing, entry :: staged =>
    entry.id = record.1 ∧ target.RootAt world entry.state record.2.finished ∧
      Restored world entry.state missing staged
  | none, _, _ => False

theorem replayStep_restored {noted : World → Prop} (lasting : Lasting noted)
    (target : DeclarationTarget) (state : PetStateId) (staged : List Staged) (id : CheckpointId)
    (checkpoint : Checkpoint) :
    Triple noted (replayStep project target state staged id checkpoint)
      (fun step world => noted world ∧ step.id = id ∧ ∃ input,
        checkpoint.acceptedInput = some input ∧
          world.Ran state input step.state checkpoint.finished) fun _ _ => True := by
  unfold replayStep
  cases accepted : checkpoint.acceptedInput with
  | none =>
    exact .through (fun _ _ => False) (Triple.throw fun _ _ => trivial) fun _ _ holds => holds.elim
  | some input =>
    refine .through (fun value world => noted world ∧ value = input) (fun _ holds => ⟨holds, rfl⟩)
      fun _ => .assume fun same => ?_
    subst same
    refine .bind (.attempt ((Triple.both ((Engine.run_remembers target state _ none).kept lasting)
      (Engine.run_ran target state _ none)).weaken (fun _ holds => ⟨holds, holds⟩)
        (fun _ _ holds => holds) fun _ _ _ => trivial)) fun result => ?_
    cases result with
    | error error => exact .bind .trivial fun _ => .throw fun _ _ => trivial
    | ok step =>
      refine .ite (fun _ => .bind .trivial fun _ => .throw fun _ _ => trivial) fun same => .pure ?_
      rintro world ⟨holds, ran, _⟩
      rw [not_not.mp same] at ran
      exact ⟨holds, rfl, _, rfl, ran⟩

theorem replaySteps_restored {noted : World → Prop} (lasting : Lasting noted)
    (target : DeclarationTarget) (state : PetStateId) (staged : List Staged)
    (missing : List (CheckpointId × Checkpoint)) :
    Triple noted (replaySteps project target state staged missing)
      (fun result world => noted world ∧ ∃ added, result.2 = staged ++ added ∧
        Restored world state missing added) fun _ _ => True := by
  induction missing generalizing noted state staged with
  | nil => exact .pure fun _ holds => ⟨holds, [], (List.append_nil _).symm, .nil⟩
  | cons record rest ih =>
    refine .bind (replayStep_restored lasting target state staged record.1 record.2) fun step => ?_
    have ran : Lasting fun world => noted world ∧ step.id = record.1 ∧ ∃ input,
        record.2.acceptedInput = some input ∧ world.Ran state input step.state record.2.finished :=
      lasting.and <| Lasting.and (.const _) fun _ _ remembers ⟨input, accepted, ran⟩ =>
        ⟨input, accepted, ran.later remembers⟩
    refine (ih ran step.state (staged ++ [step])).weaken (fun _ holds => holds) ?_ fun _ _ _ => trivial
    rintro result world ⟨⟨holds, same, input, accepted, ran⟩, added, split, restored⟩
    exact ⟨holds, step :: added, by rw [split, List.append_assoc]; rfl,
      .cons same accepted ran restored⟩

theorem replayMissing_restored (target : DeclarationTarget) (retained : Option PetStateId)
    (missing : List (CheckpointId × Checkpoint)) {before : World → Prop} :
    Triple before (replayMissing project target retained missing)
      (fun result world => Restores world target retained missing result.2) fun _ _ => True := by
  cases retained with
  | some state =>
    have steps : Triple (fun _ => True) (replaySteps project target state [] missing) _ _ :=
      replaySteps_restored Lasting.true target state [] missing
    refine steps.weaken (fun _ _ => trivial) ?_ fun _ _ holds => holds
    rintro result world ⟨_, added, split, restored⟩
    rw [show result.2 = added from split]
    exact restored
  | none =>
    cases missing with
    | nil => exact .throw fun _ _ => trivial
    | cons record rest =>
      refine .through (fun opened world => opened.id = record.1 ∧
        target.RootAt world opened.state record.2.finished) ?_ fun opened => ?_
      · refine .bind (Engine.replayRoot_rooted target) fun opened =>
          .ite (fun _ => .bind .trivial fun _ => .throw fun _ _ => trivial) fun same => .pure ?_
        rintro world ⟨rooted, _⟩
        rw [not_not.mp same] at rooted
        exact ⟨rfl, rooted⟩
      · refine (replaySteps_restored (Lasting.and (.const _) fun _ _ remembers rooted =>
          DeclarationTarget.RootAt.later rooted remembers) target opened.state [opened] rest).weaken
            (fun _ holds => holds) ?_ fun _ _ _ => trivial
        rintro result world ⟨⟨same, rooted⟩, added, split, restored⟩
        rw [split]
        exact ⟨same, rooted, restored⟩

/-- The book with the replayed states. -/
def installed (staged : List Staged) (book : CheckpointBook) : CheckpointBook :=
  book.mapNodes (Staged.install staged) (Staged.install_edge staged)

/-- Where the state of a replayed checkpoint comes from: from its target, if it
is the root, or from the state of its parent, which is replayed or was left. -/
def Origin (world : World) (known : CheckpointBook) (staged : List Staged) (entry : Staged)
    (node : Checkpoint) : Prop :=
  (node.parent = none →
    ∀ proof ∈ known.proof, proof.target.RootAt world entry.state node.finished) ∧
  ∀ parent ∈ node.parent, ∃ source input, node.acceptedInput = some input ∧
    world.Ran source input entry.state node.finished ∧
      ((∃ earlier ∈ staged, earlier.id = parent ∧ earlier.state = source) ∨
        ∃ above, known.lookup parent = .ok above ∧ above.petState = some source)

/-- The staged entries replay checkpoints of the book that have no state, each
one once and after its parent. -/
structure Replays (world : World) (known : CheckpointBook) (staged : List Staged) : Prop where
  fresh : (staged.map Staged.id).Nodup
  present : ∀ entry ∈ staged, ∃ node, known.lookup entry.id = .ok node ∧ node.petState = none ∧
    Origin world known staged entry node
  views : ∀ entry ∈ staged, entry.view.lifecycle = .open'

theorem Staged.install_found {staged : List Staged} (fresh : (staged.map Staged.id).Nodup)
    {entry : Staged} (member : entry ∈ staged) (node : Checkpoint) :
    (Staged.install staged entry.id node).petState = some entry.state := by
  have located : staged.find? (fun other => other.id = entry.id) = some entry := by
    obtain ⟨early, late, split⟩ := List.append_of_mem member
    rw [split, List.map_append, List.nodup_append] at fresh
    rw [split, List.find?_append, List.find?_eq_none.mpr]
    · simp
    · intro other earlier
      simpa using fresh.2.2 other.id (List.mem_map_of_mem earlier) entry.id (by simp)
  simp [Staged.install, located]

/-- No state is replaced. -/
theorem Replays.replaced {staged : List Staged} {world : World}
    (replays : Replays world known staged) : Staged.replaced staged known = [] := by
  refine List.filterMap_eq_nil_iff.mpr fun entry member => ?_
  obtain ⟨node, found, blank, -⟩ := replays.present entry member
  rw [found]
  exact blank

theorem Replays.kept {staged : List Staged} {world : World} (replays : Replays world known staged)
    {node : Checkpoint} (found : known.lookup id = .ok node) (held : node.petState.isSome) :
    Staged.install staged id node = node := by
  refine Staged.install_other (fun replayed => ?_) node
  obtain ⟨entry, member, rfl⟩ := List.mem_map.mp replayed
  obtain ⟨blank, found', none', -⟩ := replays.present entry member
  obtain rfl := Except.ok.inj (found.symm.trans found')
  rw [none'] at held
  cases held

/-- All states are still derived from the root. -/
theorem Replays.derived {staged : List Staged} {world : World}
    (replays : Replays world known staged) {proof : ProofSession}
    (active : known.proof = some proof) (derived : proof.Derived world) :
    (proof.mapNodes (Staged.install staged) (Staged.install_edge staged)).Derived world := by
  have lift : ∀ parent above, proof.get? parent = some above →
      (proof.mapNodes (Staged.install staged) (Staged.install_edge staged)).get? parent =
        some (Staged.install staged parent above) :=
    fun parent above found => by rw [proof.get?_mapNodes, found]; rfl
  have left : ∀ parent above source, proof.get? parent = some above → above.petState = some source →
      ∃ above', (proof.mapNodes (Staged.install staged) (Staged.install_edge staged)).get? parent =
        some above' ∧ above'.petState = some source := fun parent above source found held =>
    ⟨above, by
      rw [lift parent above found,
        replays.kept (ProofSession.lookup_of_get? active found) (by rw [held]; rfl)], held⟩
  intro id node state found held
  rw [proof.get?_mapNodes] at found
  obtain ⟨old, found', rfl⟩ := Option.map_eq_some_iff.mp found
  obtain ⟨sameParent, sameInput⟩ := Prod.mk.inj (Staged.install_edge staged id old)
  rw [sameParent, sameInput, Staged.install_finished]
  by_cases replayed : id ∈ staged.map Staged.id
  · obtain ⟨entry, member, rfl⟩ := List.mem_map.mp replayed
    obtain ⟨node, read, -, root, step⟩ := replays.present entry member
    obtain rfl := Option.some.inj (found'.symm.trans (proof.of_lookup active read))
    obtain rfl := Option.some.inj ((Staged.install_found replays.fresh member old).symm.trans held)
    refine ⟨fun isRoot => root isRoot proof active, fun parent isParent => ?_⟩
    obtain ⟨source, input, accepted, ran, ⟨earlier, member', rfl, rfl⟩ | ⟨above, read', held'⟩⟩ :=
      step parent isParent
    · obtain ⟨above, read', -⟩ := replays.present earlier member'
      exact ⟨_, _, input, lift _ above (proof.of_lookup active read'),
        Staged.install_found replays.fresh member' above, accepted, ran⟩
    · obtain ⟨above', found'', held''⟩ := left parent above source (proof.of_lookup active read') held'
      exact ⟨above', source, input, found'', held'', accepted, ran⟩
  · rw [Staged.install_other replayed] at held
    obtain ⟨root, step⟩ := derived id old state found' held
    refine ⟨root, fun parent isParent => ?_⟩
    obtain ⟨above, source, input, found'', held', accepted, ran⟩ := step parent isParent
    obtain ⟨above', found'', held''⟩ := left parent above source found'' held'
    exact ⟨above', source, input, found'', held'', accepted, ran⟩

theorem Replays.sound {staged : List Staged} {world : World}
    (replays : Replays world known staged) (sound : ∀ proof ∈ known.proof, proof.Sound world) :
    ∀ proof ∈ (installed staged known).proof, proof.Sound world := by
  intro proof active
  obtain ⟨old, present, rfl⟩ := Option.map_eq_some_iff.mp active
  refine ⟨(sound old present).coherent, ?_, replays.derived present (sound old present).derived⟩
  intro entry member
  obtain ⟨earlier, present', rfl⟩ := List.mem_map.mp member
  have viewed := (sound old present).views earlier present'
  simp only [Staged.install]
  split
  · exact viewed
  · exact replays.views _ (List.mem_of_find?_eq_some ‹_›)

theorem Replays.moved {staged : List Staged} {world : World}
    (replays : Replays world known staged) :
    (staged.map Staged.state ++ known.states).Perm
      (Staged.replaced staged known ++ (installed staged known).states) := by
  cases active : known.proof with
  | none =>
    have blank : staged = [] := by
      apply List.eq_nil_iff_forall_not_mem.mpr
      intro entry member
      obtain ⟨node, found, -⟩ := replays.present entry member
      rw [CheckpointBook.lookup, active] at found
      cases found
    subst blank
    simp [CheckpointBook.states, installed, CheckpointBook.mapNodes, active, Staged.replaced]
  | some proof =>
    have before : known.states = statesOf proof.checkpoints := by
      simp [CheckpointBook.states, active, ProofSession.states, statesOf]
    have later : (installed staged known).states = statesOf (installAll staged proof.checkpoints) := by
      simp [CheckpointBook.states, installed, CheckpointBook.mapNodes, active, ProofSession.states,
        ProofSession.mapNodes, statesOf, installAll]
    rw [before, later]
    refine installAll_states _ proof.distinct replays.fresh ?_
    intro entry member
    obtain ⟨node, found, -⟩ := replays.present entry member
    exact ⟨node, proof.mem_of_get? (proof.of_lookup active found), by simp [found]⟩

theorem installed_lookup {node : Checkpoint} (staged : List Staged)
    (found : known.lookup id = .ok node) :
    (installed staged known).lookup id = .ok (Staged.install staged id node) := by
  cases active : known.proof with
  | none =>
    rw [CheckpointBook.lookup, active] at found
    cases found
  | some proof =>
    have mapped : (installed staged known).proof =
        some (proof.mapNodes (Staged.install staged) (Staged.install_edge staged)) := by
      simp [installed, CheckpointBook.mapNodes, active]
    refine ProofSession.lookup_of_get? mapped ?_
    rw [proof.get?_mapNodes, proof.of_lookup active found]
    rfl

theorem Origin.later {staged : List Staged} {entry : Staged} {node : Checkpoint}
    {world after : World} (origin : Origin world known staged entry node)
    (remembers : Remembers world after) : Origin after known staged entry node := by
  refine ⟨fun isRoot proof active => (origin.1 isRoot proof active).later remembers, ?_⟩
  intro parent isParent
  obtain ⟨source, input, accepted, ran, above⟩ := origin.2 parent isParent
  exact ⟨source, input, accepted, ran.later remembers, above⟩

theorem Replays.later {staged : List Staged} {world after : World}
    (replays : Replays world known staged) (remembers : Remembers world after) :
    Replays after known staged where
  fresh := replays.fresh
  present entry member := by
    obtain ⟨node, found, blank, origin⟩ := replays.present entry member
    exact ⟨node, found, blank, origin.later remembers⟩
  views := replays.views

/-- The installation cannot fail: there is no state to release. -/
theorem installStaged_clean {staged : List Staged} {failed : Error → World → Prop} :
    Triple (fun world => (Clean project session start (staged.map Staged.state) world ∧
        Kept session known world) ∧ Replays world known staged)
      (installStaged project session staged)
      (fun _ world => (Clean project session start [] world ∧
        Kept session (installed staged known) world) ∧ Replays world known staged) failed := by
  refine .bind (.gets _) fun read => ?_
  rintro world ⟨⟨⟨clean, kept⟩, replays⟩, rfl⟩
  have sound := replays.sound (kept ▸ clean.consistent.proofs session)
  have grown := CheckpointBook.Grows.mapNodes known (Staged.install staged)
    (Staged.install_edge staged) (Staged.install_finished staged)
  rw [show (world.selections session).checkpoints = known from kept, replays.replaced]
  refine ⟨⟨?_, ?_⟩, replays.later (.of_same rfl)⟩
  · refine clean.setBook sound ?_ ?_ ?_
    · rw [kept]
      have moved := replays.moved
      rwa [replays.replaced] at moved
    · rw [kept]
      exact CheckpointBook.mapNodes_topology _ _ _ (Staged.install_finished staged)
    · rw [kept]
      exact grown
  · rw [Kept, World.selections_setCheckpoints, if_pos rfl]
    rfl

/-- Below a checkpoint without a state there is none with one. -/
theorem blank_below {proof : ProofSession} (active : known.proof = some proof) (live : proof.Live)
    {records : List (CheckpointId × Checkpoint)}
    (found : ∀ record ∈ records, known.lookup record.1 = .ok record.2)
    (linked : records.IsChain fun parent child => child.2.parent = some parent.1)
    (blank : ∀ record ∈ records.head?, record.2.petState = none) :
    ∀ record ∈ records, record.2.petState = none := by
  induction records with
  | nil => simp
  | cons top rest ih =>
    have first := blank top rfl
    have later := fun record member => found record (List.mem_cons_of_mem top member)
    have rested : ∀ record ∈ rest, record.2.petState = none := by
      refine ih later (List.isChain_cons.mp linked).2 fun next isNext => ?_
      have isParent := (List.isChain_cons.mp linked).1 next isNext
      by_contra held
      have alive : next.2.petState.isSome := Option.isSome_iff_ne_none.mpr held
      obtain ⟨above, found', held'⟩ := live next.1 next.2
        (proof.of_lookup active (later next (List.mem_of_mem_head? isNext))) alive top.1 isParent
      obtain rfl := Option.some.inj
        ((proof.of_lookup active (found top List.mem_cons_self)).symm.trans found')
      rw [first] at held'
      cases held'
    intro record member
    rcases List.mem_cons.mp member with rfl | member
    · exact first
    · exact rested record member

/-- Every restored entry has its record, and the entry of the record before it. -/
theorem Restored.origin {world : World} {state : PetStateId}
    {missing : List (CheckpointId × Checkpoint)} {staged : List Staged}
    (restored : Restored world state missing staged) {entry : Staged} (member : entry ∈ staged) :
    ∃ early record late input source, missing = early ++ record :: late ∧ entry.id = record.1 ∧
      record.2.acceptedInput = some input ∧
      world.Ran source input entry.state record.2.finished ∧
      ((early = [] ∧ source = state) ∨ ∃ front before earlier, early = front ++ [before] ∧
        earlier ∈ staged ∧ earlier.id = before.1 ∧ earlier.state = source) := by
  induction restored with
  | nil => cases member
  | @cons state records staged record first input same accepted ran rest ih =>
    rcases List.mem_cons.mp member with rfl | member
    · exact ⟨[], record, records, input, state, rfl, same, accepted, ran, .inl ⟨rfl, rfl⟩⟩
    · obtain ⟨early, last, late, input', source, split, same', accepted', ran', above⟩ := ih member
      refine ⟨record :: early, last, late, input', source, by rw [split]; rfl, same', accepted',
        ran', .inr ?_⟩
      rcases above with ⟨rfl, rfl⟩ | ⟨front, before, earlier, rfl, known, named, held⟩
      · exact ⟨[], record, first, rfl, List.mem_cons_self, same, rfl⟩
      · exact ⟨record :: front, before, earlier, rfl, List.mem_cons_of_mem _ known, named, held⟩

/-- The path to a checkpoint: the records that have a state, and then the ones
that have none. -/
structure Gap (known : CheckpointBook) (target : CheckpointId)
    (retained missing : List (CheckpointId × Checkpoint)) : Prop where
  path : known.PathTo target (retained ++ missing)
  alive : ∀ record ∈ retained, record.2.petState.isSome
  blank : ∀ record ∈ missing, record.2.petState = none

theorem Gap.of_path {records : List (CheckpointId × Checkpoint)} (path : known.PathTo target records)
    {proof : ProofSession} (active : known.proof = some proof) (live : proof.Live) :
    Gap known target (records.takeWhile fun record => record.2.petState.isSome)
      (records.dropWhile fun record => record.2.petState.isSome) where
  path := by rw [List.takeWhile_append_dropWhile]; exact path
  alive record member := by simpa using List.mem_takeWhile_imp member
  blank := by
    have suffix := records.dropWhile_suffix fun record => record.2.petState.isSome
    refine blank_below active live (fun record member => path.known record (suffix.subset member))
      (path.linked.suffix suffix) fun record first => ?_
    have stopped := List.head?_dropWhile_not (fun record : CheckpointId × Checkpoint =>
      record.2.petState.isSome) records
    rw [Option.mem_def.mp first] at stopped
    simpa using stopped

theorem Gap.link {retained missing : List (CheckpointId × Checkpoint)}
    (gap : Gap known target retained missing) {front late : List (CheckpointId × Checkpoint)}
    {before record : CheckpointId × Checkpoint}
    (split : retained ++ missing = front ++ before :: record :: late) :
    record.2.parent = some before.1 :=
  List.isChain_iff_forall_rel_of_append_cons_cons.mp gap.path.linked split

/-- The state of the last record that has kept one. -/
def lastState (retained : List (CheckpointId × Checkpoint)) : Option PetStateId :=
  retained.getLast?.bind fun record => record.2.petState

/-- The origin of an entry that is restored after a state of the path. -/
theorem Gap.origin {retained missing : List (CheckpointId × Checkpoint)}
    (gap : Gap known target retained missing) {world : World} {staged : List Staged}
    {front rest : List (CheckpointId × Checkpoint)} {before : CheckpointId × Checkpoint}
    {state : PetStateId} (split : retained ++ missing = (front ++ [before]) ++ rest)
    {added : List Staged} (subset : added ⊆ staged) (restored : Restored world state rest added)
    (first : (∃ earlier ∈ staged, earlier.id = before.1 ∧ earlier.state = state) ∨
      ∃ above, known.lookup before.1 = .ok above ∧ above.petState = some state)
    {entry : Staged} (member : entry ∈ added) :
    ∃ record ∈ rest, entry.id = record.1 ∧ Origin world known staged entry record.2 := by
  obtain ⟨early, record, late, input, source, tail, same, accepted, ran, above⟩ :=
    restored.origin member
  subst tail
  refine ⟨record, by simp, same, ?_⟩
  have origin : ∀ parent, record.2.parent = some parent →
      ((∃ earlier ∈ staged, earlier.id = parent ∧ earlier.state = source) ∨
        ∃ above, known.lookup parent = .ok above ∧ above.petState = some source) →
      Origin world known staged entry record.2 := by
    intro parent isParent known'
    refine ⟨fun isRoot => absurd (isRoot.symm.trans isParent) nofun, fun other isOther => ?_⟩
    obtain rfl := Option.some.inj (isParent.symm.trans isOther)
    exact ⟨source, input, accepted, ran, known'⟩
  rcases above with ⟨rfl, rfl⟩ | ⟨inner, previous, earlier, rfl, present, named, held⟩
  · exact origin before.1 (gap.link (by simpa using split)) first
  · have split' : retained ++ missing =
        (front ++ [before] ++ inner) ++ previous :: record :: late := by simpa using split
    exact origin previous.1 (gap.link split') (.inl ⟨earlier, subset present, named, held⟩)

theorem Replays.of_gap {retained missing : List (CheckpointId × Checkpoint)}
    (gap : Gap known target retained missing) {proof : ProofSession}
    (active : known.proof = some proof) {world : World} {staged : List Staged}
    (ids : staged.map Staged.id = missing.map Prod.fst)
    (views : ∀ entry ∈ staged, entry.view.lifecycle = .open')
    (restores : Restores world proof.target (lastState retained) missing staged) :
    Replays world known staged := by
  have fresh := gap.path.fresh
  rw [List.map_append, List.nodup_append] at fresh
  have found : ∀ record ∈ missing, known.lookup record.1 = .ok record.2 := fun record member =>
    gap.path.known record (List.mem_append_right _ member)
  refine ⟨ids ▸ fresh.2.1, fun entry member => ?_, views⟩
  suffices placed : ∃ record ∈ missing, entry.id = record.1 ∧
      Origin world known staged entry record.2 by
    obtain ⟨record, present, same, origin⟩ := placed
    exact ⟨record.2, same ▸ found record present, gap.blank record present, origin⟩
  rcases retained.eq_nil_or_concat' with rfl | ⟨front, before, rfl⟩
  · match missing, staged, restores with
    | root :: rest, opened :: added, ⟨same, rooted, restored⟩ =>
      have isRoot : root.2.parent = none := gap.path.root root rfl
      rcases List.mem_cons.mp member with rfl | later
      · refine ⟨root, List.mem_cons_self, same, fun _ other active' => ?_, fun parent isParent => ?_⟩
        · obtain rfl := Option.some.inj (active.symm.trans active')
          exact rooted
        · exact absurd (isRoot.symm.trans isParent) nofun
      · obtain ⟨record, present, origin⟩ := gap.origin
          (show [] ++ root :: rest = ([] ++ [root]) ++ rest from rfl) (List.subset_cons_self _ _)
            restored (.inl ⟨opened, List.mem_cons_self, same, rfl⟩) later
        exact ⟨record, List.mem_cons_of_mem _ present, origin⟩
  · obtain ⟨state, held⟩ := Option.isSome_iff_exists.mp (gap.alive before (by simp))
    have last : lastState (front ++ [before]) = some state := by simp [lastState, held]
    rw [last] at restores
    exact gap.origin rfl (List.Subset.refl _) restores
      (.inr ⟨before.2, gap.path.known before (by simp), held⟩) member

theorem Suffix.stateAt {retained missing : List (CheckpointId × Checkpoint)}
    (gap : Gap known target retained missing) {state : PetStateId} {staged : List Staged}
    {world : World} (replays : Replays world known staged)
    (replayed : Suffix (lastState retained) (missing.map Prod.fst) state staged) :
    (installed staged known).StateAt target state := by
  have last := gap.path.last
  have ended := replayed.last
  rcases missing.eq_nil_or_concat' with rfl | ⟨front, record, rfl⟩
  · have blank : staged = [] := by simpa using replayed.ids
    subst blank
    rcases retained.eq_nil_or_concat' with rfl | ⟨front, record, rfl⟩
    · cases ended
    · simp only [lastState, List.append_nil, List.getLast?_append, List.getLast?_singleton,
        Option.some_or, Option.map_some, Option.some.injEq, List.getLast?_nil, Option.map_none,
        Option.none_or, Option.bind_some] at last ended
      subst last
      exact ⟨_, installed_lookup [] (gap.path.known record (by simp)), ended⟩
  · have ids := replayed.ids
    rcases staged.eq_nil_or_concat' with rfl | ⟨before, entry, rfl⟩
    · simp at ids
    · have same : entry.id = target := by
        have lasts := congrArg List.getLast? ids
        simp only [List.map_append, List.map_cons, List.map_nil,
          List.getLast?_append, List.getLast?_singleton, Option.some_or, Option.some.injEq,
          Option.map_some] at lasts last
        exact lasts.trans last
      simp only [List.getLast?_append, List.getLast?_singleton,
        Option.some_or, Option.map_some, Option.some.injEq] at ended
      subst same ended
      obtain ⟨node, found, -⟩ := replays.present entry (by simp)
      exact ⟨_, installed_lookup _ found, Staged.install_found replays.fresh (by simp) node⟩

theorem ofBook_kept {result : Except CheckpointError α} :
    Triple (fun world => Clean project session start temps world ∧ Kept session known world)
      (ofBook result) (fun value world => (Clean project session start temps world ∧
        Kept session known world) ∧ result = .ok value)
      (Undone project session start known temps) := by
  cases result with
  | ok value => exact .pure fun _ holds => ⟨holds, rfl⟩
  | error error =>
    refine .throw fun _ holds => Clean.undone holds ?_
    cases error <;> exact .of_kind rfl

theorem activeProof_kept :
    Triple (fun world => Clean project session start temps world ∧ Kept session known world)
      (activeProof session) (fun proof world => (Clean project session start temps world ∧
        Kept session known world) ∧ known.proof = some proof)
      (Undone project session start known temps) := by
  refine .bind (.gets _) fun book => ?_
  rintro world ⟨⟨clean, kept⟩, rfl⟩
  rw [kept]
  cases active : known.proof with
  | none => exact Clean.undone ⟨clean, kept⟩ (.of_kind rfl)
  | some proof => exact ⟨⟨clean, kept⟩, rfl⟩

/-- The missing records have an input, unless they start with the root. -/
theorem Gap.replayable {retained missing : List (CheckpointId × Checkpoint)}
    (gap : Gap known target retained missing) :
    (retained ≠ [] → ∀ record ∈ missing, record.2.acceptedInput.isSome) ∧
      ∀ record ∈ missing.tail, record.2.acceptedInput.isSome := by
  have replayable := gap.path.replayable
  cases retained with
  | nil => exact ⟨fun nonempty => absurd rfl nonempty, replayable⟩
  | cons first rest =>
    have later : ∀ record ∈ missing, record.2.acceptedInput.isSome := fun record member =>
      replayable record (List.mem_append_right _ member)
    exact ⟨fun _ => later, fun record member => later record (List.mem_of_mem_tail member)⟩

/-- What a replay has made: states for the checkpoints of the path that had none. -/
structure Restoration (known : CheckpointBook) (target : CheckpointId) (state : PetStateId)
    (staged : List Staged) (world : World) : Prop where
  replays : Replays world known staged
  gap : ∃ retained missing, Gap known target retained missing ∧
    staged.map Staged.id = missing.map Prod.fst
  reached : (installed staged known).StateAt target state

/-- After a replay the checkpoint has the returned state; a failure changes
nothing. -/
theorem replayCheckpoint_kept (target : CheckpointId) :
    Triple (fun world => Clean project session start [] world ∧ Kept session known world)
      (replayCheckpoint project session target)
      (fun state world => Clean project session start [] world ∧ ∃ staged,
        Kept session (installed staged known) world ∧ Restoration known target state staged world)
      (Undone project session start known []) := by
  refine .bind (.gets _) fun book => ?_
  refine .through (fun records world => (Clean project session start [] world ∧
    Kept session known world) ∧ known.records target = .ok records) ?_ fun records =>
      .assume fun read => ?_
  · rintro world ⟨⟨clean, kept⟩, rfl⟩
    rw [show (world.selections session).checkpoints = known from kept]
    exact ofBook_kept world ⟨clean, kept⟩
  refine .bind activeProof_kept fun proof => .assume fun active => ?_
  refine .each_state fun middle ⟨clean, kept⟩ => ?_
  have live : proof.Live :=
    (clean.consistent.proofs session proof (by rw [kept]; exact active)).live
  have gap := Gap.of_path (known.records_path read) active live
  obtain ⟨replayable, later⟩ := gap.replayable
  have held : ∀ state ∈ lastState (records.takeWhile fun record => record.2.petState.isSome),
      state ∈ known.states := by
    intro state held
    obtain ⟨record, last, held⟩ := Option.bind_eq_some_iff.mp held
    refine CheckpointBook.StateAt.mem_states ⟨record.2, gap.path.known record ?_, held⟩
    exact List.mem_append_left _ (List.mem_of_getLast? last)
  have restorable : ∀ record ∈ records.dropWhile fun record => record.2.petState.isSome,
      (lastState (records.takeWhile fun record => record.2.petState.isSome)).isSome →
        record.2.acceptedInput.isSome := by
    intro record member some'
    refine replayable ?_ record member
    intro blank
    simp [lastState, blank] at some'
  refine .bind (((replayMissing_clean proof.target held restorable later).both
    (replayMissing_restored proof.target _ _)).weaken (fun _ same => ⟨same ▸ ⟨clean, kept⟩, same⟩)
      (fun _ _ holds => holds) fun _ _ fails => fails.1) fun replayed => ?_
  refine .through (fun _ world => (Clean project session start [] world ∧
    Kept session (installed replayed.2 known) world) ∧
      Restoration known target replayed.1 replayed.2 world) ?_ fun _ => .pure ?_
  · rintro world ⟨⟨holds, suffix⟩, restores⟩
    have replays := Replays.of_gap gap active suffix.ids suffix.views restores
    refine installStaged_clean.weaken (fun _ holds => holds) ?_ (fun _ _ holds => holds) world
      ⟨holds, replays⟩
    rintro _ world ⟨installed, replays⟩
    exact ⟨installed, replays, ⟨_, _, gap, suffix.ids⟩, suffix.stateAt gap replays⟩
  · exact fun world ⟨⟨clean, kept⟩, restoration⟩ => ⟨clean, replayed.2, kept, restoration⟩

/-- After a replay the checkpoint has the returned state. -/
theorem replayCheckpoint_clean (target : CheckpointId) :
    Triple (fun world => Clean project session start [] world ∧ Kept session known world)
      (replayCheckpoint project session target)
      (fun state world => Clean project session start [] world ∧
        ∃ staged, Kept session (installed staged known) world ∧
          (installed staged known).StateAt target state)
      (Failing project session start []) :=
  (replayCheckpoint_kept target).weaken (fun _ holds => holds)
    (fun _ _ ⟨clean, staged, kept, replayed⟩ => ⟨clean, staged, kept, replayed.reached⟩)
      fun _ _ fails => fails.1

/-- The selected checkpoint has the state. -/
def CurrentState (session : SessionId) (current : CheckpointId × PetStateId) (world : World) : Prop :=
  ∃ proof, (world.selections session).checkpoints.proof = some proof ∧ proof.current = current.1 ∧
    (world.selections session).checkpoints.StateAt current.1 current.2

theorem CurrentState.mem_held {current : CheckpointId × PetStateId} {world : World}
    (selected : CurrentState session current world) (own : Own project session world) :
    current.2 ∈ world.held project := by
  obtain ⟨proof, _, _, at'⟩ := selected
  exact own.mem_held at'.mem_states

theorem CurrentState.meanwhile {current : CheckpointId × PetStateId} (world world' : World)
    (meanwhile : Meanwhile world world') (selected : CurrentState session current world) :
    CurrentState session current world' := by
  rw [CurrentState, meanwhile.selections]
  exact selected

theorem ensureCurrentState_clean :
    Triple (Clean project session start []) (ensureCurrentState project session)
      (fun current world => Clean project session start [] world ∧
        CurrentState session current world)
      (Failing project session start []) := by
  refine .bind (.gets _) fun book => ?_
  refine .through (fun current world => (Clean project session start [] world ∧
    Kept session book world) ∧ book.current = .ok current) ?_ fun current => .assume fun read => ?_
  · rintro world ⟨clean, rfl⟩
    exact (ofBook_kept.weaken (fun _ holds => holds) (fun _ _ holds => holds)
      fun _ _ fails => fails.1) world ⟨clean, rfl⟩
  cases active : book.proof with
  | none =>
    rw [CheckpointBook.current, active] at read
    cases read
  | some proof =>
    have found : proof.get? current.1 = some current.2 ∧ proof.current = current.1 := by
      rw [CheckpointBook.current, active] at read
      dsimp only at read
      split at read
      · cases read
      · obtain rfl := Except.ok.inj read
        exact ⟨‹_›, rfl⟩
    split
    · rename_i state held
      refine .pure fun world ⟨clean, kept⟩ => ⟨clean, proof, ?_, found.2, ?_⟩
      · rw [show (world.selections session).checkpoints = book from kept]
        exact active
      · rw [show (world.selections session).checkpoints = book from kept]
        exact ⟨current.2, ProofSession.lookup_of_get? active found.1, held⟩
    · refine .bind (replayCheckpoint_clean current.1) fun state => .pure ?_
      rintro world ⟨clean, staged, kept, at'⟩
      refine ⟨clean, proof.mapNodes (Staged.install staged) (Staged.install_edge staged), ?_,
        found.2, ?_⟩
      · rw [show (world.selections session).checkpoints = installed staged book from kept]
        simp [installed, CheckpointBook.mapNodes, active]
      · rw [show (world.selections session).checkpoints = installed staged book from kept]
        exact at'

end

end Adapter

end RocqMcp
