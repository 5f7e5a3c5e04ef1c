import RocqMcp.Types

/-! MCP-owned request-boundary checkpoint graph. The graph and its book carry
their own well-formedness: the selected checkpoint and every parent exist, a
parent is older than its children, and no id exceeds the last one handed out. -/

namespace RocqMcp

abbrev CheckpointId := Nat

variable {id : CheckpointId} {fuel : Nat}

structure Checkpoint where
  parent : Option CheckpointId
  petState : Option PetStateId
  acceptedInput : Option String
  finished : Bool
  view : ProofState
  goalsNextOffset : Option Nat
  deriving DecidableEq

/-- What the topology keeps of a node: its parent and the text that replays it. -/
def Checkpoint.edge (node : Checkpoint) : Option CheckpointId × Option String :=
  (node.parent, node.acceptedInput)

/-- The active proof of one connection. -/
structure ProofSession where
  target : DeclarationTarget
  current : CheckpointId
  checkpoints : List (CheckpointId × Checkpoint)
  distinct : (checkpoints.map Prod.fst).Nodup
  selected : current ∈ checkpoints.map Prod.fst
  rooted : ∀ entry ∈ checkpoints, ∀ parent ∈ entry.2.parent,
    parent < entry.1 ∧ parent ∈ checkpoints.map Prod.fst
  replayable : ∀ entry ∈ checkpoints, entry.2.parent.isSome → entry.2.acceptedInput.isSome

inductive CheckpointError where
  | noActiveProof
  | activeProof
  | unknown
  | tooFar
  | exhausted
  deriving DecidableEq

structure CheckpointBook where
  next : Nat
  proof : Option ProofSession
  bounded : ∀ session ∈ proof, ∀ id ∈ session.checkpoints.map Prod.fst, id ≤ next

namespace ProofSession

def ids (session : ProofSession) : List CheckpointId := session.checkpoints.map Prod.fst

def get? (session : ProofSession) (id : CheckpointId) : Option Checkpoint :=
  (session.checkpoints.find? fun entry => entry.1 = id).map Prod.snd

/-- The PET states that the checkpoints retain. -/
def states (session : ProofSession) : List PetStateId :=
  session.checkpoints.filterMap fun entry => entry.2.petState

/-- Change the nodes of the graph but not its edges. -/
def mapNodes (session : ProofSession) (change : CheckpointId → Checkpoint → Checkpoint)
    (edges : ∀ id node, (change id node).edge = node.edge) : ProofSession where
  target := session.target
  current := session.current
  checkpoints := session.checkpoints.map fun entry => (entry.1, change entry.1 entry.2)
  distinct := by simpa [Function.comp_def] using session.distinct
  selected := by simpa [Function.comp_def] using session.selected
  rooted := by
    intro entry member parent isParent
    obtain ⟨old, present, rfl⟩ := List.mem_map.mp member
    rw [(Prod.mk.inj (edges old.1 old.2)).1] at isParent
    simpa [Function.comp_def] using session.rooted old present parent isParent
  replayable := by
    intro entry member
    obtain ⟨old, present, rfl⟩ := List.mem_map.mp member
    obtain ⟨parent, input⟩ := Prod.mk.inj (edges old.1 old.2)
    simpa [parent, input] using session.replayable old present

/-- Append a child of the selected checkpoint and select it. -/
def extend (session : ProofSession) (id : CheckpointId) (node : Checkpoint)
    (fresh : ∀ old ∈ session.ids, old < id) (parent : node.parent = some session.current)
    (input : node.acceptedInput.isSome) : ProofSession where
  target := session.target
  current := id
  checkpoints := session.checkpoints ++ [(id, node)]
  distinct := by
    rw [List.map_append, List.nodup_append]
    refine ⟨session.distinct, by simp, ?_⟩
    intro old member new same
    simp only [List.map_cons, List.map_nil, List.mem_singleton] at same
    exact Nat.ne_of_lt (same ▸ fresh old member)
  selected := by simp
  rooted := by
    intro entry member old isParent
    rcases List.mem_append.mp member with present | added
    · obtain ⟨older, known⟩ := session.rooted entry present old isParent
      exact ⟨older, by rw [List.map_append]; exact List.mem_append_left _ known⟩
    · simp only [List.mem_singleton] at added
      subst added
      rw [parent] at isParent
      obtain rfl := Option.some.inj isParent
      exact ⟨fresh _ session.selected,
        by rw [List.map_append]; exact List.mem_append_left _ session.selected⟩
  replayable := by
    intro entry member child
    rcases List.mem_append.mp member with present | added
    · exact session.replayable entry present child
    · simp only [List.mem_singleton] at added
      exact added ▸ input

/-- A graph that consists of its root. -/
def root (target : DeclarationTarget) (id : CheckpointId) (node : Checkpoint)
    (parent : node.parent = none) : ProofSession where
  target := target
  current := id
  checkpoints := [(id, node)]
  distinct := by simp
  selected := by simp
  rooted := by
    intro entry member old isParent
    simp only [List.mem_singleton] at member
    subst member
    simp [parent] at isParent
  replayable := by
    intro entry member child
    simp only [List.mem_singleton] at member
    subst member
    simp [parent] at child

def select (session : ProofSession) (id : CheckpointId) (known : id ∈ session.ids) :
    ProofSession :=
  { session with current := id, selected := known }

theorem get?_isSome (session : ProofSession) (known : id ∈ session.ids) :
    (session.get? id).isSome := by
  simp only [get?, Option.isSome_map, List.find?_isSome]
  obtain ⟨entry, member, same⟩ := List.mem_map.mp known
  exact ⟨entry, member, by simpa using same⟩

theorem mem_of_get? (session : ProofSession) {node : Checkpoint} (found : session.get? id = some node) :
    (id, node) ∈ session.checkpoints := by
  simp only [get?, Option.map_eq_some_iff] at found
  obtain ⟨entry, found, rfl⟩ := found
  have same := List.find?_some found
  simp only [decide_eq_true_eq] at same
  subst same
  exact List.mem_of_find?_eq_some found

/-- Follow the parents of a checkpoint, nearest first. -/
def ancestors (session : ProofSession) : Nat → CheckpointId →
    Except CheckpointError (List CheckpointId)
  | 0, _ => .error .unknown
  | fuel + 1, cursor =>
    match session.get? cursor with
    | none => .error .unknown
    | some node =>
      match node.parent with
      | none => .ok [cursor]
      | some parent => do return cursor :: (← session.ancestors fuel parent)

/-- Following parents reaches the root: each one is older than its child. -/
theorem ancestors_ok (session : ProofSession) (known : id ∈ session.ids)
    (enough : id < fuel) :
    ∃ path, session.ancestors fuel id = .ok path ∧ path ≠ [] ∧ ∀ step ∈ path, step ∈ session.ids := by
  induction fuel generalizing id with
  | zero => exact absurd enough (Nat.not_lt_zero _)
  | succ fuel ih =>
    obtain ⟨node, found⟩ := Option.isSome_iff_exists.mp (session.get?_isSome known)
    simp only [ancestors, found]
    cases isParent : node.parent with
    | none => exact ⟨[id], rfl, by simp, by simpa using known⟩
    | some parent =>
      obtain ⟨older, present⟩ :=
        session.rooted _ (session.mem_of_get? found) parent (by simp [isParent])
      obtain ⟨path, walked, _, inside⟩ := ih present (Nat.lt_of_lt_of_le older (Nat.le_of_lt_succ enough))
      refine ⟨id :: path, by simp [walked, Bind.bind, Except.bind, Pure.pure, Except.pure],
        by simp, ?_⟩
      intro step member
      rcases List.mem_cons.mp member with rfl | member
      · exact known
      · exact inside step member

end ProofSession

namespace CheckpointBook

def empty : CheckpointBook where
  next := 0
  proof := none
  bounded := by simp

/-- The last representable checkpoint id. -/
def maxId : Nat := 2 ^ 64 - 1

/-- The PET states that the book retains. -/
def states (book : CheckpointBook) : List PetStateId :=
  match book.proof with
  | none => []
  | some session => session.states

/-- `allocate`, before the caller stores the id. -/
def allocate (book : CheckpointBook) : Except CheckpointError CheckpointId :=
  if book.next < maxId then .ok (book.next + 1) else .error .exhausted

def begin (book : CheckpointBook) (target : DeclarationTarget) (state : PetStateId)
    (finished : Bool) (view : ProofState) (goalsNextOffset : Option Nat) :
    Except CheckpointError CheckpointId × CheckpointBook :=
  match book.proof with
  | some _ => (.error .activeProof, book)
  | none =>
    match book.allocate with
    | .error error => (.error error, book)
    | .ok id =>
      let root : Checkpoint :=
        { parent := none, petState := some state, acceptedInput := none, finished, view,
          goalsNextOffset }
      (.ok id,
        { next := id
          proof := some (.root target id root rfl)
          bounded := by
            intro session present old member
            cases present
            simp only [ProofSession.root, List.map_cons, List.map_nil, List.mem_singleton]
              at member
            exact Nat.le_of_eq member })

theorem allocate_ok (book : CheckpointBook) (allocated : book.allocate = .ok id) :
    id = book.next + 1 := by
  unfold allocate at allocated
  split at allocated
  · exact (Except.ok.inj allocated).symm
  · cases allocated

def commit (book : CheckpointBook) (state : PetStateId) (input : String) (finished : Bool)
    (view : ProofState) (goalsNextOffset : Option Nat) :
    Except CheckpointError CheckpointId × CheckpointBook :=
  match allocated : book.allocate with
  | .error error => (.error error, book)
  | .ok id =>
    match active : book.proof with
    | none => (.error .noActiveProof, { next := id, proof := none, bounded := by simp })
    | some session =>
      let node : Checkpoint :=
        { parent := some session.current, petState := some state, acceptedInput := some input,
          finished, view, goalsNextOffset }
      have fresh : ∀ old ∈ session.ids, old < id := fun old member =>
        book.allocate_ok allocated ▸
          Nat.lt_succ_of_le (book.bounded session (by simp [active]) old member)
      (.ok id,
        { next := id
          proof := some (session.extend id node fresh rfl rfl)
          bounded := by
            intro extended present old member
            cases present
            simp only [ProofSession.extend, List.map_append, List.map_cons, List.map_nil,
              List.mem_append, List.mem_singleton] at member
            rcases member with older | same
            · exact Nat.le_of_lt (fresh old older)
            · exact Nat.le_of_eq same })

def current (book : CheckpointBook) : Except CheckpointError (CheckpointId × Checkpoint) :=
  match book.proof with
  | none => .error .noActiveProof
  | some session =>
    match session.get? session.current with
    | none => .error .unknown
    | some node => .ok (session.current, node)

def lookup (book : CheckpointBook) (id : CheckpointId) : Except CheckpointError Checkpoint :=
  match book.proof with
  | none => .error .noActiveProof
  | some session =>
    match session.get? id with
    | none => .error .unknown
    | some node => .ok node

def select (book : CheckpointBook) (id : CheckpointId) :
    Except CheckpointError CheckpointBook :=
  match active : book.proof with
  | none => .error .noActiveProof
  | some session =>
    if known : id ∈ session.ids then
      .ok { next := book.next
            proof := some (session.select id known)
            bounded := by
              intro selected present old member
              cases present
              exact book.bounded session (by simp [active]) old member }
    else .error .unknown

/-- The loop of `steps_back`. -/
def walkBack (session : ProofSession) : Nat → CheckpointId → Except CheckpointError CheckpointId
  | 0, id => .ok id
  | steps + 1, id =>
    match session.get? id with
    | none => .error .unknown
    | some node =>
      match node.parent with
      | none => .error .tooFar
      | some parent => walkBack session steps parent

def stepsBack (book : CheckpointBook) (steps : Nat) : Except CheckpointError CheckpointId :=
  if steps = 0 then .error .tooFar
  else
    match book.proof with
    | none => .error .noActiveProof
    | some session => walkBack session steps session.current

def clear (book : CheckpointBook) : CheckpointBook where
  next := book.next
  proof := none
  bounded := by simp

/-- Change the nodes of the active graph but not its edges. -/
def mapNodes (book : CheckpointBook) (change : CheckpointId → Checkpoint → Checkpoint)
    (edges : ∀ id node, (change id node).edge = node.edge) : CheckpointBook where
  next := book.next
  proof := book.proof.map fun session => session.mapNodes change edges
  bounded := by
    intro mapped present old member
    obtain ⟨session, active, rfl⟩ := Option.map_eq_some_iff.mp present
    apply book.bounded session active old
    simpa [ProofSession.mapNodes, Function.comp_def] using member

/-- Forget the process-local PET handles after a child loss or a workspace
epoch transition. -/
def invalidateStates (book : CheckpointBook) : CheckpointBook :=
  book.mapNodes (fun _ node => { node with petState := none }) fun _ _ => rfl

/-- The root-to-node path, including both endpoints. -/
def path (book : CheckpointBook) (target : CheckpointId) :
    Except CheckpointError (List CheckpointId) :=
  match book.proof with
  | none => .error .noActiveProof
  | some session => do return (← session.ancestors (target + 1) target).reverse

/-- The path of a checkpoint with its nodes. -/
def records (book : CheckpointBook) (target : CheckpointId) :
    Except CheckpointError (List (CheckpointId × Checkpoint)) := do
  (← book.path target).mapM fun id => do return (id, ← book.lookup id)

/-- The accepted inputs of the path of a checkpoint, the root's first. -/
def fragments (book : CheckpointBook) (target : CheckpointId) :
    Except CheckpointError (List String) := do
  return (← book.records target).filterMap fun record => record.2.acceptedInput

end CheckpointBook

end RocqMcp
