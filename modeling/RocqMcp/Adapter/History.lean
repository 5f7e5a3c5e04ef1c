import RocqMcp.Adapter.Replay

/-! Runs of the operations on one connection's book: the ids that they hand
out, and the shape of the graph that they leave. -/

namespace RocqMcp

open Adapter

/-- The updates of a connection's book. -/
inductive BookOp where
  | begin (target : DeclarationTarget) (state : PetStateId) (finished : Bool) (view : ProofState)
      (goalsNextOffset : Option Nat)
  | commit (state : PetStateId) (input : String) (finished : Bool) (view : ProofState)
      (goalsNextOffset : Option Nat)
  | select (id : CheckpointId)
  | clear
  | invalidateStates
  /-- The commit loop of a replay. -/
  | replay (staged : List Staged)

/-- The id that an update hands out, and the book after it. -/
def BookOp.apply : BookOp → CheckpointBook → Option CheckpointId × CheckpointBook
  | .begin target state finished view offset, book =>
    let begun := book.begin target state finished view offset
    (begun.1.toOption, begun.2)
  | .commit state input finished view offset, book =>
    let committed := book.commit state input finished view offset
    (committed.1.toOption, committed.2)
  | .select id, book => (none, (book.select id).toOption.getD book)
  | .clear, book => (none, book.clear)
  | .invalidateStates, book => (none, book.invalidateStates)
  | .replay staged, book => (none, installed staged book)

/-- The ids that a sequence of updates hands out, and the book after it. -/
def BookOp.run : List BookOp → CheckpointBook → List CheckpointId × CheckpointBook
  | [], book => ([], book)
  | op :: rest, book =>
    let (id, next) := op.apply book
    let (ids, final) := run rest next
    (id.toList ++ ids, final)

namespace ProofSession

/-- The parent links from the root to a checkpoint. -/
inductive Chain (proof : ProofSession) : CheckpointId → List CheckpointId → Prop where
  | root {id : CheckpointId} {node : Checkpoint} (found : proof.get? id = some node)
      (parent : node.parent = none) : Chain proof id [id]
  | child {id parent : CheckpointId} {node : Checkpoint} {path : List CheckpointId}
      (found : proof.get? id = some node) (link : node.parent = some parent)
      (rest : Chain proof parent path) : Chain proof id (path ++ [id])

/-- One root without an input, and older parents with an input for all others. -/
structure Tree (proof : ProofSession) : Prop where
  root : ∃ root ∈ proof.checkpoints, root.2.parent = none ∧ root.2.acceptedInput = none ∧
    ∀ entry ∈ proof.checkpoints, entry.2.parent = none → entry = root
  child : ∀ entry ∈ proof.checkpoints, ∀ parent ∈ entry.2.parent,
    entry.2.acceptedInput.isSome ∧ parent < entry.1 ∧ parent ∈ proof.ids
  selected : proof.current ∈ proof.ids

end ProofSession

variable {id target floor : CheckpointId} {book next : CheckpointBook} {proof : ProofSession}

namespace ProofSession

theorem Chain.known {path : List CheckpointId} (chain : proof.Chain id path) : id ∈ proof.ids := by
  cases chain with
  | root found _ => exact CheckpointBook.get?_known found
  | child found _ _ => exact CheckpointBook.get?_known found

/-- The loop of `path` stops at the root: more fuel changes nothing. -/
theorem ancestors_enough (proof : ProofSession) {fuel : Nat} (enough : id < fuel) :
    proof.ancestors fuel id = proof.ancestors (id + 1) id := by
  induction id using Nat.strongRecOn generalizing fuel with
  | ind id ih =>
    obtain ⟨more, rfl⟩ := Nat.exists_eq_succ_of_ne_zero (Nat.ne_zero_of_lt enough)
    simp only [ancestors]
    split
    · rfl
    · rename_i node found
      split
      · rfl
      · rename_i parent isParent
        have older := (proof.rooted _ (proof.mem_of_get? found) parent (by simp [isParent])).1
        rw [ih parent older (Nat.lt_of_lt_of_le older (Nat.le_of_lt_succ enough)),
          ih parent older older]

theorem chain_of_ancestors (proof : ProofSession) {fuel : Nat} {path : List CheckpointId}
    (walked : proof.ancestors fuel id = .ok path) : proof.Chain id path.reverse := by
  induction fuel generalizing id path with
  | zero => cases walked
  | succ fuel ih =>
    simp only [ancestors] at walked
    split at walked
    · cases walked
    · rename_i node found
      split at walked
      · rename_i isRoot
        obtain rfl := Except.ok.inj walked
        exact .root found isRoot
      · rename_i parent isParent
        cases earlier : proof.ancestors fuel parent with
        | error error =>
          rw [earlier] at walked
          cases walked
        | ok rest =>
          rw [earlier] at walked
          obtain rfl := Except.ok.inj walked
          rw [List.reverse_cons]
          exact .child found isParent (ih earlier)

/-- Parent links are functional, so that a chain is unique. -/
theorem Chain.unique {first second : List CheckpointId} (chain : proof.Chain id first)
    (other : proof.Chain id second) : first = second := by
  induction chain generalizing second with
  | root found isRoot =>
    cases other with
    | root => rfl
    | child found' link _ =>
      obtain rfl := Option.some.inj (found.symm.trans found')
      rw [isRoot] at link
      cases link
  | child found link _ ih =>
    cases other with
    | root found' isRoot =>
      obtain rfl := Option.some.inj (found.symm.trans found')
      rw [isRoot] at link
      cases link
    | child found' link' rest' =>
      obtain rfl := Option.some.inj (found.symm.trans found')
      obtain rfl := Option.some.inj (link.symm.trans link')
      rw [ih rest']

end ProofSession

namespace CheckpointBook

theorem path_active (active : book.proof = some proof) (known : target ∈ proof.ids) :
    ∃ path, book.path target = .ok path := by
  obtain ⟨path, walked, _, _⟩ := proof.ancestors_ok known (Nat.lt_succ_self target)
  exact ⟨path.reverse, by simp only [CheckpointBook.path, active, walked]; rfl⟩

/-- A path is the chain of parent links from the root. -/
theorem path_iff_chain (book : CheckpointBook) {path : List CheckpointId} :
    book.path target = .ok path ↔ ∃ proof ∈ book.proof, proof.Chain target path := by
  constructor
  · intro read
    rw [CheckpointBook.path] at read
    cases active : book.proof with
    | none =>
      rw [active] at read
      cases read
    | some proof =>
      rw [active] at read
      cases walked : proof.ancestors (target + 1) target with
      | error error =>
        simp only [walked] at read
        cases read
      | ok steps =>
        simp only [walked] at read
        obtain rfl := Except.ok.inj read
        exact ⟨proof, rfl, proof.chain_of_ancestors walked⟩
  · rintro ⟨proof, active, chain⟩
    obtain ⟨found, read⟩ := path_active active chain.known
    rw [read]
    rw [CheckpointBook.path, active] at read
    cases walked : proof.ancestors (target + 1) target with
    | error error =>
      simp only [walked] at read
      cases read
    | ok steps =>
      simp only [walked] at read
      obtain rfl := Except.ok.inj read
      rw [(proof.chain_of_ancestors walked).unique chain]

theorem path_ok_iff (book : CheckpointBook) :
    (∃ path, book.path target = .ok path) ↔ ∃ proof ∈ book.proof, target ∈ proof.ids := by
  constructor
  · rintro ⟨path, read⟩
    obtain ⟨proof, active, chain⟩ := book.path_iff_chain.mp read
    exact ⟨proof, active, chain.known⟩
  · rintro ⟨proof, active, known⟩
    exact path_active active known

theorem path_increasing (book : CheckpointBook) {path : List CheckpointId}
    (read : book.path target = .ok path) : path.Pairwise (· < ·) := by
  rw [CheckpointBook.path] at read
  cases active : book.proof with
  | none =>
    rw [active] at read
    cases read
  | some proof =>
    rw [active] at read
    cases walked : proof.ancestors (target + 1) target with
    | error error =>
      simp only [walked] at read
      cases read
    | ok steps =>
      simp only [walked] at read
      obtain rfl := Except.ok.inj read
      exact List.pairwise_reverse.mpr (proof.ancestors_walk walked).descends

/-- The id names no checkpoint of the book. -/
structure Rejects (book : CheckpointBook) (id : CheckpointId) : Prop where
  lookup : ∀ node, book.lookup id ≠ .ok node
  select : ∀ next, book.select id ≠ .ok next
  path : ∀ path, book.path id ≠ .ok path

theorem rejects_of_unknown (unknown : ∀ proof ∈ book.proof, id ∉ proof.ids) : book.Rejects id where
  lookup node found := by
    cases active : book.proof with
    | none =>
      rw [lookup, active] at found
      cases found
    | some proof =>
      exact unknown proof active (CheckpointBook.get?_known (proof.of_lookup active found))
  select next selected := by
    unfold CheckpointBook.select at selected
    split at selected
    · cases selected
    · split at selected
      · exact unknown _ ‹_› ‹_›
      · cases selected
  path path read := by
    obtain ⟨proof, active, known⟩ := book.path_ok_iff.mp ⟨path, read⟩
    exact unknown proof active known

/-- The graph of an active proof is a tree, and its ids are above a bound that
no id handed out earlier exceeds. -/
structure Grown (floor : CheckpointId) (book : CheckpointBook) : Prop where
  tree : ∀ proof ∈ book.proof, proof.Tree
  fresh : ∀ proof ∈ book.proof, ∀ id ∈ proof.ids, floor < id
  counted : floor ≤ book.next

end CheckpointBook

namespace ProofSession

theorem tree_of_root (proof : ProofSession)
    (root : ∃ root ∈ proof.checkpoints, root.2.parent = none ∧ root.2.acceptedInput = none ∧
      ∀ entry ∈ proof.checkpoints, entry.2.parent = none → entry = root) : proof.Tree where
  root := root
  child entry member parent isParent :=
    ⟨proof.replayable entry member (by rw [Option.mem_def.mp isParent]; rfl),
      proof.rooted entry member parent isParent⟩
  selected := proof.selected

theorem Tree.mapNodes (tree : proof.Tree) (change : CheckpointId → Checkpoint → Checkpoint)
    (edges : ∀ id node, (change id node).edge = node.edge) : (proof.mapNodes change edges).Tree := by
  refine tree_of_root _ ?_
  obtain ⟨root, member, parent, input, only⟩ := tree.root
  obtain ⟨sameParent, sameInput⟩ := Prod.mk.inj (edges root.1 root.2)
  refine ⟨_, List.mem_map_of_mem member, sameParent.trans parent, sameInput.trans input, ?_⟩
  intro entry mapped isRoot
  obtain ⟨old, present, rfl⟩ := List.mem_map.mp mapped
  rw [only old present ((Prod.mk.inj (edges old.1 old.2)).1.symm.trans isRoot)]

theorem Tree.extend (tree : proof.Tree) {node : Checkpoint}
    (fresh : ∀ old ∈ proof.ids, old < id) (parent : node.parent = some proof.current)
    (input : node.acceptedInput.isSome) : (proof.extend id node fresh parent input).Tree := by
  refine tree_of_root _ ?_
  obtain ⟨root, member, isRoot, blank, only⟩ := tree.root
  refine ⟨root, List.mem_append_left _ member, isRoot, blank, ?_⟩
  intro entry added alone
  rcases List.mem_append.mp added with old | new
  · exact only entry old alone
  · rw [List.mem_singleton.mp new, parent] at alone
    cases alone

end ProofSession

namespace CheckpointBook.Grown

theorem allocated (grown : Grown floor book) (allocated : book.allocate = .ok id) : floor < id := by
  rw [book.allocate_ok allocated]
  exact Nat.lt_succ_of_le grown.counted

theorem mapNodes (grown : Grown floor book) (change : CheckpointId → Checkpoint → Checkpoint)
    (edges : ∀ id node, (change id node).edge = node.edge) :
    Grown floor (book.mapNodes change edges) where
  tree proof active := by
    obtain ⟨old, present, rfl⟩ := Option.map_eq_some_iff.mp active
    exact (grown.tree old present).mapNodes change edges
  fresh proof active id known := by
    obtain ⟨old, present, rfl⟩ := Option.map_eq_some_iff.mp active
    apply grown.fresh old present
    simpa [ProofSession.ids, ProofSession.mapNodes, Function.comp_def] using known
  counted := grown.counted

theorem begin (grown : Grown floor book) (target : DeclarationTarget) (state : PetStateId)
    (finished : Bool) (view : ProofState) (offset : Option Nat) :
    Grown floor (book.begin target state finished view offset).2 := by
  unfold CheckpointBook.begin
  split
  · exact grown
  · split
    · exact grown
    · rename_i id allocated
      have counted := grown.allocated allocated
      refine ⟨?_, ?_, Nat.le_of_lt counted⟩
      · rintro _ ⟨⟩
        exact ProofSession.tree_of_root _ ⟨_, List.mem_singleton_self _, rfl, rfl,
          fun entry member _ => List.mem_singleton.mp member⟩
      · rintro _ ⟨⟩ old known
        rw [List.mem_singleton.mp known]
        exact counted

theorem commit (grown : Grown floor book) (state : PetStateId) (input : String) (finished : Bool)
    (view : ProofState) (offset : Option Nat) :
    Grown floor (book.commit state input finished view offset).2 := by
  unfold CheckpointBook.commit
  split
  · exact grown
  · rename_i id allocated
    have counted := grown.allocated allocated
    split
    · exact ⟨nofun, nofun, Nat.le_of_lt counted⟩
    · rename_i proof active
      refine ⟨?_, ?_, Nat.le_of_lt counted⟩
      · rintro _ ⟨⟩
        exact (grown.tree proof active).extend _ _ _
      · rintro _ ⟨⟩ old known
        simp only [ProofSession.ids, ProofSession.extend, List.map_append, List.mem_append] at known
        rcases known with older | new
        · exact grown.fresh proof active old older
        · rw [List.mem_singleton.mp new]
          exact counted

theorem select (grown : Grown floor book) (selected : book.select id = .ok next) :
    Grown floor next := by
  unfold CheckpointBook.select at selected
  split at selected
  · cases selected
  · rename_i proof active
    split at selected
    · obtain rfl := Except.ok.inj selected
      refine ⟨?_, ?_, grown.counted⟩
      · rintro _ ⟨⟩
        exact ProofSession.tree_of_root _ (grown.tree proof active).root
      · rintro _ ⟨⟩ old known
        exact grown.fresh proof active old known
    · cases selected

theorem apply (grown : Grown floor book) (op : BookOp) : Grown floor (op.apply book).2 := by
  cases op with
  | begin target state finished view offset => exact grown.begin target state finished view offset
  | commit state input finished view offset => exact grown.commit state input finished view offset
  | select id =>
    simp only [BookOp.apply]
    cases selected : book.select id with
    | error error => exact grown
    | ok next => exact grown.select selected
  | clear => exact ⟨nofun, nofun, grown.counted⟩
  | invalidateStates => exact grown.mapNodes _ _
  | replay staged => exact grown.mapNodes _ _

theorem run (grown : Grown floor book) (ops : List BookOp) : Grown floor (BookOp.run ops book).2 := by
  induction ops generalizing book with
  | nil => exact grown
  | cons op rest ih => exact ih (grown.apply op)

theorem empty : Grown 0 CheckpointBook.empty := ⟨nofun, nofun, Nat.le_refl _⟩

end CheckpointBook.Grown

namespace BookOp

/-- An update that hands out an id hands out the next one. -/
theorem apply_issued (op : BookOp) (book : CheckpointBook) :
    book.next ≤ (op.apply book).2.next ∧
      ∀ id ∈ (op.apply book).1, book.next < id ∧ id = (op.apply book).2.next := by
  have below : ∀ {id}, book.allocate = .ok id → book.next < id := fun allocated =>
    book.allocate_ok allocated ▸ Nat.lt_succ_self _
  have nobody {low high : Nat} : ∀ id ∈ (none : Option CheckpointId), low < id ∧ id = high := by
    simp
  cases op with
  | begin target state finished view offset =>
    simp only [apply, CheckpointBook.begin]
    split
    · exact ⟨Nat.le_refl _, nobody⟩
    · split
      · exact ⟨Nat.le_refl _, nobody⟩
      · rename_i id allocated
        refine ⟨Nat.le_of_lt (below allocated), ?_⟩
        rintro _ ⟨⟩
        exact ⟨below allocated, rfl⟩
  | commit state input finished view offset =>
    simp only [apply, CheckpointBook.commit]
    split
    · exact ⟨Nat.le_refl _, nobody⟩
    · rename_i id allocated
      split
      · exact ⟨Nat.le_of_lt (below allocated), nobody⟩
      · refine ⟨Nat.le_of_lt (below allocated), ?_⟩
        rintro _ ⟨⟩
        exact ⟨below allocated, rfl⟩
  | select id =>
    refine ⟨?_, nobody⟩
    simp only [apply]
    cases selected : book.select id with
    | error error => exact Nat.le_refl _
    | ok next =>
      unfold CheckpointBook.select at selected
      split at selected
      · cases selected
      · split at selected
        · rw [← Except.ok.inj selected]
          exact Nat.le_refl _
        · cases selected
  | clear => exact ⟨Nat.le_refl _, nobody⟩
  | invalidateStates => exact ⟨Nat.le_refl _, nobody⟩
  | replay staged => exact ⟨Nat.le_refl _, nobody⟩

/-- The ids of a run lie between the two counters, in increasing order. -/
theorem run_issued (ops : List BookOp) (book : CheckpointBook) :
    book.next ≤ (run ops book).2.next ∧ (run ops book).1.Pairwise (· < ·) ∧
      ∀ id ∈ (run ops book).1, book.next < id ∧ id ≤ (run ops book).2.next := by
  induction ops generalizing book with
  | nil => exact ⟨Nat.le_refl _, .nil, nofun⟩
  | cons op rest ih =>
    obtain ⟨counted, issued⟩ := op.apply_issued book
    obtain ⟨counted', sorted, later⟩ := ih (op.apply book).2
    refine ⟨Nat.le_trans counted counted', ?_, ?_⟩
    · refine List.pairwise_append.mpr ⟨?_, sorted, ?_⟩
      · cases (op.apply book).1 <;> simp
      · intro id now other member
        rw [(issued id (Option.mem_toList.mp now)).2]
        exact (later other member).1
    · intro id member
      rcases List.mem_append.mp member with now | member
      · obtain ⟨above, same⟩ := issued id (Option.mem_toList.mp now)
        exact ⟨above, same ▸ counted'⟩
      · exact ⟨Nat.lt_of_le_of_lt counted (later id member).1, (later id member).2⟩

theorem run_append (earlier later : List BookOp) (book : CheckpointBook) :
    run (earlier ++ later) book =
      ((run earlier book).1 ++ (run later (run earlier book).2).1,
        (run later (run earlier book).2).2) := by
  induction earlier generalizing book with
  | nil => rfl
  | cons op rest ih =>
    simp only [List.cons_append, run, ih, List.append_assoc]

/-- What holds of a book after any sequence of updates. -/
structure Lawful (ops : List BookOp) : Prop where
  increasing : (run ops .empty).1.Pairwise (· < ·)
  tree : ∀ proof ∈ (run ops .empty).2.proof, proof.Tree
  terminates : ∀ proof ∈ (run ops .empty).2.proof, ∀ target fuel, target < fuel →
    proof.ancestors fuel target = proof.ancestors (target + 1) target
  path_ok : ∀ target, (∃ path, (run ops .empty).2.path target = .ok path) ↔
    ∃ proof ∈ (run ops .empty).2.proof, target ∈ proof.ids
  path_chain : ∀ target path, (run ops .empty).2.path target = .ok path →
    path.Pairwise (· < ·) ∧ ∃ proof ∈ (run ops .empty).2.proof,
      proof.Chain target path ∧ ∀ other, proof.Chain target other → other = path
  retired : ∀ earlier later, ops = earlier ++ .clear :: later →
    ∀ id ∈ (run earlier .empty).1, (run ops .empty).2.Rejects id

/-- The checkpoint graph invariant, for any sequence of updates of a book. -/
theorem run_lawful (ops : List BookOp) : Lawful ops where
  increasing := (run_issued ops .empty).2.1
  tree := (CheckpointBook.Grown.empty.run ops).tree
  terminates proof _ _ _ enough := proof.ancestors_enough enough
  path_ok _ := CheckpointBook.path_ok_iff _
  path_chain target path read := by
    obtain ⟨proof, active, chain⟩ := (CheckpointBook.path_iff_chain _).mp read
    exact ⟨CheckpointBook.path_increasing _ read, proof, active, chain,
      fun _ other => other.unique chain⟩
  retired := by
    rintro earlier later rfl id member
    have issued := (run_issued earlier .empty).2.2 id member
    have cleared : CheckpointBook.Grown (run earlier .empty).2.next (run earlier .empty).2.clear :=
      ⟨nofun, nofun, Nat.le_refl _⟩
    rw [run_append]
    refine CheckpointBook.rejects_of_unknown fun proof active known => ?_
    exact Nat.lt_irrefl _ (Nat.lt_of_lt_of_le ((cleared.run later).fresh proof active id known)
      issued.2)

end BookOp

end RocqMcp
