import Mathlib.Data.List.Chain
import RocqMcp.Checkpoint

/-! What an update of a book keeps of the checkpoints that it had: their edges
never change, and they stay until their proof is retired. The path to a
checkpoint follows these edges from the root. -/

namespace RocqMcp

variable {id target : CheckpointId} {fuel : Nat} {book next : CheckpointBook} {proof proof' : ProofSession}

/-- The same place in the graph: what may differ is the PET state and the view. -/
def Checkpoint.Alike (before after : Checkpoint) : Prop :=
  after.edge = before.edge ∧ after.finished = before.finished

/-- All checkpoints of a proof are still there. -/
def ProofSession.Survives (before after : ProofSession) : Prop :=
  ∀ id node, before.get? id = some node → ∃ later, after.get? id = some later ∧ node.Alike later

/-- Old ids name old checkpoints only, and as long as one of them is left, all
of them are. -/
structure CheckpointBook.Grows (before after : CheckpointBook) : Prop where
  counted : before.next ≤ after.next
  old : ∀ proof' ∈ after.proof, ∀ id ≤ before.next, ∀ node', proof'.get? id = some node' →
    ∃ proof ∈ before.proof, proof.target = proof'.target ∧
      ∃ node, proof.get? id = some node ∧ node.Alike node'
  kept : ∀ proof' ∈ after.proof, ∀ id ∈ proof'.ids, id ≤ before.next →
    ∀ proof ∈ before.proof, proof.Survives proof'

theorem Checkpoint.Alike.refl (node : Checkpoint) : node.Alike node := ⟨rfl, rfl⟩

theorem Checkpoint.Alike.trans {first second third : Checkpoint} (early : first.Alike second)
    (late : second.Alike third) : first.Alike third :=
  ⟨late.1.trans early.1, late.2.trans early.2⟩

namespace ProofSession

theorem get?_of_mem (proof : ProofSession) {node : Checkpoint} (member : (id, node) ∈ proof.checkpoints) :
    proof.get? id = some node := by
  obtain ⟨early, late, split⟩ := List.append_of_mem member
  have distinct := proof.distinct
  rw [split, List.map_append, List.nodup_append] at distinct
  have skipped : early.find? (fun entry => entry.1 = id) = none := by
    rw [List.find?_eq_none]
    intro entry earlier
    simpa using distinct.2.2 entry.1 (List.mem_map_of_mem earlier) id (by simp)
  simp [get?, split, List.find?_append, skipped]

theorem get?_mapNodes (proof : ProofSession) (change : CheckpointId → Checkpoint → Checkpoint)
    (edges : ∀ id node, (change id node).edge = node.edge) :
    (proof.mapNodes change edges).get? id = (proof.get? id).map (change id) := by
  cases found : proof.get? id with
  | none =>
    cases later : (proof.mapNodes change edges).get? id with
    | none => rfl
    | some node =>
      obtain ⟨old, present, same⟩ := List.mem_map.mp ((proof.mapNodes change edges).mem_of_get? later)
      obtain ⟨rfl, -⟩ := Prod.mk.inj same
      rw [proof.get?_of_mem present] at found
      cases found
  | some node =>
    exact (proof.mapNodes change edges).get?_of_mem
      (List.mem_map.mpr ⟨(id, node), proof.mem_of_get? found, rfl⟩)

theorem survives_mapNodes (proof : ProofSession) (change : CheckpointId → Checkpoint → Checkpoint)
    (edges : ∀ id node, (change id node).edge = node.edge)
    (finished : ∀ id node, (change id node).finished = node.finished) :
    proof.Survives (proof.mapNodes change edges) := by
  intro id node found
  exact ⟨change id node, by rw [get?_mapNodes, found]; rfl, edges id node, finished id node⟩

theorem survives_extend (proof : ProofSession) {node : Checkpoint}
    (fresh : ∀ old ∈ proof.ids, old < id) (parent : node.parent = some proof.current)
    (input : node.acceptedInput.isSome) :
    proof.Survives (proof.extend id node fresh parent input) := by
  intro old earlier found
  exact ⟨earlier, (proof.extend id node fresh parent input).get?_of_mem
    (List.mem_append_left _ (proof.mem_of_get? found)), .refl earlier⟩

theorem Survives.trans {first second third : ProofSession} (early : first.Survives second)
    (late : second.Survives third) : first.Survives third := by
  intro id node found
  obtain ⟨middle, present, alike⟩ := early id node found
  obtain ⟨last, present', alike'⟩ := late id middle present
  exact ⟨last, present', alike.trans alike'⟩

end ProofSession

namespace CheckpointBook

theorem get?_known {node : Checkpoint} (found : proof.get? id = some node) : id ∈ proof.ids :=
  List.mem_map.mpr ⟨_, proof.mem_of_get? found, rfl⟩

namespace Grows

theorem refl (book : CheckpointBook) : book.Grows book where
  counted := Nat.le_refl _
  old proof active id _ node found := ⟨proof, active, rfl, node, found, .refl node⟩
  kept proof active _ _ _ proof' active' := by
    obtain rfl := Option.some.inj (active.symm.trans active')
    exact fun id node found => ⟨node, found, .refl node⟩

theorem trans {first second third : CheckpointBook} (early : first.Grows second)
    (late : second.Grows third) : first.Grows third where
  counted := Nat.le_trans early.counted late.counted
  old proof' active id bound node' found := by
    obtain ⟨middle, active', same, node, found', alike⟩ :=
      late.old proof' active id (Nat.le_trans bound early.counted) node' found
    obtain ⟨proof, active'', same', first, found'', alike'⟩ :=
      early.old middle active' id bound node found'
    exact ⟨proof, active'', same'.trans same, first, found'', alike'.trans alike⟩
  kept proof' active id known bound proof active'' := by
    obtain ⟨node', found⟩ := Option.isSome_iff_exists.mp (proof'.get?_isSome known)
    have later := Nat.le_trans bound early.counted
    obtain ⟨middle, active', -, node, found', -⟩ := late.old proof' active id later node' found
    exact (early.kept middle active' id (get?_known found') bound proof active'').trans
      (late.kept proof' active id known later middle active')

/-- A book without a proof, or with a proof of newer ids. -/
theorem of_new (counted : book.next ≤ next.next)
    (newer : ∀ proof' ∈ next.proof, ∀ id ∈ proof'.ids, book.next < id) : book.Grows next where
  counted := counted
  old proof' active id bound _ found :=
    absurd (newer proof' active id (get?_known found)) (Nat.not_lt_of_le bound)
  kept proof' active id known bound :=
    absurd (newer proof' active id known) (Nat.not_lt_of_le bound)

theorem clear (book : CheckpointBook) : book.Grows book.clear :=
  of_new (Nat.le_refl _) nofun

theorem mapNodes (book : CheckpointBook) (change : CheckpointId → Checkpoint → Checkpoint)
    (edges : ∀ id node, (change id node).edge = node.edge)
    (finished : ∀ id node, (change id node).finished = node.finished) :
    book.Grows (book.mapNodes change edges) where
  counted := Nat.le_refl _
  old proof' active id _ node' found := by
    obtain ⟨proof, present, rfl⟩ := Option.map_eq_some_iff.mp active
    rw [proof.get?_mapNodes] at found
    obtain ⟨node, found', rfl⟩ := Option.map_eq_some_iff.mp found
    exact ⟨proof, present, rfl, node, found', edges id node, finished id node⟩
  kept proof' active _ _ _ proof present := by
    obtain ⟨old, present', rfl⟩ := Option.map_eq_some_iff.mp active
    obtain rfl := Option.some.inj (present.symm.trans present')
    exact proof.survives_mapNodes change edges finished

theorem begin (book : CheckpointBook) (target : DeclarationTarget) (state : PetStateId)
    (finished : Bool) (view : ProofState) (offset : Option Nat) :
    book.Grows (book.begin target state finished view offset).2 := by
  unfold CheckpointBook.begin
  split
  · exact refl book
  · split
    · exact refl book
    · rename_i id allocated
      have above : book.next < id := book.allocate_ok allocated ▸ Nat.lt_succ_self _
      refine of_new (Nat.le_of_lt above) ?_
      rintro _ ⟨⟩ old known
      rw [List.mem_singleton.mp known]
      exact above

theorem commit (book : CheckpointBook) (state : PetStateId) (input : String) (finished : Bool)
    (view : ProofState) (offset : Option Nat) :
    book.Grows (book.commit state input finished view offset).2 := by
  unfold CheckpointBook.commit
  split
  · exact refl book
  · rename_i id allocated
    have above : book.next < id := book.allocate_ok allocated ▸ Nat.lt_succ_self _
    split
    · exact of_new (Nat.le_of_lt above) nofun
    · rename_i proof active
      refine ⟨Nat.le_of_lt above, ?_, ?_⟩
      · rintro _ ⟨⟩ old bound node found
        refine ⟨proof, active, rfl, node, ?_, .refl node⟩
        rcases List.mem_append.mp (ProofSession.mem_of_get? _ found) with present | added
        · exact proof.get?_of_mem present
        · obtain ⟨rfl, -⟩ := Prod.mk.inj (List.mem_singleton.mp added)
          exact absurd above (Nat.not_lt_of_le bound)
      · rintro _ ⟨⟩ _ _ _ other active'
        obtain rfl := Option.some.inj (active.symm.trans active')
        exact proof.survives_extend _ _ _

theorem select (selected : book.select id = .ok next) : book.Grows next := by
  unfold CheckpointBook.select at selected
  split at selected
  · cases selected
  · rename_i proof active
    split at selected
    · obtain rfl := Except.ok.inj selected
      refine ⟨Nat.le_refl _, ?_, ?_⟩
      · rintro _ ⟨⟩ old _ node found
        exact ⟨proof, active, rfl, node, found, .refl node⟩
      · rintro _ ⟨⟩ _ _ _ other active'
        obtain rfl := Option.some.inj (active.symm.trans active')
        exact fun id node found => ⟨node, found, .refl node⟩
    · cases selected

theorem invalidateStates (book : CheckpointBook) : book.Grows book.invalidateStates :=
  mapNodes book _ _ fun _ _ => rfl

end Grows

end CheckpointBook

namespace ProofSession

/-- The second checkpoint is the parent of the first. -/
def Link (proof : ProofSession) (child parent : CheckpointId) : Prop :=
  ∃ node, proof.get? child = some node ∧ node.parent = some parent

theorem Link.older {child parent : CheckpointId} (link : proof.Link child parent) :
    parent < child := by
  obtain ⟨node, found, isParent⟩ := link
  exact (proof.rooted _ (proof.mem_of_get? found) parent isParent).1

/-- The nearest ancestor first, a walk follows the parents up to a root. -/
structure Walk (proof : ProofSession) (id : CheckpointId) (path : List CheckpointId) : Prop where
  head : path.head? = some id
  linked : path.IsChain proof.Link
  root : ∀ last ∈ path.getLast?, ∃ node, proof.get? last = some node ∧ node.parent = none

theorem ancestors_walk (proof : ProofSession) {path : List CheckpointId}
    (walked : proof.ancestors fuel id = .ok path) : proof.Walk id path := by
  induction fuel generalizing id path with
  | zero => cases walked
  | succ fuel ih =>
    simp only [ancestors] at walked
    split at walked
    · cases walked
    · rename_i node found
      split at walked
      · rename_i isRoot
        obtain rfl := Except.ok.inj walked
        exact ⟨rfl, .singleton _, by simpa using ⟨node, found, isRoot⟩⟩
      · rename_i parent isParent
        cases earlier : proof.ancestors fuel parent with
        | error error =>
          rw [earlier] at walked
          cases walked
        | ok rest =>
          rw [earlier] at walked
          obtain rfl := Except.ok.inj walked
          have walk := ih earlier
          refine ⟨rfl, List.isChain_cons.mpr ⟨?_, walk.linked⟩, ?_⟩
          · intro next first
            obtain rfl := Option.some.inj (walk.head.symm.trans first)
            exact ⟨node, found, isParent⟩
          · cases rest with
            | nil => cases walk.head
            | cons next rest => simpa [List.getLast?_cons_cons] using walk.root

theorem Walk.descends {path : List CheckpointId} (walk : proof.Walk id path) :
    path.Pairwise (· > ·) :=
  (walk.linked.imp fun _ _ link => link.older).pairwise

theorem of_lookup (proof : ProofSession) {node : Checkpoint} (active : book.proof = some proof)
    (found : book.lookup id = .ok node) : proof.get? id = some node := by
  rw [CheckpointBook.lookup, active] at found
  dsimp only at found
  split at found
  · cases found
  · rename_i present
    rw [present, Except.ok.inj found]

theorem lookup_of_get? {node : Checkpoint} (active : book.proof = some proof)
    (found : proof.get? id = some node) : book.lookup id = .ok node := by
  simp only [CheckpointBook.lookup, active, found]

end ProofSession

namespace CheckpointBook

/-- The nodes that are looked up one after the other. -/
theorem mapM_lookup (book : CheckpointBook) {path : List CheckpointId}
    {records : List (CheckpointId × Checkpoint)}
    (read : (path.mapM fun id => do return (id, ← book.lookup id)) = Except.ok records) :
    records.map Prod.fst = path ∧ ∀ record ∈ records, book.lookup record.1 = .ok record.2 := by
  induction path generalizing records with
  | nil =>
    obtain rfl := Except.ok.inj read
    simp
  | cons head rest ih =>
    rw [List.mapM_cons] at read
    cases found : book.lookup head with
    | error error =>
      rw [found] at read
      cases read
    | ok node =>
      rw [found] at read
      cases later : rest.mapM fun id => do return (id, ← book.lookup id) with
      | error error =>
        simp only [later] at read
        cases read
      | ok others =>
        simp only [later] at read
        obtain rfl := Except.ok.inj read
        obtain ⟨same, known⟩ := ih later
        refine ⟨by simp [same], ?_⟩
        intro record member
        rcases List.mem_cons.mp member with rfl | member
        · exact found
        · exact known record member

/-- The records of the path to a checkpoint: from the root, along the edges. -/
structure PathTo (book : CheckpointBook) (target : CheckpointId)
    (records : List (CheckpointId × Checkpoint)) : Prop where
  fresh : (records.map Prod.fst).Nodup
  known : ∀ record ∈ records, book.lookup record.1 = .ok record.2
  linked : records.IsChain fun parent child => child.2.parent = some parent.1
  root : ∀ root ∈ records.head?, root.2.parent = none
  last : records.getLast?.map Prod.fst = some target

theorem records_path (book : CheckpointBook) {records : List (CheckpointId × Checkpoint)}
    (read : book.records target = .ok records) : book.PathTo target records := by
  rw [CheckpointBook.records, CheckpointBook.path] at read
  cases active : book.proof with
  | none =>
    rw [active] at read
    cases read
  | some proof =>
    rw [active] at read
    cases walked : proof.ancestors (target + 1) target with
    | error error =>
      simp only [walked] at read
      cases read
    | ok path =>
      simp only [walked] at read
      obtain ⟨same, known⟩ := book.mapM_lookup read
      have walk := proof.ancestors_walk walked
      have found : ∀ record ∈ records, proof.get? record.1 = some record.2 := fun record member =>
        proof.of_lookup active (known record member)
      refine ⟨?_, known, ?_, ?_, ?_⟩
      · rw [same]
        exact List.pairwise_reverse.mpr (walk.descends.imp Nat.ne_of_lt)
      · have linked := List.isChain_reverse.mpr walk.linked
        rw [← same] at linked
        refine ((List.isChain_map _).mp linked).imp_of_mem_imp ?_
        rintro parent child _ member ⟨node, present, isParent⟩
        obtain rfl := Option.some.inj ((found child member).symm.trans present)
        exact isParent
      · intro root first
        have member := List.mem_of_mem_head? first
        have top : root.1 ∈ path.getLast? := by
          rw [← List.head?_reverse, ← same, List.head?_map, Option.mem_def.mp first]
          rfl
        obtain ⟨node, present, isRoot⟩ := walk.root _ top
        obtain rfl := Option.some.inj ((found root member).symm.trans present)
        exact isRoot
      · rw [← List.getLast?_map, same, List.getLast?_reverse]
        exact walk.head

/-- All records but the first have an input that replays them. -/
theorem PathTo.replayable {records : List (CheckpointId × Checkpoint)}
    (path : book.PathTo target records) :
    ∀ record ∈ records.tail, record.2.acceptedInput.isSome := by
  intro record member
  have child : record.2.parent.isSome := by
    cases records with
    | nil => cases member
    | cons root rest =>
      have linked := path.linked
      obtain ⟨early, late, rfl⟩ := List.append_of_mem member
      cases early.eq_nil_or_concat with
      | inl blank =>
        subst blank
        rw [(List.isChain_cons_cons.mp linked).1]
        rfl
      | inr split =>
        obtain ⟨front, before, rfl⟩ := split
        have last : (before :: record :: late).IsChain fun parent child =>
            child.2.parent = some parent.1 := by
          refine linked.suffix ⟨root :: front, by simp⟩
        rw [(List.isChain_cons_cons.mp last).1]
        rfl
  cases active : book.proof with
  | none =>
    have found := path.known record (List.mem_of_mem_tail member)
    rw [CheckpointBook.lookup, active] at found
    cases found
  | some proof =>
    have found := proof.of_lookup active (path.known record (List.mem_of_mem_tail member))
    exact proof.replayable _ (proof.mem_of_get? found) child

/-- The checkpoint has the given PET state. -/
def StateAt (book : CheckpointBook) (id : CheckpointId) (state : PetStateId) : Prop :=
  ∃ node, book.lookup id = .ok node ∧ node.petState = some state

theorem StateAt.mem_states {state : PetStateId} (at' : book.StateAt id state) :
    state ∈ book.states := by
  obtain ⟨node, found, held⟩ := at'
  cases active : book.proof with
  | none =>
    rw [CheckpointBook.lookup, active] at found
    cases found
  | some proof =>
    simp only [states, active]
    exact List.mem_filterMap.mpr ⟨_, proof.mem_of_get? (proof.of_lookup active found), held⟩

/-- A proof that is begun consists of its root. -/
theorem begin_ok {target : DeclarationTarget} {state : PetStateId} {finished : Bool}
    {view : ProofState} {offset : Option Nat}
    (begun : book.begin target state finished view offset = (.ok id, next)) :
    book.proof = none ∧ next.proof = some (.root target id
      { parent := none, petState := some state, acceptedInput := none, finished, view,
        goalsNextOffset := offset } rfl) := by
  unfold CheckpointBook.begin at begun
  split at begun
  · cases begun
  · rename_i active
    split at begun
    · cases begun
    · obtain ⟨same, rfl⟩ := Prod.mk.inj begun
      obtain rfl := Except.ok.inj same
      exact ⟨active, rfl⟩

/-- The node that `commit` appends to the selected checkpoint. -/
def committed (proof : ProofSession) (state : PetStateId) (input : String) (finished : Bool)
    (view : ProofState) (offset : Option Nat) : Checkpoint :=
  { parent := some proof.current, petState := some state, acceptedInput := some input, finished,
    view, goalsNextOffset := offset }

theorem commit_ok {state : PetStateId} {input : String} {finished : Bool} {view : ProofState}
    {offset : Option Nat} (done : book.commit state input finished view offset = (.ok id, next))
    (active : book.proof = some proof) :
    ∃ fresh, next.proof = some (proof.extend id (committed proof state input finished view offset)
      fresh rfl rfl) := by
  unfold CheckpointBook.commit at done
  split at done
  · cases done
  · split at done
    · cases done
    · rename_i proof' active'
      obtain rfl := Option.some.inj (active.symm.trans active')
      obtain ⟨same, rfl⟩ := Prod.mk.inj done
      obtain rfl := Except.ok.inj same
      exact ⟨_, rfl⟩

/-- A commit that fails for an active proof changes nothing. -/
theorem commit_error {state : PetStateId} {input : String} {finished : Bool} {view : ProofState}
    {offset : Option Nat} {error : CheckpointError}
    (failed : book.commit state input finished view offset = (.error error, next))
    (active : book.proof = some proof) : next = book := by
  unfold CheckpointBook.commit at failed
  split at failed
  · exact (Prod.mk.inj failed).2.symm
  · split at failed
    · rename_i inactive
      cases active.symm.trans inactive
    · cases failed

theorem select_ok (selected : book.select id = .ok next) :
    ∃ proof known, book.proof = some proof ∧ next.proof = some (proof.select id known) := by
  unfold CheckpointBook.select at selected
  split at selected
  · cases selected
  · rename_i proof active
    split at selected
    · obtain rfl := Except.ok.inj selected
      exact ⟨proof, ‹_›, active, rfl⟩
    · cases selected

theorem lookup_active (active : book.proof = some proof) (known : id ∈ proof.ids) :
    ∃ node, book.lookup id = .ok node := by
  obtain ⟨node, found⟩ := Option.isSome_iff_exists.mp (proof.get?_isSome known)
  exact ⟨node, ProofSession.lookup_of_get? active found⟩

theorem mapM_lookup_ok (active : book.proof = some proof) (path : List CheckpointId)
    (known : ∀ step ∈ path, step ∈ proof.ids) :
    ∃ records, (path.mapM fun id => do return (id, ← book.lookup id)) = Except.ok records := by
  induction path with
  | nil => exact ⟨[], rfl⟩
  | cons head rest ih =>
    obtain ⟨node, found⟩ := lookup_active active (known head List.mem_cons_self)
    obtain ⟨records, read⟩ := ih fun step member => known step (List.mem_cons_of_mem _ member)
    refine ⟨(head, node) :: records, ?_⟩
    rw [List.mapM_cons, found, read]
    rfl

/-- The path to a checkpoint of the active proof can be read. -/
theorem records_ok (active : book.proof = some proof) (known : target ∈ proof.ids) :
    ∃ records, book.records target = .ok records := by
  obtain ⟨path, walked, _, inside⟩ := proof.ancestors_ok known (Nat.lt_succ_self target)
  obtain ⟨records, read⟩ := mapM_lookup_ok active path.reverse fun step member =>
    inside step (List.mem_reverse.mp member)
  refine ⟨records, ?_⟩
  rw [CheckpointBook.records, CheckpointBook.path, active]
  simp only [walked]
  exact read

theorem fragments_ok (active : book.proof = some proof) (known : target ∈ proof.ids) :
    ∃ records, book.PathTo target records ∧
      book.fragments target = .ok (records.filterMap fun record => record.2.acceptedInput) := by
  obtain ⟨records, read⟩ := records_ok active known
  exact ⟨records, book.records_path read, by rw [CheckpointBook.fragments, read]; rfl⟩

/-- The fragments of a path end with the input of its last checkpoint. -/
theorem PathTo.last_input {records : List (CheckpointId × Checkpoint)} {input : String}
    (path : book.PathTo target records) {node : Checkpoint} (found : book.lookup target = .ok node)
    (accepted : node.acceptedInput = some input) :
    (records.filterMap fun record => record.2.acceptedInput).getLast? = some input := by
  obtain rfl | ⟨front, last, rfl⟩ := List.eq_nil_or_concat' records
  · cases path.last
  · have reached : last.1 = target := by simpa using path.last
    have same := path.known last (by simp)
    rw [reached, found] at same
    simp [List.filterMap_append, ← Except.ok.inj same, accepted]

end CheckpointBook

end RocqMcp
