import RocqMcp.Adapter.Arguments
import Mathlib.Data.Multiset.UnionInter

/-! The goal diff of a response is the multiset difference of the two views. Its
flag for ambiguous matches counts copies in the later view only. -/

namespace RocqMcp

namespace Adapter

/-- The goals of a view as a multiset, without their evar numbers. -/
def StructuredGoals.contexts (goals : StructuredGoals) : Multiset SemanticGoal :=
  Multiset.ofList (StructuredGoals.flatten goals)

/-- The same goals in each scope, in any order and under any evar numbers. -/
structure SameGoals (goals other : StructuredGoals) : Prop where
  focused : (goals.focused.map (GoalDetail.semantic .focused)).Perm
    (other.focused.map (GoalDetail.semantic .focused))
  unfocused : (goals.unfocused.map (GoalDetail.semantic .unfocused)).Perm
    (other.unfocused.map (GoalDetail.semantic .unfocused))
  shelved : (goals.shelved.map (GoalDetail.semantic .shelved)).Perm
    (other.shelved.map (GoalDetail.semantic .shelved))
  givenUp : (goals.givenUp.map (GoalDetail.semantic .givenUp)).Perm
    (other.givenUp.map (GoalDetail.semantic .givenUp))

/-- A goal of both views has several copies in the second one. -/
def Repeats (goals other : Multiset SemanticGoal) : Prop :=
  ∃ goal ∈ goals, 1 < other.count goal

/-- A goal of both views has several copies in one of them: which copy matched
which is undetermined. -/
def Ambiguous (goals other : Multiset SemanticGoal) : Prop :=
  ∃ goal, goal ∈ goals ∧ goal ∈ other ∧ (1 < goals.count goal ∨ 1 < other.count goal)

/-- Every evar number of the goals is replaced. -/
def StructuredGoals.rename (goals : StructuredGoals) (number : Evar → Evar) : StructuredGoals :=
  let one := fun goal : GoalDetail => { goal with evar := number goal.evar }
  { goals with
    focused := goals.focused.map one
    stack := goals.stack.map fun frame =>
      { left := frame.left.map one, right := frame.right.map one }
    unfocused := goals.unfocused.map one
    shelved := goals.shelved.map one
    givenUp := goals.givenUp.map one }

section

variable {goals other : StructuredGoals} {diff : GoalDiff}

theorem SameGoals.rename (goals : StructuredGoals) (number : Evar → Evar) :
    SameGoals goals (StructuredGoals.rename goals number) := by
  constructor <;> simp only [StructuredGoals.rename, List.map_map] <;> exact .refl _

theorem SameGoals.reorder (focused : goals.focused.Perm other.focused)
    (unfocused : goals.unfocused.Perm other.unfocused) (shelved : goals.shelved.Perm other.shelved)
    (givenUp : goals.givenUp.Perm other.givenUp) : SameGoals goals other where
  focused := focused.map _
  unfocused := unfocused.map _
  shelved := shelved.map _
  givenUp := givenUp.map _

theorem SameGoals.contexts (same : SameGoals goals other) :
    StructuredGoals.contexts goals = StructuredGoals.contexts other := by
  have flattened : (StructuredGoals.flatten goals).Perm (StructuredGoals.flatten other) :=
    ((same.focused.append same.unfocused).append same.shelved).append same.givenUp
  exact Multiset.coe_eq_coe.mpr flattened

/-! ### The matching loop -/

variable (before after : List SemanticGoal)

theorem matchGoals_counts : (matchGoals diff before after).beforeCount = diff.beforeCount ∧
    (matchGoals diff before after).afterCount = diff.afterCount := by
  induction before generalizing diff after with
  | nil => exact ⟨rfl, rfl⟩
  | cons goal rest ih =>
    simp only [matchGoals]
    split <;> simpa using ih _

theorem matchGoals_removed : Multiset.ofList (matchGoals diff before after).removed =
    Multiset.ofList diff.removed + (Multiset.ofList before - Multiset.ofList after) := by
  induction before generalizing diff after with
  | nil => simp only [matchGoals, Multiset.coe_nil, Multiset.zero_sub, Multiset.add_zero]
  | cons goal rest ih =>
    simp only [matchGoals]
    by_cases matched : goal ∈ after
    · have remaining : Multiset.ofList (goal :: rest) - Multiset.ofList after =
          Multiset.ofList rest - Multiset.ofList (after.erase goal) := by
        have split := Multiset.coe_eq_coe.mpr (List.perm_cons_erase matched)
        rw [split, ← Multiset.cons_coe, ← Multiset.cons_coe, Multiset.sub_cons,
          Multiset.erase_cons_head]
      simp only [matched, if_true, ih, remaining]
    · have remaining : Multiset.ofList (goal :: rest) - Multiset.ofList after =
          goal ::ₘ (Multiset.ofList rest - Multiset.ofList after) := by
        ext other
        rw [← Multiset.cons_coe]
        by_cases same : other = goal
        · subst same
          have absent : Multiset.count other (Multiset.ofList after) = 0 :=
            Multiset.count_eq_zero_of_notMem fun shared => matched (Multiset.mem_coe.mp shared)
          simp only [Multiset.count_sub, Multiset.count_cons_self, absent, Nat.sub_zero]
        · simp only [Multiset.count_sub, Multiset.count_cons_of_ne same]
      simp only [matched, if_false, ih, remaining]
      rw [← Multiset.coe_add, ← Multiset.singleton_add, Multiset.coe_singleton, Multiset.add_assoc]

theorem matchGoals_added : Multiset.ofList (matchGoals diff before after).added =
    Multiset.ofList after - Multiset.ofList before := by
  induction before generalizing diff after with
  | nil => simp [matchGoals]
  | cons goal rest ih =>
    simp only [matchGoals]
    have erased : Multiset.ofList after - Multiset.ofList (goal :: rest) =
        Multiset.ofList (after.erase goal) - Multiset.ofList rest := by
      rw [← Multiset.cons_coe, Multiset.sub_cons, Multiset.coe_erase]
    by_cases matched : goal ∈ after
    · simp only [matched, if_true, ih, erased]
    · simp only [matched, if_false, ih, erased, List.erase_of_not_mem matched]

theorem matchGoals_unchanged : (matchGoals diff before after).unchangedCount =
    diff.unchangedCount + (Multiset.ofList before ∩ Multiset.ofList after).card := by
  induction before generalizing diff after with
  | nil => simp [matchGoals]
  | cons goal rest ih =>
    simp only [matchGoals]
    by_cases matched : goal ∈ after
    · have shared : goal ∈ Multiset.ofList after := Multiset.mem_coe.mpr matched
      simp only [matched, if_true, ih]
      rw [← Multiset.cons_coe, Multiset.cons_inter_of_pos _ shared, Multiset.card_cons,
        Multiset.coe_erase]
      omega
    · have apart : goal ∉ Multiset.ofList after := fun shared => matched (Multiset.mem_coe.mp shared)
      simp only [matched, if_false, ih]
      rw [← Multiset.cons_coe, Multiset.cons_inter_of_neg _ apart]

/-- The count of a goal that is met again misses only copies already used, and
the first of these has set the flag. -/
theorem matchGoals_ambiguous : (matchGoals diff before after).ambiguous = true ↔
    diff.ambiguous = true ∨ ∃ goal ∈ before, 1 < after.count goal := by
  induction before generalizing diff after with
  | nil => simp [matchGoals]
  | cons goal rest ih =>
    have used : (1 < after.count goal ∨ ∃ other ∈ rest, 1 < (after.erase goal).count other) ↔
        ∃ other ∈ goal :: rest, 1 < after.count other := by
      constructor
      · rintro (repeated | ⟨other, member, repeated⟩)
        · exact ⟨goal, List.mem_cons_self, repeated⟩
        · have fewer := (List.erase_sublist (a := goal) (l := after)).count_le other
          exact ⟨other, List.mem_cons_of_mem _ member, by omega⟩
      · rintro ⟨other, member, repeated⟩
        by_cases same : other = goal
        · exact .inl (same ▸ repeated)
        · have later := (List.mem_cons.mp member).resolve_left same
          exact .inr ⟨other, later, by rwa [List.count_erase_of_ne same]⟩
    have flagged : (diff.ambiguous || decide (1 < after.count goal)) = true ↔
        diff.ambiguous = true ∨ 1 < after.count goal := by simp
    simp only [matchGoals]
    by_cases matched : goal ∈ after
    · rw [if_pos matched, ih]
      simp only [flagged, or_assoc, used]
    · rw [if_neg matched, ih]
      simp only [flagged, or_assoc, List.mem_cons, exists_eq_or_imp]

end

theorem ambiguous_iff {goals other : Multiset SemanticGoal} :
    Ambiguous goals other ↔ Repeats goals other ∨ Repeats other goals := by
  have present : ∀ {views : Multiset SemanticGoal} {goal}, 1 < views.count goal → goal ∈ views :=
    fun repeated => Multiset.count_pos.mp (Nat.zero_lt_of_lt repeated)
  constructor
  · rintro ⟨goal, first, second, repeated | repeated⟩
    · exact .inr ⟨goal, second, repeated⟩
    · exact .inl ⟨goal, first, repeated⟩
  · rintro (⟨goal, first, repeated⟩ | ⟨goal, second, repeated⟩)
    · exact ⟨goal, first, present repeated, .inr repeated⟩
    · exact ⟨goal, present repeated, second, .inl repeated⟩

/-- What a diff reports of the goals before and after a step. -/
structure GoalDiff.Exact (before after : Multiset SemanticGoal) (diff : GoalDiff) : Prop where
  removed : Multiset.ofList diff.removed = before - after
  added : Multiset.ofList diff.added = after - before
  unchanged : diff.unchangedCount = (before ∩ after).card
  beforeCount : diff.beforeCount = diff.unchangedCount + diff.removed.length
  afterCount : diff.afterCount = diff.unchangedCount + diff.added.length

theorem card_sub_add_inter (before after : Multiset SemanticGoal) :
    before.card = (before ∩ after).card + (before - after).card := by
  have parts := congrArg Multiset.card (Multiset.sub_add_inter before after)
  rw [Multiset.card_add] at parts
  omega

theorem matchGoals_exact {start : GoalDiff} {before after : List SemanticGoal}
    (beforeCount : start.beforeCount = before.length) (afterCount : start.afterCount = after.length)
    (unchanged : start.unchangedCount = 0) (removed : start.removed = []) :
    GoalDiff.Exact (Multiset.ofList before) (Multiset.ofList after)
      (matchGoals start before after) := by
  have counts : (matchGoals start before after).beforeCount = start.beforeCount ∧
      (matchGoals start before after).afterCount = start.afterCount := matchGoals_counts before after
  have gone : Multiset.ofList (matchGoals start before after).removed =
      Multiset.ofList before - Multiset.ofList after := by
    rw [matchGoals_removed, removed, Multiset.coe_nil, Multiset.zero_add]
  have new : Multiset.ofList (matchGoals start before after).added =
      Multiset.ofList after - Multiset.ofList before := matchGoals_added before after
  have kept : (matchGoals start before after).unchangedCount =
      (Multiset.ofList before ∩ Multiset.ofList after).card := by
    rw [matchGoals_unchanged, unchanged, Nat.zero_add]
  refine ⟨gone, new, kept, ?_, ?_⟩
  · rw [counts.1, beforeCount, kept, ← Multiset.coe_card, ← Multiset.coe_card, gone]
    exact card_sub_add_inter _ _
  · rw [counts.2, afterCount, kept, ← Multiset.coe_card, ← Multiset.coe_card, new,
      Multiset.inter_comm]
    exact card_sub_add_inter _ _

theorem goalDiff_ofGoals {before after : ProofState} {goals other : StructuredGoals}
    (first : before.structuredGoals = some goals) (second : after.structuredGoals = some other) :
    ∃ diff, goalDiff before after = some diff ∧
      GoalDiff.Exact (StructuredGoals.contexts goals) (StructuredGoals.contexts other) diff := by
  simp only [goalDiff, first, second, Option.bind_eq_bind, Option.bind_some]
  exact ⟨_, rfl, matchGoals_exact rfl rfl rfl rfl⟩

theorem goalDiff_flag {before after : ProofState} {goals other : StructuredGoals} {diff : GoalDiff}
    (first : before.structuredGoals = some goals) (second : after.structuredGoals = some other)
    (computed : goalDiff before after = some diff) : diff.ambiguous = true ↔
      Repeats (StructuredGoals.contexts goals) (StructuredGoals.contexts other) := by
  simp only [goalDiff, first, second, Option.bind_eq_bind, Option.bind_some] at computed
  obtain rfl := Option.some.inj computed
  rw [matchGoals_ambiguous]
  simp [Repeats, StructuredGoals.contexts]

/-- The diff of two views is the exact multiset difference of their goals. It
does not depend on the order of the goals in a scope or on their evar numbers,
and the diff of the swapped views swaps what is added and what is removed. -/
theorem goalDiff_exact (before after : ProofState) (goals other : StructuredGoals)
    (first : before.structuredGoals = some goals) (second : after.structuredGoals = some other) :
    ∃ diff, goalDiff before after = some diff ∧
      GoalDiff.Exact (StructuredGoals.contexts goals) (StructuredGoals.contexts other) diff ∧
      (∀ (before' after' : ProofState) (goals' other' : StructuredGoals),
        before'.structuredGoals = some goals' → after'.structuredGoals = some other' →
        SameGoals goals goals' → SameGoals other other' →
        ∃ diff', goalDiff before' after' = some diff' ∧
          Multiset.ofList diff'.removed = Multiset.ofList diff.removed ∧
          Multiset.ofList diff'.added = Multiset.ofList diff.added) ∧
      ∃ swapped, goalDiff after before = some swapped ∧
        Multiset.ofList swapped.added = Multiset.ofList diff.removed ∧
        Multiset.ofList swapped.removed = Multiset.ofList diff.added := by
  obtain ⟨diff, computed, exact'⟩ := goalDiff_ofGoals first second
  obtain ⟨swapped, reversed, mirrored⟩ := goalDiff_ofGoals second first
  refine ⟨diff, computed, exact', ?_, swapped, reversed, ?_, ?_⟩
  · intro before' after' goals' other' first' second' same same'
    obtain ⟨diff', computed', varied⟩ := goalDiff_ofGoals first' second'
    refine ⟨diff', computed', ?_, ?_⟩
    · rw [varied.removed, exact'.removed, same.contexts, same'.contexts]
    · rw [varied.added, exact'.added, same.contexts, same'.contexts]
  · rw [mirrored.added, exact'.removed]
  · rw [mirrored.removed, exact'.added]

/-- An open proof with one goal for each type. -/
def sampleView (types : List String) : ProofState :=
  proofStateStructured
    { identity := { file := { text := "theories/A.v" }, qualifiedPath := ["t"] }
      kind := .theorem'
      statement := "True" }
    { PetGoals.outsideProof with
      focused := types.map fun type => { evar := "[1]", name := none, hypotheses := [], type } }

/-- One of two equal goals is solved, and a new one appears. -/
theorem goalDiff_exact_duplicates :
    ∃ diff, goalDiff (sampleView ["P", "P", "Q"]) (sampleView ["Q", "P", "R"]) = some diff ∧
      diff.unchangedCount = 2 ∧ diff.beforeCount = 2 + diff.removed.length := by
  obtain ⟨diff, computed, exact', _⟩ := goalDiff_exact (sampleView ["P", "P", "Q"])
    (sampleView ["Q", "P", "R"]) _ _ rfl rfl
  have unchanged : diff.unchangedCount = 2 := exact'.unchanged.trans (by decide)
  exact ⟨diff, computed, unchanged, unchanged ▸ exact'.beforeCount⟩

/-- The flag of the diff tells whether a match was ambiguous, and the diff of the
swapped views has the same flag. -/
def FlagsExact (before after : ProofState) : Prop :=
  ∃ goals other diff swapped, before.structuredGoals = some goals ∧
    after.structuredGoals = some other ∧ goalDiff before after = some diff ∧
    goalDiff after before = some swapped ∧
    (diff.ambiguous = true ↔
      Ambiguous (StructuredGoals.contexts goals) (StructuredGoals.contexts other)) ∧
    swapped.ambiguous = diff.ambiguous

/-- The flag is exact for two views unless copies of a shared goal are met in one
of them only. -/
theorem flagsExact_iff (before after : ProofState) (goals other : StructuredGoals)
    (first : before.structuredGoals = some goals) (second : after.structuredGoals = some other) :
    FlagsExact before after ↔
      (Repeats (StructuredGoals.contexts other) (StructuredGoals.contexts goals) ↔
        Repeats (StructuredGoals.contexts goals) (StructuredGoals.contexts other)) := by
  obtain ⟨diff, computed, _⟩ := goalDiff_ofGoals first second
  obtain ⟨swapped, reversed, _⟩ := goalDiff_ofGoals second first
  have flag := goalDiff_flag first second computed
  have flag' := goalDiff_flag second first reversed
  constructor
  · rintro ⟨_, _, diff', swapped', _, _, computed', reversed', _, symmetric⟩
    obtain rfl := Option.some.inj (computed.symm.trans computed')
    obtain rfl := Option.some.inj (reversed.symm.trans reversed')
    rw [← flag, ← flag', symmetric]
  · intro both
    refine ⟨goals, other, diff, swapped, first, second, computed, reversed, ?_, ?_⟩
    · rw [flag, ambiguous_iff, both, or_self]
    · rw [Bool.eq_iff_iff, flag, flag', both]

/-- Two copies of the only goal are matched with two. -/
theorem flagsExact_iff_copies : FlagsExact (sampleView ["P", "P"]) (sampleView ["P", "P"]) := by
  have exact' := flagsExact_iff (sampleView ["P", "P"]) (sampleView ["P", "P"]) _ _ rfl rfl
  exact exact'.mpr Iff.rfl

/-- One of two copies is solved: the flag is off, and on for the swapped views. -/
theorem flag_misses : ¬ FlagsExact (sampleView ["P", "P"]) (sampleView ["P"]) := by
  rintro ⟨_, _, diff, swapped, _, _, computed, reversed, _, symmetric⟩
  have off : (goalDiff (sampleView ["P", "P"]) (sampleView ["P"])).map GoalDiff.ambiguous =
      some false := by decide
  have on : (goalDiff (sampleView ["P"]) (sampleView ["P", "P"])).map GoalDiff.ambiguous =
      some true := by decide
  rw [computed] at off
  rw [reversed] at on
  have same : some true = some false := by
    rw [← on, ← off, Option.map_some, Option.map_some, symmetric]
  cases same

end Adapter

end RocqMcp
