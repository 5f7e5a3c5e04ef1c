import Mathlib.Data.List.Perm.Basic

/-! A stable sort of several groups, one after the other, does not depend on the
order of the groups where elements that compare equal are in one group. -/

namespace RocqMcp.Library

variable {α β : Type}

theorem pair_sublist_of_mem {first second : α} {list : List α} (left : first ∈ list)
    (right : second ∈ list) (different : first ≠ second) :
    [first, second].Sublist list ∨ [second, first].Sublist list := by
  obtain ⟨front, back, rfl⟩ := List.append_of_mem left
  rcases List.mem_append.mp right with early | late
  · right
    have parts : [second].Sublist front := List.singleton_sublist.mpr early
    exact parts.append (List.singleton_sublist.mpr List.mem_cons_self)
  · left
    rcases List.mem_cons.mp late with same | behind
    · exact absurd same.symm different
    · have parts : [first, second].Sublist (first :: back) :=
        (List.singleton_sublist.mpr behind).cons_cons first
      exact parts.trans (List.sublist_append_right ..)

theorem not_pair_sublist {first second : α} {list : List α} (distinct : list.Nodup)
    (forward : [first, second].Sublist list) : ¬ [second, first].Sublist list := by
  intro backward
  induction list with
  | nil => cases forward
  | cons head rest ih =>
    obtain ⟨fresh, distinct⟩ := List.nodup_cons.mp distinct
    cases forward with
    | cons _ forward =>
      cases backward with
      | cons _ backward => exact ih distinct forward backward
      | cons_cons _ single => exact fresh (forward.subset (by simp))
    | cons_cons _ single =>
      cases backward with
      | cons _ backward => exact fresh (backward.subset (by simp))
      | cons_cons _ single' => exact fresh (single.subset (by simp))

/-- A selection that keeps a key keeps the order of the keys. -/
theorem map_filterMap_sublist {γ κ : Type} {select : α → Option γ} {key : α → κ} {key' : γ → κ}
    {list : List α}
    (kept : ∀ element ∈ list, ∀ chosen, select element = some chosen → key' chosen = key element) :
    ((list.filterMap select).map key').Sublist (list.map key) := by
  induction list with
  | nil => exact .slnil
  | cons head rest ih =>
    have later := ih fun element member => kept element (List.mem_cons_of_mem _ member)
    cases chosen : select head with
    | none =>
      rw [List.filterMap_cons_none chosen]
      exact later.cons _
    | some value =>
      rw [List.filterMap_cons_some chosen, List.map_cons, List.map_cons,
        kept head List.mem_cons_self value chosen]
      exact later.cons_cons _

section

variable {le : α → α → Bool} {group : β → List α} {keys keys' : List β}

/-- In order, and elements that compare equal as in one of the groups. -/
def Stably (le : α → α → Bool) (group : β → List α) (keys : List β) (left right : α) : Prop :=
  le left right = true ∧
    (le right left = true → ∃ key ∈ keys, [left, right].Sublist (group key))

theorem sublist_flatMap {key : β} (member : key ∈ keys) :
    (group key).Sublist (keys.flatMap group) := by
  obtain ⟨front, back, rfl⟩ := List.append_of_mem member
  rw [List.flatMap_append, List.flatMap_cons]
  exact (List.sublist_append_left ..).trans (List.sublist_append_right ..)

theorem stably_antisymm (distinct : (keys.flatMap group).Nodup) {left right : α}
    (forward : Stably le group keys left right) (backward : Stably le group keys right left) :
    left = right := by
  obtain ⟨key, member, order⟩ := forward.2 backward.1
  obtain ⟨key', member', order'⟩ := backward.2 forward.1
  exact (not_pair_sublist distinct (order.trans (sublist_flatMap member))
    (order'.trans (sublist_flatMap member'))).elim

theorem mergeSort_stably (trans : ∀ a b c, le a b = true → le b c = true → le a c = true)
    (total : ∀ a b, (le a b || le b a) = true) (distinct : (keys'.flatMap group).Nodup)
    (same : keys'.Perm keys)
    (ties : ∀ left right, left ∈ keys.flatMap group → right ∈ keys.flatMap group →
      le left right = true → le right left = true →
        ∃ key ∈ keys, left ∈ group key ∧ right ∈ group key) :
    ((keys'.flatMap group).mergeSort le).Pairwise (Stably le group keys) := by
  have permuted : ((keys'.flatMap group).mergeSort le).Perm (keys'.flatMap group) :=
    List.mergeSort_perm _ _
  have sorted := List.pairwise_mergeSort trans total (keys'.flatMap group)
  have distinct' : ((keys'.flatMap group).mergeSort le).Nodup := permuted.nodup_iff.mpr distinct
  rw [List.pairwise_iff_forall_sublist] at sorted ⊢
  intro left right pair
  have forward := sorted pair
  refine ⟨forward, fun backward => ?_⟩
  have gathered : ∀ element ∈ [left, right], element ∈ keys.flatMap group := fun element member =>
    (permuted.trans (same.flatMap_right group)).subset (pair.subset member)
  obtain ⟨key, member, inLeft, inRight⟩ :=
    ties left right (gathered _ (by simp)) (gathered _ (by simp)) forward backward
  have different : left ≠ right := by
    rintro rfl
    exact not_pair_sublist distinct' pair pair
  refine ⟨key, member, (pair_sublist_of_mem inLeft inRight different).resolve_right ?_⟩
  intro swapped
  -- The sort keeps two elements that compare equal in their order.
  have kept := List.sublist_mergeSort trans total (by simpa using backward)
    (swapped.trans (sublist_flatMap (same.mem_iff.mpr member)))
  exact not_pair_sublist distinct' pair kept

theorem mergeSort_flatMap_perm
    (trans : ∀ a b c, le a b = true → le b c = true → le a c = true)
    (total : ∀ a b, (le a b || le b a) = true) (distinct : (keys.flatMap group).Nodup)
    (same : keys'.Perm keys)
    (ties : ∀ left right, left ∈ keys.flatMap group → right ∈ keys.flatMap group →
      le left right = true → le right left = true →
        ∃ key ∈ keys, left ∈ group key ∧ right ∈ group key) :
    (keys'.flatMap group).mergeSort le = (keys.flatMap group).mergeSort le := by
  have permuted := same.flatMap_right group
  have sorted := mergeSort_stably trans total (permuted.nodup_iff.mpr distinct) same ties
  have sorted' := mergeSort_stably trans total distinct (.refl keys) ties
  have gathered : ((keys'.flatMap group).mergeSort le).Perm ((keys.flatMap group).mergeSort le) :=
    (List.mergeSort_perm ..).trans (permuted.trans (List.mergeSort_perm ..).symm)
  exact gathered.eq_of_pairwise
    (fun _ _ _ _ forward backward => stably_antisymm distinct forward backward) sorted sorted'

end

end RocqMcp.Library
