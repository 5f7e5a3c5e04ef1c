import Mathlib.Data.List.Perm.Basic
import Mathlib.Order.Lattice

/-! Keyed bodies written one after the other between two delimiters. A body may
hold the delimiters, and then absorb the frames that follow. -/

namespace RocqMcp.Library

variable {α β κ : Type}

section

variable (separator stop : α)

/-- The key up to a separator, and the body up to a stop. -/
def frame (entry : List α × List α) : List α := entry.1 ++ separator :: (entry.2 ++ [stop])

def framed (entries : List (List α × List α)) : List α := entries.flatMap (frame separator stop)

/-- After a common start, a body of the right continues the body of the left with
a stop and the frames that follow on the left, up to those on the right. -/
def Absorbs (left right : List (List α × List α)) : Prop :=
  ∃ common key body extra later beyond,
    left = common ++ (key, body) :: later ∧
    right = common ++ (key, body ++ stop :: extra) :: beyond ∧
    framed separator stop later = extra ++ stop :: framed separator stop beyond

end

variable {separator stop : α} {left right : List (List α × List α)}

theorem framed_cons (entry : List α × List α) (rest : List (List α × List α)) :
    framed separator stop (entry :: rest) =
      entry.1 ++ separator :: (entry.2 ++ stop :: framed separator stop rest) := by
  simp [framed, frame]

theorem Absorbs.framed_eq (absorbs : Absorbs separator stop left right) :
    framed separator stop left = framed separator stop right := by
  obtain ⟨common, key, body, extra, later, beyond, rfl, rfl, absorbed⟩ := absorbs
  rw [framed, framed, List.flatMap_append, List.flatMap_append]
  congr 1
  rw [← framed, ← framed, framed_cons, framed_cons, absorbed]
  simp

theorem Absorbs.cons (entry : List α × List α) (absorbs : Absorbs separator stop left right) :
    Absorbs separator stop (entry :: left) (entry :: right) := by
  obtain ⟨common, key, body, extra, later, beyond, rfl, rfl, absorbed⟩ := absorbs
  exact ⟨entry :: common, key, body, extra, later, beyond, rfl, rfl, absorbed⟩

/-- A key without separators ends at the first one. -/
theorem key_cancel {first second : List α} {early late : List α} (plain : separator ∉ first)
    (clean : separator ∉ second)
    (same : first ++ separator :: early = second ++ separator :: late) :
    first = second ∧ early = late := by
  induction first generalizing second with
  | nil =>
    cases second with
    | nil => exact ⟨rfl, (List.cons.inj same).2⟩
    | cons head rest => exact absurd (by simp [(List.cons.inj same).1]) clean
  | cons head rest ih =>
    cases second with
    | nil => exact absurd (by simp [(List.cons.inj same).1]) plain
    | cons other others =>
      obtain ⟨equal, tails⟩ := List.cons.inj same
      obtain ⟨keys, bodies⟩ := ih (fun later => plain (List.mem_cons_of_mem _ later))
        (fun later => clean (List.mem_cons_of_mem _ later)) tails
      exact ⟨by rw [equal, keys], bodies⟩

/-- Bodies before a stop agree, or one continues the other after a stop. -/
theorem body_cases {first second early late : List α}
    (same : first ++ stop :: early = second ++ stop :: late) :
    (first = second ∧ early = late) ∨
    (∃ extra, second = first ++ stop :: extra ∧ early = extra ++ stop :: late) ∨
    (∃ extra, first = second ++ stop :: extra ∧ late = extra ++ stop :: early) := by
  rcases List.append_eq_append_iff.mp same with ⟨extra, longer, stopped⟩ | ⟨extra, longer, stopped⟩
  · cases extra with
    | nil => exact .inl ⟨by simpa using longer.symm, (List.cons.inj stopped).2⟩
    | cons head extra =>
      obtain ⟨rfl, rest⟩ := List.cons.inj stopped
      exact .inr (.inl ⟨extra, longer, rest⟩)
  · cases extra with
    | nil => exact .inl ⟨by simpa using longer, (List.cons.inj stopped).2.symm⟩
    | cons head extra =>
      obtain ⟨rfl, rest⟩ := List.cons.inj stopped
      exact .inr (.inr ⟨extra, longer, rest⟩)

/-- Two lists of frames read the same only if they are the same, or one absorbs. -/
theorem framed_eq_iff (plain : ∀ entry ∈ left, separator ∉ entry.1)
    (clean : ∀ entry ∈ right, separator ∉ entry.1) :
    framed separator stop left = framed separator stop right ↔
      left = right ∨ Absorbs separator stop left right ∨ Absorbs separator stop right left := by
  constructor
  · intro same
    induction left generalizing right with
    | nil =>
      cases right with
      | nil => exact .inl rfl
      | cons entry rest => simp [framed, frame] at same
    | cons entry rest ih =>
      cases right with
      | nil => simp [framed, frame] at same
      | cons other others =>
        obtain ⟨key, body⟩ := entry
        obtain ⟨key', body'⟩ := other
        rw [framed_cons, framed_cons] at same
        have keys : separator ∉ key := plain _ List.mem_cons_self
        have keys' : separator ∉ key' := clean _ List.mem_cons_self
        obtain ⟨rfl, bodies⟩ := key_cancel keys keys' same
        rcases body_cases bodies with ⟨rfl, tails⟩ | ⟨extra, rfl, absorbed⟩ | ⟨extra, rfl, absorbed⟩
        · rcases ih (fun entry member => plain entry (List.mem_cons_of_mem _ member))
            (fun entry member => clean entry (List.mem_cons_of_mem _ member)) tails with
            equal | absorbs | absorbs
          · exact .inl (by rw [equal])
          · exact .inr (.inl (absorbs.cons _))
          · exact .inr (.inr (absorbs.cons _))
        · exact .inr (.inl ⟨[], key, body, extra, rest, others, rfl, rfl, absorbed⟩)
        · exact .inr (.inr ⟨[], key, body', extra, others, rest, rfl, rfl, absorbed⟩)
  · rintro (rfl | absorbs | absorbs)
    · rfl
    · exact absorbs.framed_eq
    · exact absorbs.framed_eq.symm

/-! ### Sorted lists, group by group -/

section

variable [LinearOrder κ] {key : β → κ} {encode : β → List α} {items others : List β}

/-- The least keys stand first in a sorted list. -/
theorem sorted_split {least : κ} (sorted : items.Pairwise fun first second => key first ≤ key second)
    (below : ∀ item ∈ items, least ≤ key item) :
    items = items.filter (fun item => key item = least) ++
      items.filter (fun item => key item ≠ least) := by
  induction items with
  | nil => rfl
  | cons head rest ih =>
    obtain ⟨first, sorted⟩ := List.pairwise_cons.mp sorted
    have split := ih sorted fun item member => below item (List.mem_cons_of_mem _ member)
    by_cases same : key head = least
    · simp only [same, List.filter_cons, decide_true, if_true, ne_eq, not_true_eq_false, decide_false,
        Bool.false_eq_true, if_false, List.cons_append]
      rw [List.cons.injEq]
      exact ⟨rfl, split⟩
    · have none : rest.filter (fun item => key item = least) = [] := by
        rw [List.filter_eq_nil_iff]
        intro item member equal
        have above := first item member
        rw [of_decide_eq_true equal] at above
        exact same (le_antisymm above (below head List.mem_cons_self))
      rw [none] at split
      simp only [List.filter_cons, same, decide_false, Bool.false_eq_true, if_false, none, ne_eq,
        not_false_eq_true, decide_true, if_true, List.nil_append, List.cons.injEq, true_and]
      exact split

theorem length_flatMap_perm (perm : items.Perm others) :
    (items.flatMap encode).length = (others.flatMap encode).length :=
  (perm.flatMap_right encode).length_eq

/-- Two sorted permutations of one list are written the same exactly when their groups are. -/
theorem flatMap_sorted_iff (perm : items.Perm others)
    (sorted : items.Pairwise fun first second => key first ≤ key second)
    (sorted' : others.Pairwise fun first second => key first ≤ key second) :
    items.flatMap encode = others.flatMap encode ↔
      ∀ name, (items.filter fun item => key item = name).flatMap encode =
        (others.filter fun item => key item = name).flatMap encode := by
  generalize size : items.length = bound
  induction bound using Nat.strongRecOn generalizing items others with
  | ind bound ih =>
    cases items with
    | nil =>
      obtain rfl := perm.nil_eq
      simp
    | cons head rest =>
      have below : ∀ item ∈ head :: rest, key head ≤ key item := by
        intro item member
        rcases List.mem_cons.mp member with rfl | later
        · exact le_refl _
        · exact (List.pairwise_cons.mp sorted).1 item later
      have below' : ∀ item ∈ others, key head ≤ key item :=
        fun item member => below item (perm.mem_iff.mpr member)
      have split := sorted_split sorted below
      have split' := sorted_split sorted' below'
      generalize whole : head :: rest = items at *
      have shorter : (items.filter fun item => key item ≠ key head).length < bound := by
        rw [← size, ← whole]
        simp only [ne_eq, List.filter_cons, not_true_eq_false, decide_false, Bool.false_eq_true,
          if_false, List.length_cons]
        exact Nat.lt_succ_of_le (List.length_filter_le _ _)
      have rest := ih _ shorter (perm.filter _) (sorted.filter _) (sorted'.filter _) rfl
      have groups {name : κ} {list : List β} (other : name ≠ key head) :
          ((list.filter fun item => key item ≠ key head).filter fun item => key item = name) =
            list.filter fun item => key item = name := by
        rw [List.filter_filter]
        apply List.filter_congr
        intro item _
        by_cases same : key item = name <;> simp [same, other]
      have none {list : List β} :
          ((list.filter fun item => key item ≠ key head).filter fun item => key item = key head) =
            [] := by
        rw [List.filter_filter, List.filter_eq_nil_iff]
        simp
      have halves : items.flatMap encode = others.flatMap encode ↔
          (items.filter fun item => key item = key head).flatMap encode =
            (others.filter fun item => key item = key head).flatMap encode ∧
          (items.filter fun item => key item ≠ key head).flatMap encode =
            (others.filter fun item => key item ≠ key head).flatMap encode := by
        constructor
        · intro same
          rw [split, split', List.flatMap_append, List.flatMap_append] at same
          exact List.append_inj same (length_flatMap_perm (perm.filter _))
        · rintro ⟨first, second⟩
          rw [split, split', List.flatMap_append, List.flatMap_append, first, second]
      rw [halves, rest]
      constructor
      · rintro ⟨first, second⟩ name
        by_cases same : name = key head
        · rw [same]
          exact first
        · have group := second name
          rwa [groups same, groups same] at group
      · intro all
        refine ⟨all _, fun name => ?_⟩
        by_cases same : name = key head
        · rw [same, none, none]
        · rw [groups same, groups same]
          exact all name

end

end RocqMcp.Library
