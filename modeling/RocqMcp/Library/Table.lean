import Mathlib.Data.List.Nodup

/-! Finite tables that are filled entry by entry and refuse a key they have, and
the loops that fill them. -/

namespace RocqMcp.Library

variable {κ ν σ α ε : Type}

structure Table (κ ν : Type) where
  entries : List (κ × ν)
  keys : (entries.map Prod.fst).Nodup
  deriving DecidableEq

namespace Table

section

variable [DecidableEq κ] {table filled : Table κ ν} {key : κ} {value : ν}

def empty : Table κ ν := ⟨[], List.nodup_nil⟩

def get? (table : Table κ ν) (key : κ) : Option ν :=
  (table.entries.find? fun entry => entry.1 = key).map Prod.snd

/-- Insert under a key that the table does not have. -/
def insertNew (table : Table κ ν) (key : κ) (value : ν) : Option (Table κ ν) :=
  if fresh : key ∈ table.entries.map Prod.fst then none
  else some ⟨table.entries ++ [(key, value)], by
    rw [List.map_append]
    exact List.nodup_append'.mpr ⟨table.keys, List.nodup_singleton key, by simpa using fresh⟩⟩

theorem get?_eq_some : table.get? key = some value ↔ (key, value) ∈ table.entries := by
  obtain ⟨entries, keys⟩ := table
  change (entries.find? fun entry => entry.1 = key).map Prod.snd = some value ↔
    (key, value) ∈ entries
  induction entries with
  | nil => simp
  | cons entry rest ih =>
    obtain ⟨first, stored⟩ := entry
    obtain ⟨absent, others⟩ := List.nodup_cons.mp keys
    by_cases same : first = key
    · subst same
      have missing : (first, value) ∉ rest := fun later => absent (List.mem_map.mpr ⟨_, later, rfl⟩)
      simp [missing, eq_comm]
    · have other : ¬ (key, value) = (first, stored) := fun equal => same (congrArg Prod.fst equal).symm
      rw [List.find?_cons_of_neg (by simpa using same), ih others, List.mem_cons]
      simp [other]

theorem isSome_get? : (table.get? key).isSome ↔ key ∈ table.entries.map Prod.fst := by
  rw [Option.isSome_iff_exists, List.mem_map]
  constructor
  · rintro ⟨value, found⟩
    exact ⟨(key, value), get?_eq_some.mp found, rfl⟩
  · rintro ⟨⟨_, value⟩, member, rfl⟩
    exact ⟨value, get?_eq_some.mpr member⟩

theorem entries_insertNew (inserted : table.insertNew key value = some filled) :
    filled.entries = table.entries ++ [(key, value)] := by
  unfold insertNew at inserted
  split at inserted
  · cases inserted
  · obtain rfl := Option.some.inj inserted
    rfl

end

/-- Two tables with the same entries, read in the two directions, are mutually inverse. -/
theorem inverse_of_swap [DecidableEq κ] [DecidableEq ν] {left : Table κ ν} {right : Table ν κ}
    (swapped : right.entries = left.entries.map Prod.swap) (key : κ) (value : ν) :
    left.get? key = some value ↔ right.get? value = some key := by
  rw [get?_eq_some, get?_eq_some, swapped, List.mem_map]
  constructor
  · exact fun member => ⟨(key, value), member, rfl⟩
  · rintro ⟨⟨_, _⟩, member, same⟩
    cases same
    exact member

end Table

/-- What a loop body that may fail preserves, with the items done so far, the whole loop does. -/
theorem foldlM_invariant {body : σ → α → Except ε σ} {items : List α} {state final : σ}
    (done : List α) (inv : List α → σ → Prop)
    (kept : ∀ done item state next, item ∈ items → inv done state →
      body state item = .ok next → inv (done ++ [item]) next)
    (holds : inv done state) (ran : items.foldlM body state = .ok final) :
    inv (done ++ items) final := by
  induction items generalizing done state with
  | nil =>
    obtain rfl := Except.ok.inj ran
    simpa using holds
  | cons item rest ih =>
    rw [List.foldlM_cons] at ran
    cases stepped : body state item with
    | error error =>
      rw [stepped] at ran
      cases ran
    | ok next =>
      rw [stepped] at ran
      have carried := ih _ (fun done other state next member =>
        kept done other state next (List.mem_cons_of_mem _ member))
        (kept done item state next List.mem_cons_self holds stepped) ran
      simpa using carried

/-- Each item of a loop that may fail has its value in the result. -/
theorem mapM_ok {read : α → Except ε ν} {items : List α} {values : List ν}
    (ran : items.mapM read = .ok values) : ∀ item ∈ items, ∃ value ∈ values, read item = .ok value := by
  induction items generalizing values with
  | nil => exact List.forall_mem_nil _
  | cons item rest ih =>
    rw [List.mapM_cons] at ran
    cases first : read item with
    | error error =>
      rw [first] at ran
      cases ran
    | ok value =>
      cases others : rest.mapM read with
      | error error =>
        rw [first, others] at ran
        cases ran
      | ok later =>
        rw [first, others] at ran
        obtain rfl := Except.ok.inj ran
        refine List.forall_mem_cons.mpr ⟨⟨value, List.mem_cons_self, first⟩, fun item member => ?_⟩
        obtain ⟨found, present, same⟩ := ih others item member
        exact ⟨found, List.mem_cons_of_mem _ present, same⟩

end RocqMcp.Library
