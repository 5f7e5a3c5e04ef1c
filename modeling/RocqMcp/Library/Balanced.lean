import Mathlib.Data.List.Basic

/-! Token lists in which every group is closed, and the search for the end of a
group by counting. -/

namespace RocqMcp.Library

variable {α : Type} [DecidableEq α]

/-- The position at which the depth returns to zero. -/
def closeFrom (opening closing : α) : Nat → List α → Option Nat
  | _, [] => none
  | depth, token :: rest =>
    if token = opening then (closeFrom opening closing (depth + 1) rest).map (· + 1)
    else if token = closing then
      match depth with
      | 0 => none
      | 1 => some 0
      | depth + 2 => (closeFrom opening closing (depth + 1) rest).map (· + 1)
    else (closeFrom opening closing depth rest).map (· + 1)

inductive Balanced (opening closing : α) : List α → Prop where
  | nil : Balanced opening closing []
  | other (token : α) (starts : token ≠ opening) (ends : token ≠ closing)
      (rest : Balanced opening closing later) : Balanced opening closing (token :: later)
  | group {inner later : List α} (inside : Balanced opening closing inner)
      (rest : Balanced opening closing later) :
      Balanced opening closing (opening :: (inner ++ closing :: later))

section

variable {opening closing : α}

theorem closeFrom_opening (depth : Nat) (rest : List α) :
    closeFrom opening closing depth (opening :: rest) =
      (closeFrom opening closing (depth + 1) rest).map (· + 1) := by
  simp [closeFrom]

theorem closeFrom_last (different : opening ≠ closing) (rest : List α) :
    closeFrom opening closing 1 (closing :: rest) = some 0 := by
  simp [closeFrom, different.symm]

theorem closeFrom_closing (different : opening ≠ closing) (depth : Nat) (rest : List α) :
    closeFrom opening closing (depth + 2) (closing :: rest) =
      (closeFrom opening closing (depth + 1) rest).map (· + 1) := by
  simp [closeFrom, different.symm]

theorem closeFrom_other {token : α} (starts : token ≠ opening) (ends : token ≠ closing)
    (depth : Nat) (rest : List α) :
    closeFrom opening closing depth (token :: rest) =
      (closeFrom opening closing depth rest).map (· + 1) := by
  simp [closeFrom, starts, ends]

end

namespace Balanced

variable {opening closing key : α} {tokens front back inner : List α}

omit [DecidableEq α] in
theorem append (left : Balanced opening closing tokens) (right : Balanced opening closing back) :
    Balanced opening closing (tokens ++ back) := by
  induction left with
  | nil => exact right
  | other token starts ends _ ih => exact .other token starts ends ih
  | group inside _ _ ih =>
    have grouped := Balanced.group inside ih
    simpa using grouped

/-- The search passes balanced tokens at the depth at which it meets them. -/
theorem closeFrom_append (different : opening ≠ closing) (balanced : Balanced opening closing tokens)
    (depth : Nat) (rest : List α) :
    closeFrom opening closing (depth + 1) (tokens ++ rest) =
      (closeFrom opening closing (depth + 1) rest).map (· + tokens.length) := by
  induction balanced generalizing depth rest with
  | nil => simp
  | @other _ token starts ends _ ih =>
    rw [List.cons_append, closeFrom_other starts ends, ih, Option.map_map]
    rfl
  | @group inner later _ _ insideIh restIh =>
    have shape : opening :: (inner ++ closing :: later) ++ rest =
        opening :: (inner ++ closing :: (later ++ rest)) := by simp
    rw [shape, closeFrom_opening, insideIh, closeFrom_closing different, restIh, Option.map_map,
      Option.map_map, Option.map_map]
    congr 1
    funext position
    simp only [Function.comp_apply, List.length_cons, List.length_append]
    omega

/-- The end of a group is its closing token. -/
theorem closeFrom_group (different : opening ≠ closing) (inside : Balanced opening closing inner)
    (rest : List α) :
    closeFrom opening closing 0 (opening :: (inner ++ closing :: rest)) =
      some (inner.length + 1) := by
  rw [closeFrom_opening, inside.closeFrom_append different, closeFrom_last different,
    Option.map_some, Option.map_some, Nat.zero_add]

omit [DecidableEq α] in
/-- A group that opens in balanced tokens closes in them. -/
theorem split_opening (different : opening ≠ closing)
    (balanced : Balanced opening closing (front ++ opening :: back)) :
    ∃ inside outside, back = inside ++ closing :: outside ∧ Balanced opening closing inside := by
  generalize whole : front ++ opening :: back = tokens at balanced
  induction balanced generalizing front back with
  | nil => simp at whole
  | other token starts _ _ ih =>
    cases front with
    | nil => exact absurd (List.cons.inj whole).1.symm starts
    | cons head front' => exact ih (List.cons.inj whole).2
  | @group inner later inside _ insideIh restIh =>
    cases front with
    | nil => exact ⟨inner, later, (List.cons.inj whole).2, inside⟩
    | cons head front' =>
      rcases List.append_eq_append_iff.mp (List.cons.inj whole).2 with
        ⟨between, inner_eq, split⟩ | ⟨between, _, split⟩
      · -- It opens in the inner tokens.
        cases between with
        | nil => exact absurd (List.cons.inj split).1 different
        | cons head' between' =>
          obtain ⟨rfl, rfl⟩ := List.cons.inj split
          obtain ⟨inside', outside, rfl, balanced'⟩ := insideIh inner_eq.symm
          exact ⟨inside', outside ++ closing :: later, by simp, balanced'⟩
      · cases between with
        | nil => exact absurd (List.cons.inj split).1.symm different
        | cons head' between' => exact restIh (List.cons.inj split).2.symm

/-- The tokens behind the first occurrence of a key: a group, or no opening token. -/
theorem split_key (different : opening ≠ closing) (balanced : Balanced opening closing tokens)
    (member : key ∈ tokens) :
    ∃ front back, tokens = front ++ key :: back ∧ key ∉ front ∧
      ((∃ inside outside, back = opening :: (inside ++ closing :: outside) ∧
        Balanced opening closing inside) ∨ back.head? ≠ some opening) := by
  obtain ⟨front, back, rfl, fresh⟩ := List.eq_append_cons_of_mem member
  refine ⟨front, back, rfl, fresh, ?_⟩
  cases back with
  | nil => exact .inr nofun
  | cons head later =>
    by_cases opens : head = opening
    · subst opens
      have whole : front ++ key :: head :: later = (front ++ [key]) ++ head :: later := by simp
      rw [whole] at balanced
      obtain ⟨inside, outside, rfl, inner⟩ := balanced.split_opening different
      exact .inl ⟨inside, outside, rfl, inner⟩
    · exact .inr (by simpa using opens)

end Balanced

end RocqMcp.Library
