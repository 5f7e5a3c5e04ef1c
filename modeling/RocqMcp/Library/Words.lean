import Mathlib.Data.List.Basic

/-! A search for a word that stands between delimiters. The search goes on behind
each occurrence that does not, and so it may skip what overlaps with it. -/

namespace RocqMcp.Library

variable {α : Type}

/-- The word stands in the text, with no inner item before or behind it. -/
def Delimited (inner : α → Bool) (word text : List α) : Prop :=
  ∃ front back, text = front ++ word ++ back ∧ front.getLast?.any inner = false ∧
    back.head?.any inner = false

/-- An occurrence that overlaps with an earlier one follows an item of the word. -/
theorem word_length_le {inner : α → Bool} {word front back rest : List α}
    (word_inner : ∀ item ∈ word, inner item = true)
    (first : word ++ rest = front ++ (word ++ back)) (some : front ≠ [])
    (apart : front.getLast?.any inner = false) : word.length ≤ front.length := by
  by_contra short
  have within : front <+: word :=
    List.prefix_of_prefix_length_le ⟨word ++ back, first.symm⟩ (List.prefix_append word rest)
      (Nat.le_of_not_le short)
  have last := word_inner _ (within.subset (List.getLast_mem some))
  rw [List.getLast?_eq_some_getLast some, Option.any_some, last] at apart
  cases apart

/-- The item before what follows a non-empty front is the last one of the front. -/
theorem getLast?_cons_or (head : α) (rest : List α) (before : Option α) :
    (head :: rest).getLast?.or before = rest.getLast?.or (some head) := by
  cases last : rest.getLast? <;> simp [List.getLast?_cons, last]

variable [DecidableEq α]

section

variable (inner : α → Bool) (word : List α)

/-- The search, with the items still to be skipped and the item before the text. -/
def searchFrom : Nat → Option α → List α → Bool
  | _, _, [] => false
  | skip + 1, _, head :: rest => searchFrom skip (some head) rest
  | 0, before, head :: rest =>
    if word.isPrefixOf (head :: rest) then
      if !before.any inner && !((head :: rest).drop word.length).head?.any inner then true
      else searchFrom (word.length - 1) (some head) rest
    else searchFrom 0 (some head) rest

def containsWord (text : List α) : Bool := searchFrom inner word 0 none text

end

variable {inner : α → Bool} {word text : List α}

theorem searchFrom_complete (nonempty : word ≠ []) (word_inner : ∀ item ∈ word, inner item = true)
    {front back : List α} {skip : Nat} {before : Option α} (skipped : skip ≤ front.length)
    (apart : (front.getLast?.or before).any inner = false)
    (apart' : back.head?.any inner = false) :
    searchFrom inner word skip before (front ++ (word ++ back)) = true := by
  induction front generalizing skip before with
  | nil =>
    obtain rfl := Nat.le_zero.mp skipped
    obtain ⟨head, rest, cons⟩ := List.exists_cons_of_ne_nil nonempty
    have here : word.isPrefixOf (word ++ back) = true :=
      List.isPrefixOf_iff_prefix.mpr (List.prefix_append word back)
    have behind : (word ++ back).drop word.length = back := List.drop_left
    rw [List.nil_append]
    rw [cons, List.cons_append] at here behind ⊢
    rw [searchFrom, if_pos here, behind]
    simp [show before.any inner = false from apart, apart']
  | cons head rest ih =>
    have later : (rest.getLast?.or (some head)).any inner = false := by
      rwa [← getLast?_cons_or head rest before]
    rw [List.cons_append]
    cases skip with
    | succ skip => exact ih (Nat.le_of_succ_le_succ skipped) later
    | zero =>
      rw [searchFrom]
      split
      · rename_i here
        split
        · rfl
        · obtain ⟨others, first⟩ := List.isPrefixOf_iff_prefix.mp here
          have last : (head :: rest).getLast?.any inner = false := by
            rw [List.getLast?_cons] at apart ⊢
            exact apart
          have bound := word_length_le word_inner (first.trans (List.cons_append ..).symm) (by simp)
            last
          exact ih (by simpa using bound) later
      · exact ih (Nat.zero_le _) later

/-- Items to be skipped are passed without a look. -/
theorem searchFrom_skip {front back : List α} {before : Option α} :
    searchFrom inner word front.length before (front ++ back) =
      searchFrom inner word 0 (front.getLast?.or before) back := by
  induction front generalizing before with
  | nil => rfl
  | cons head rest ih =>
    rw [List.length_cons, List.cons_append, searchFrom, ih, getLast?_cons_or]

/-- Items at which no occurrence begins are passed. -/
theorem searchFrom_gap {front back : List α} {before : Option α}
    (none : ∀ early late, front = early ++ late → late ≠ [] → ¬ word <+: late ++ back) :
    searchFrom inner word 0 before (front ++ back) =
      searchFrom inner word 0 (front.getLast?.or before) back := by
  induction front generalizing before with
  | nil => rfl
  | cons head rest ih =>
    have here : ¬ word.isPrefixOf (head :: (rest ++ back)) = true := by
      rw [List.isPrefixOf_iff_prefix]
      exact none [] (head :: rest) rfl (by simp)
    rw [List.cons_append, searchFrom, if_neg here, getLast?_cons_or]
    refine ih fun early late split some => none (head :: early) late ?_ some
    rw [split, List.cons_append]

theorem searchFrom_none {text : List α} {before : Option α}
    (none : ∀ early late, text = early ++ late → ¬ word <+: late) :
    searchFrom inner word 0 before text = false := by
  have passed : searchFrom inner word 0 before (text ++ []) =
      searchFrom inner word 0 (text.getLast?.or before) [] := by
    apply searchFrom_gap
    intro early late split _
    rw [List.append_nil]
    exact none early late split
  rw [List.append_nil] at passed
  rw [passed, searchFrom]

/-- At an occurrence between inner items the search goes on behind it. -/
theorem searchFrom_found {back : List α} {before : Option α} (nonempty : word ≠ []) :
    searchFrom inner word 0 before (word ++ back) =
      (!before.any inner && !back.head?.any inner ||
        searchFrom inner word 0 (word.getLast?.or before) back) := by
  obtain ⟨head, rest, rfl⟩ := List.exists_cons_of_ne_nil nonempty
  have here : (head :: rest).isPrefixOf (head :: (rest ++ back)) = true :=
    List.isPrefixOf_iff_prefix.mpr (List.prefix_append (head :: rest) back)
  have behind : ((head :: rest) ++ back).drop (head :: rest).length = back := List.drop_left
  have skipped : searchFrom inner (head :: rest) (head :: rest).length before ((head :: rest) ++ back) =
      searchFrom inner (head :: rest) 0 ((head :: rest).getLast?.or before) back := searchFrom_skip
  rw [List.cons_append] at behind
  rw [List.length_cons, List.cons_append, searchFrom] at skipped
  rw [List.cons_append, searchFrom, if_pos here, behind, List.length_cons, Nat.add_sub_cancel,
    skipped]
  split
  · rename_i free
    rw [free, Bool.true_or]
  · rename_i crowded
    rw [eq_false_of_ne_true crowded, Bool.false_or]

theorem searchFrom_sound {text : List α} {skip : Nat} {before : Option α}
    (found : searchFrom inner word skip before text = true) : ∃ front back,
      text = front ++ (word ++ back) ∧ (front.getLast?.or before).any inner = false ∧
        back.head?.any inner = false := by
  induction text generalizing skip before with
  | nil => cases found
  | cons head rest ih =>
    have later {skip : Nat} (found : searchFrom inner word skip (some head) rest = true) :
        ∃ front back, head :: rest = front ++ (word ++ back) ∧
          (front.getLast?.or before).any inner = false ∧ back.head?.any inner = false := by
      obtain ⟨front, back, rfl, apart, apart'⟩ := ih found
      exact ⟨head :: front, back, rfl, by rwa [getLast?_cons_or], apart'⟩
    cases skip with
    | succ skip => exact later found
    | zero =>
      rw [searchFrom] at found
      split at found
      · rename_i here
        obtain ⟨back, split'⟩ := List.isPrefixOf_iff_prefix.mp here
        split at found
        · rename_i free
          rw [← split', List.drop_left, Bool.and_eq_true_iff] at free
          refine ⟨[], back, split'.symm, by simpa using free.1, by simpa using free.2⟩
        · exact later found
      · exact later found

theorem containsWord_complete (nonempty : word ≠ []) (word_inner : ∀ item ∈ word, inner item = true)
    (delimited : Delimited inner word text) : containsWord inner word text = true := by
  obtain ⟨front, back, rfl, apart, apart'⟩ := delimited
  rw [containsWord, List.append_assoc]
  exact searchFrom_complete nonempty word_inner (Nat.zero_le _) (by simpa using apart) apart'

/-- A word of inner items is found exactly where it stands between delimiters. -/
theorem containsWord_iff (nonempty : word ≠ []) (word_inner : ∀ item ∈ word, inner item = true) :
    containsWord inner word text = true ↔ Delimited inner word text := by
  constructor
  · intro found
    obtain ⟨front, back, split, apart, apart'⟩ := searchFrom_sound found
    exact ⟨front, back, by rw [split, List.append_assoc], by simpa using apart, apart'⟩
  · exact containsWord_complete nonempty word_inner

end RocqMcp.Library
