import Mathlib.Data.List.Infix

/-! A pattern tests the items of a window. A text is rewritten from left to right,
and no window may match across the seams of what is put in. -/

namespace RocqMcp.Library

variable {α : Type}

/-- The text begins with a window that passes the tests. -/
def fits : List (α → Bool) → List α → Bool
  | [], _ => true
  | _ :: _, [] => false
  | test :: tests, item :: items => test item && fits tests items

/-- The items pass the tests as far as both go. -/
def overlaps : List (α → Bool) → List α → Bool
  | test :: tests, item :: items => test item && overlaps tests items
  | _, _ => true

/-- Some window of the text passes the tests. -/
def occurs (pattern : List (α → Bool)) : List α → Bool
  | [] => pattern.isEmpty
  | item :: items => fits pattern (item :: items) || occurs pattern items

/-- Replace every match, from left to right. -/
def rewriteAll (pattern : List (α → Bool)) (replacement : List α) : Nat → List α → List α
  | 0, text => text
  | _ + 1, [] => []
  | fuel + 1, item :: items =>
    if fits pattern (item :: items) then
      replacement ++ rewriteAll pattern replacement fuel ((item :: items).drop pattern.length)
    else item :: rewriteAll pattern replacement fuel items

/-- No match begins inside the replacement, or ends inside after it began before. -/
def Apart (pattern : List (α → Bool)) (replacement : List α) : Prop :=
  (∀ late ∈ replacement.tails, late.isEmpty = false → overlaps pattern late = false) ∧
    ∀ late ∈ pattern.tail.tails, late.isEmpty = false → overlaps late replacement = false

instance (pattern : List (α → Bool)) (replacement : List α) :
    Decidable (Apart pattern replacement) :=
  inferInstanceAs (Decidable (_ ∧ _))

section

variable {pattern forbidden late : List (α → Bool)} {replacement front back text : List α}

theorem length_of_fits (matched : fits pattern text = true) : pattern.length ≤ text.length := by
  induction pattern generalizing text with
  | nil => exact Nat.zero_le _
  | cons test tests ih =>
    cases text with
    | nil => cases matched
    | cons item items =>
      rw [fits, Bool.and_eq_true_iff] at matched
      exact Nat.succ_le_succ (ih matched.2)

theorem overlaps_of_fits (matched : fits pattern (front ++ back) = true) :
    overlaps pattern front = true := by
  induction front generalizing pattern with
  | nil => cases pattern <;> rfl
  | cons item items ih =>
    cases pattern with
    | nil => rfl
    | cons test tests =>
      rw [List.cons_append, fits, Bool.and_eq_true_iff] at matched
      rw [overlaps, Bool.and_eq_true_iff]
      exact ⟨matched.1, ih matched.2⟩

/-- A match behind a replacement does not reach into it. -/
theorem occurs_behind
    (behind : ∀ late ∈ front.tails, late.isEmpty = false → overlaps pattern late = false)
    (found : occurs pattern (front ++ back) = true) : occurs pattern back = true := by
  induction front with
  | nil => exact found
  | cons item items ih =>
    rw [List.cons_append, occurs, Bool.or_eq_true_iff] at found
    cases found with
    | inl matched =>
      have crosses : overlaps pattern (item :: items) = true := overlaps_of_fits matched
      rw [behind (item :: items) (by simp) rfl] at crosses
      cases crosses
    | inr later =>
      exact ih (fun late member => behind late (List.mem_cons_of_mem _ member)) later

/-- A match that goes on into rewritten text goes on into the text itself. -/
theorem fits_rewritten (fuel : Nat)
    (before : ∀ early ∈ late.tails, early.isEmpty = false → overlaps early replacement = false)
    (matched : fits late (rewriteAll pattern replacement fuel text) = true) :
    fits late text = true := by
  induction fuel generalizing late text with
  | zero => exact matched
  | succ fuel ih =>
    cases text with
    | nil => exact matched
    | cons item items =>
      cases late with
      | nil => rfl
      | cons test tests =>
        rw [rewriteAll] at matched
        split at matched
        · have crosses := overlaps_of_fits matched
          rw [before (test :: tests) (by simp) rfl] at crosses
          cases crosses
        · rw [fits, Bool.and_eq_true_iff] at matched ⊢
          exact ⟨matched.1, ih (fun early member => before early (List.mem_cons_of_mem _ member))
            matched.2⟩

theorem occurs_drop (count : Nat) (found : occurs pattern (text.drop count) = true) :
    occurs pattern text = true := by
  induction count generalizing text with
  | zero => exact found
  | succ count ih =>
    cases text with
    | nil => exact found
    | cons item items =>
      rw [occurs, Bool.or_eq_true_iff]
      exact .inr (ih found)

theorem fits_cons_rewritten {item : α} {items : List α} (fuel : Nat)
    (apart : Apart forbidden replacement)
    (matched : fits forbidden (item :: rewriteAll pattern replacement fuel items) = true) :
    fits forbidden (item :: items) = true := by
  cases forbidden with
  | nil => rfl
  | cons test tests =>
    rw [fits, Bool.and_eq_true_iff] at matched ⊢
    exact ⟨matched.1, fits_rewritten fuel apart.2 matched.2⟩

/-- The rewriting brings forth no match of a pattern that the text does not have. -/
theorem rewriteAll_introduces (fuel : Nat) (apart : Apart forbidden replacement)
    (absent : occurs forbidden text = false) :
    occurs forbidden (rewriteAll pattern replacement fuel text) = false := by
  induction fuel generalizing text with
  | zero => exact absent
  | succ fuel ih =>
    cases text with
    | nil => exact absent
    | cons item items =>
      rw [rewriteAll]
      by_cases matched : fits pattern (item :: items) = true
      · rw [if_pos matched]
        by_contra found
        have later := occurs_behind apart.1 (eq_true_of_ne_false found)
        rw [ih] at later
        · cases later
        · by_contra there
          rw [occurs_drop _ (eq_true_of_ne_false there)] at absent
          cases absent
      · rw [occurs, Bool.or_eq_false_iff] at absent
        rw [if_neg matched, occurs, Bool.or_eq_false_iff]
        refine ⟨?_, ih absent.2⟩
        by_contra found
        rw [fits_cons_rewritten fuel apart (eq_true_of_ne_false found)] at absent
        cases absent.1

/-- The rewriting leaves no match of its own pattern. -/
theorem rewriteAll_removes {fuel : Nat} (some : pattern ≠ []) (apart : Apart pattern replacement)
    (enough : text.length ≤ fuel) :
    occurs pattern (rewriteAll pattern replacement fuel text) = false := by
  have empty : occurs pattern ([] : List α) = false := by simpa [occurs] using some
  induction fuel generalizing text with
  | zero =>
    obtain rfl := List.length_eq_zero_iff.mp (Nat.le_zero.mp enough)
    exact empty
  | succ fuel ih =>
    cases text with
    | nil => exact empty
    | cons item items =>
      have length := List.length_pos_of_ne_nil some
      rw [List.length_cons] at enough
      rw [rewriteAll]
      by_cases matched : fits pattern (item :: items) = true
      · have shorter : ((item :: items).drop pattern.length).length ≤ fuel := by
          rw [List.length_drop, List.length_cons]
          omega
        rw [if_pos matched]
        by_contra found
        have later := occurs_behind apart.1 (eq_true_of_ne_false found)
        rw [ih shorter] at later
        cases later
      · rw [if_neg matched, occurs, Bool.or_eq_false_iff]
        refine ⟨?_, ih (by omega)⟩
        by_contra found
        exact matched (fits_cons_rewritten fuel apart (eq_true_of_ne_false found))

theorem exists_of_fits {test : α → Bool} (member : test ∈ pattern)
    (matched : fits pattern text = true) : ∃ item ∈ text, test item = true := by
  induction pattern generalizing text with
  | nil => cases member
  | cons first tests ih =>
    cases text with
    | nil => cases matched
    | cons item items =>
      rw [fits, Bool.and_eq_true_iff] at matched
      cases member with
      | head => exact ⟨item, List.mem_cons_self, matched.1⟩
      | tail _ later =>
        obtain ⟨item', present, passed⟩ := ih later matched.2
        exact ⟨item', List.mem_cons_of_mem _ present, passed⟩

/-- Where no item passes one of the tests, there is no match. -/
theorem occurs_none (test : α → Bool) (member : test ∈ pattern)
    (fails : ∀ item ∈ text, test item = false) : occurs pattern text = false := by
  have none {late : List α} (within : late ⊆ text) : fits pattern late = false := by
    by_contra found
    obtain ⟨item, present, passed⟩ := exists_of_fits member (eq_true_of_ne_false found)
    rw [fails item (within present)] at passed
    cases passed
  have from' : ∀ late : List α, late ⊆ text → occurs pattern late = false := by
    intro late within
    induction late with
    | nil => simpa [occurs] using List.ne_nil_of_mem member
    | cons item items ih =>
      rw [occurs, none within, ih (List.subset_of_cons_subset within), Bool.or_false]
  exact from' text (List.Subset.refl _)

/-- A window anywhere in the text is found. -/
theorem occurs_append (front : List α) (matched : fits pattern back = true) (some : pattern ≠ []) :
    occurs pattern (front ++ back) = true := by
  induction front with
  | nil =>
    cases back with
    | nil =>
      obtain ⟨test, tests, rfl⟩ := List.exists_cons_of_ne_nil some
      cases matched
    | cons item items => rw [List.nil_append, occurs, matched, Bool.true_or]
  | cons item items ih => rw [List.cons_append, occurs, ih, Bool.or_true]

end

end RocqMcp.Library
