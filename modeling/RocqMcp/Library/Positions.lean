import Mathlib.Algebra.GroupWithZero.Nat
import Mathlib.Data.List.Induction

/-! Places in a sequence of items, by line and column. An item is wide in columns,
and in offsets by another measure. -/

namespace RocqMcp.Library

structure Place where
  line : Nat
  column : Nat
  deriving DecidableEq

/-- The lexicographic order. -/
def Place.Before (place other : Place) : Prop :=
  place.line < other.line ∨ place.line = other.line ∧ place.column < other.column

theorem Place.Before.trans {first second third : Place} (early : first.Before second)
    (late : second.Before third) : first.Before third := by
  unfold Place.Before at *
  omega

/-- Which items end a line, and both measures of the items. -/
structure Ruler (α : Type) where
  breaks : α → Bool
  columns : α → Nat
  width : α → Nat
  positive : ∀ item, 0 < columns item

namespace Ruler

variable {α : Type} (ruler : Ruler α)

def advance (place : Place) (item : α) : Place :=
  if ruler.breaks item then { line := place.line + 1, column := 0 }
  else { place with column := place.column + ruler.columns item }

/-- The place behind the items. -/
def placeAfter (items : List α) : Place := items.foldl ruler.advance { line := 0, column := 0 }

def offset (items : List α) : Nat := (items.map ruler.width).sum

/-- The offset at a line and column. A column behind the end of its line stands
for the end, and one inside an item for none. -/
def locate : List α → Nat → Nat → Option Nat
  | [], 0, _ => some 0
  | [], _ + 1, _ => none
  | item :: rest, line + 1, column =>
    (locate rest (if ruler.breaks item then line else line + 1) column).map (ruler.width item + ·)
  | item :: rest, 0, column =>
    if column = 0 ∨ ruler.breaks item then some 0
    else if ruler.columns item ≤ column then
      (locate rest 0 (column - ruler.columns item)).map (ruler.width item + ·)
    else none

variable {ruler} {item : α} {items front back : List α}

theorem before_advance (place : Place) (item : α) : place.Before (ruler.advance place item) := by
  unfold Place.Before advance
  split
  · exact .inl (Nat.lt_succ_self _)
  · exact .inr ⟨rfl, Nat.lt_add_of_pos_right (ruler.positive item)⟩

theorem placeAfter_concat :
    ruler.placeAfter (items ++ [item]) = ruler.advance (ruler.placeAfter items) item := by
  rw [placeAfter, List.foldl_append, List.foldl_cons, List.foldl_nil, placeAfter]

/-- Places grow with the items before them. -/
theorem placeAfter_before (some : back ≠ []) :
    (ruler.placeAfter front).Before (ruler.placeAfter (front ++ back)) := by
  induction back using List.reverseRecOn with
  | nil => exact absurd rfl some
  | append_singleton back item ih =>
    have last : (ruler.placeAfter (front ++ back)).Before
        (ruler.placeAfter (front ++ (back ++ [item]))) := by
      rw [← List.append_assoc, placeAfter_concat]
      exact before_advance _ item
    by_cases empty : back = []
    · simpa [empty] using last
    · exact (ih empty).trans last

theorem foldl_advance (place : Place) : items.foldl ruler.advance place =
    { line := place.line + (ruler.placeAfter items).line
      column := if (ruler.placeAfter items).line = 0 then
          place.column + (ruler.placeAfter items).column
        else (ruler.placeAfter items).column } := by
  induction items using List.reverseRecOn with
  | nil => simp [placeAfter]
  | append_singleton items item ih =>
    rw [placeAfter_concat, List.foldl_append, List.foldl_cons, List.foldl_nil, ih]
    simp only [advance]
    split
    · simp [Nat.add_assoc]
    · split <;> simp [Nat.add_assoc]

theorem placeAfter_cons : ruler.placeAfter (item :: items) =
    if ruler.breaks item then
      { ruler.placeAfter items with line := (ruler.placeAfter items).line + 1 }
    else if (ruler.placeAfter items).line = 0 then
      { line := 0, column := ruler.columns item + (ruler.placeAfter items).column }
    else ruler.placeAfter items := by
  rw [placeAfter, List.foldl_cons, foldl_advance]
  by_cases ends : ruler.breaks item = true
  · simp [advance, ends, Nat.add_comm]
  · by_cases first : (ruler.placeAfter items).line = 0 <;> simp [advance, ends, first]

/-- The offset at the place behind some items is the width of these items. -/
theorem locate_placeAfter : ruler.locate (front ++ back) (ruler.placeAfter front).line
    (ruler.placeAfter front).column = some (ruler.offset front) := by
  induction front with
  | nil => cases back <;> simp [placeAfter, locate, offset]
  | cons item front ih =>
    have longer : ruler.offset (item :: front) = ruler.width item + ruler.offset front := by
      simp [offset]
    rw [List.cons_append, placeAfter_cons, longer]
    by_cases ends : ruler.breaks item = true
    · simp [locate, ends, ih]
    · by_cases first : (ruler.placeAfter front).line = 0
      · have wide := ruler.positive item
        rw [first] at ih
        have apart : ¬ ruler.columns item = 0 := by omega
        simp [locate, ends, first, ih, apart]
      · obtain ⟨line, next⟩ := Nat.exists_eq_succ_of_ne_zero first
        rw [next] at ih
        simp [locate, ends, next, ih]

end Ruler

end RocqMcp.Library
