import Mathlib.Data.List.Basic

/-! Replacing one segment of a list: every segment that does not meet it stays,
at its place or shifted by the change of length. -/

namespace RocqMcp.Library

variable {α : Type}

/-- The segment of a list between two positions. -/
def slice (items : List α) (start stop : Nat) : List α := (items.take stop).drop start

/-- The list with the segment between two positions replaced. -/
def splice (items : List α) (start stop : Nat) (body : List α) : List α :=
  items.take start ++ body ++ items.drop stop

variable {items body : List α} {start stop first last : Nat}

theorem slice_eq_take_drop : slice items first last = (items.drop first).take (last - first) :=
  List.drop_take

theorem length_splice (ordered : start ≤ stop) (within : stop ≤ items.length) :
    (splice items start stop body).length + (stop - start) = items.length + body.length := by
  simp only [splice, List.length_append, List.length_take, List.length_drop]
  omega

theorem slice_splice_before (disjoint : last ≤ start) (within : start ≤ items.length) :
    slice (splice items start stop body) first last = slice items first last := by
  have kept : (items.take start ++ (body ++ items.drop stop)).take last = items.take last := by
    have inside : last ≤ (items.take start).length := by
      rw [List.length_take]
      omega
    rw [List.take_append_of_le_length inside, List.take_take, Nat.min_eq_left disjoint]
  rw [slice, splice, List.append_assoc, kept, slice]

theorem slice_splice_after (ordered : start ≤ stop) (within : stop ≤ items.length)
    (disjoint : stop ≤ first) :
    slice (splice items start stop body) (first - stop + (start + body.length))
      (last - stop + (start + body.length)) = slice items first last := by
  have size : (items.take start ++ body).length = start + body.length := by
    simp only [List.length_append, List.length_take]
    omega
  have dropped : (splice items start stop body).drop (first - stop + (start + body.length)) =
      items.drop first := by
    have rest : first - stop + (start + body.length) =
        (items.take start ++ body).length + (first - stop) := by omega
    rw [splice, rest, List.drop_length_add_append, List.drop_drop, Nat.add_sub_cancel' disjoint]
  have width : last - stop + (start + body.length) - (first - stop + (start + body.length)) =
      last - stop - (first - stop) := by omega
  rw [slice_eq_take_drop, slice_eq_take_drop, dropped, width]
  congr 1
  omega

end RocqMcp.Library
