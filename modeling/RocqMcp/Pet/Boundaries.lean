import RocqMcp.Pet.Actor
import RocqMcp.Text

/-! Offsets on character boundaries split a text, and two of them select a part. -/

namespace RocqMcp

/-- `&text[start..stop]`: none off the character boundaries. -/
def textSlice? (text : String) (start stop : Nat) : Option String :=
  (textUpTo? text stop).bind fun front => textFrom? front start

theorem take_textBytes (front back : String) :
    (textBytes (front ++ back)).take front.utf8ByteSize = textBytes front := by
  rw [textBytes_append, ← length_textBytes, List.take_left]

/-- A character boundary splits the text into two texts. -/
theorem isCharBoundary_iff {text : String} {offset : Nat} : isCharBoundary text offset = true ↔
    ∃ front back, text = front ++ back ∧ front.utf8ByteSize = offset := by
  rw [isCharBoundary, Bool.and_eq_true_iff, decide_eq_true_iff, Option.isSome_iff_exists]
  constructor
  · rintro ⟨within, front, decoded⟩
    have bytes := textBytes_of_bytesText decoded
    have split : textBytes front ++ (textBytes text).drop offset = textBytes text := by
      rw [bytes, List.take_append_drop]
    obtain ⟨back, whole, _⟩ := textBytes_split split
    refine ⟨front, back, whole, ?_⟩
    rw [← length_textBytes, bytes, List.length_take, length_textBytes, Nat.min_eq_left within]
  · rintro ⟨front, back, rfl, rfl⟩
    exact ⟨by simp, front, by rw [take_textBytes, bytesText_textBytes]⟩

theorem textUpTo_split {text front : String} {offset : Nat}
    (cut : textUpTo? text offset = some front) : ∃ back, text = front ++ back := by
  rw [textUpTo?] at cut
  split at cut
  · have bytes := textBytes_of_bytesText cut
    have split : textBytes front ++ (textBytes text).drop offset = textBytes text := by
      rw [bytes, List.take_append_drop]
    obtain ⟨back, whole, _⟩ := textBytes_split split
    exact ⟨back, whole⟩
  · cases cut

/-- A part from the start of the text. -/
theorem textSlice_start {text front : String} {stop : Nat}
    (cut : textSlice? text 0 stop = some front) : ∃ back, text = front ++ back := by
  obtain ⟨whole, upTo, rest⟩ := Option.bind_eq_some_iff.mp cut
  rw [textFrom?, if_pos (Nat.zero_le _), List.drop_zero, bytesText_textBytes] at rest
  cases rest
  exact textUpTo_split upTo

/-- A later boundary leaves some text between it and the first one. -/
theorem split_later (front back : String) {later : Nat} (order : front.utf8ByteSize < later)
    (boundary : isCharBoundary (front ++ back) later = true) :
    ∃ middle rest, back = middle ++ rest ∧ later = (front ++ middle).utf8ByteSize ∧
      middle.toList ≠ [] := by
  obtain ⟨front', rest, whole, rfl⟩ := isCharBoundary_iff.mp boundary
  obtain ⟨middle, rfl, behind⟩ := append_split whole (Nat.le_of_lt order)
  refine ⟨middle, rest, behind, rfl, ?_⟩
  intro empty
  have none : middle = "" := String.toList_injective empty
  rw [none, String.append_empty] at order
  exact Nat.lt_irrefl _ order

/-- The ends of a valid range split the text. -/
theorem validRange_iff {text : String} {start stop : Nat} : validRange text start stop = true ↔
    ∃ front middle back, text = front ++ middle ++ back ∧ start = front.utf8ByteSize ∧
      stop = (front ++ middle).utf8ByteSize := by
  constructor
  · intro valid
    simp only [validRange, Bool.and_eq_true_iff, decide_eq_true_iff] at valid
    obtain ⟨⟨⟨order, _⟩, boundary⟩, boundary'⟩ := valid
    obtain ⟨front, back, rfl, rfl⟩ := isCharBoundary_iff.mp boundary
    by_cases same : front.utf8ByteSize = stop
    · exact ⟨front, "", back, by simp, rfl, by simp [same]⟩
    · obtain ⟨middle, rest, rfl, rfl, _⟩ := split_later front back (by omega) boundary'
      exact ⟨front, middle, rest, (String.append_assoc ..).symm, rfl, rfl⟩
  · rintro ⟨front, middle, back, rfl, rfl, rfl⟩
    have boundary : isCharBoundary (front ++ middle ++ back) front.utf8ByteSize = true :=
      isCharBoundary_iff.mpr ⟨front, middle ++ back, String.append_assoc .., rfl⟩
    have boundary' : isCharBoundary (front ++ middle ++ back)
        (front.utf8ByteSize + middle.utf8ByteSize) = true :=
      isCharBoundary_iff.mpr ⟨front ++ middle, back, rfl, String.utf8ByteSize_append ..⟩
    simp [validRange, boundary, boundary']

theorem textSlice_append (front middle back : String) :
    textSlice? (front ++ middle ++ back) front.utf8ByteSize (front ++ middle).utf8ByteSize =
      some middle := by
  rw [textSlice?, textUpTo_append, Option.bind_some, textFrom_append]

end RocqMcp
